/-
  TagTemplate.Proofs.Machine.Enclosing
  ────────────────────────────────
  **THE CONTEXT SEEN FROM INSIDE.**

  A name that is looked up reads the context by its name, wherever it stands:
  in a function in the body, in a comprehension in that function, and so on.
  Each of them has a frame of its own, and the name is looked for from the
  inmost frame outwards.  If the program binds the name of the context nowhere,
  no frame on the way owns it, and what is found is the parameter of the
  render function.

      [name for x in y]     —   reads it['name'] from two frames inside
      [name for it in y]    —   reads the `it` of the comprehension

    • `Within` — frames that code of the program opened inside of a frame,
    • `Within.readName_around` — a name that only the outermost one owns,
    • `ambientLookup_ends`, `ambientLookup_ordinary` — a lookup finds the entry
      of the context, or is the name itself,
    • `bindFree_hygienic` — for the texts that have their free names bound.
-/
import TagTemplate.Proofs.Code.FreeNames
import TagTemplate.Proofs.Machine.Mapping
import TagTemplate.Proofs.Machine.Site
import TagTemplate.Proofs.Script.Parsed
import TagTemplate.Proofs.Script.Unbound

namespace TagTemplate.Machine

open Script

/-! ## §1. Frames inside of a frame. -/

/-- The frames of a machine are in another one, with other values of variables at most. -/
def SameFrames (m m' : Machine) : Prop :=
  ∀ (f : Nat) (fr : Frame), m.frames[f]? = some fr → ∃ vars, m'.frames[f]? = some { fr with vars }

section SameFrames

variable {m m' : Machine}

theorem Keeps.sameFrames (h : Keeps m m') : SameFrames m m' := fun _ fr hfr => ⟨fr.vars, h.frames hfr⟩

theorem sameFrames_withValue (m : Machine) (g : Nat) (name : String) (v : Value) :
    SameFrames m (m.withValue g name v) := by
  intro f fr hfr
  by_cases h : g = f
  · subst h
    exact ⟨_, withValue_same hfr name v⟩
  · exact ⟨fr.vars, withValue_other hfr h name v⟩

end SameFrames

/-- A frame lies within another one: it is that frame, or code of the program opened it within. -/
inductive Within (t : Tree) (m : Machine) (here : Nat) : Nat → Prop
  /-- The frame itself. -/
  | here : Within t m here here
  /-- A frame of a function that was defined in such a frame, or of a comprehension that ran there. -/
  | inner {f g : Nat} {fr : Frame} {n : OwnNames} (hframe : m.frames[g]? = some fr) (habove : f < g)
      (hparent : fr.parent = some f) (hopens : Opens t n) (hlocals : fr.locals = n.own)
      (hglobals : fr.globals = n.globals) (hin : Within t m here f) : Within t m here g

section Within

variable {t : Tree} {m m' : Machine} {here f g : Nat} {fr : Frame} {name : String} {v : Value}

theorem Within.mono (h : Within t m here g) (hm : SameFrames m m') : Within t m' here g := by
  induction h with
  | here => exact .here
  | inner hframe habove hparent hopens hlocals hglobals _ ih =>
      obtain ⟨vars, hvars⟩ := hm _ _ hframe
      exact .inner hvars habove hparent hopens hlocals hglobals ih

theorem Within.keeps (h : Within t m here g) (hkeeps : Keeps m m') : Within t m' here g :=
  h.mono hkeeps.sameFrames

theorem Within.withValue (h : Within t m here g) (f : Nat) (name : String) (v : Value) :
    Within t (m.withValue f name v) here g :=
  h.mono (sameFrames_withValue m f name v)

/-- A comprehension runs in a frame within. -/
theorem comprehensionFrame_within (h : Within t m here f) (hframe : m.frames[f]? = some fr)
    {cs : List Clause} (hopens : Opens t { own := (namesOfClauses cs).own }) (kind : String) :
    ∃ m', Ends (comprehensionFrame cs f kind) m m.frames.size m' ∧ Within t m' here m.frames.size := by
  refine ⟨_, Ends.bind (Ends.frame hframe) rfl, ?_⟩
  refine .inner withFrame_new ?_ rfl hopens rfl rfl (h.keeps (.withFrame m _))
  exact (Array.getElem?_eq_some_iff.mp hframe).1

/-- So does the body of a function that was defined there. -/
theorem frameOf_within {c : Closure} {n : OwnNames} (h : Within t m here c.frame)
    (hframe : m.frames[c.frame]? = some fr) (hopens : Opens t n) (hlocals : c.locals = n.own)
    (hglobals : c.globals = n.globals) (vars : List (String × Value)) :
    Within t (m.withFrame (c.frameOf vars fr.program)) here m.frames.size :=
  .inner withFrame_new (Array.getElem?_eq_some_iff.mp hframe).1 rfl hopens hlocals hglobals
    (h.keeps (.withFrame m _))

/-! ## §2. Names of the outermost frame. -/

variable (hlack : ∀ n, Opens t n → n.Lack name)
include hlack

/-- **A name that no frame on the way owns lives in the outermost one.** -/
theorem Within.homeFrom_around (h : Within t m here g) (hframe : m.frames[here]? = some fr)
    (hown : fr.locals.contains name = true) (start : Nat) : ∀ fuel, g < fuel →
      Ends (homeFrom name start fuel g) m (if here == start then .own here else .outer here) m := by
  induction h with
  | here =>
      intro fuel hfuel
      obtain ⟨fuel, rfl⟩ := Nat.exists_eq_add_one.mpr (Nat.zero_lt_of_lt hfuel)
      refine Ends.bind (Ends.frame hframe) ?_
      rw [hown, if_pos rfl]
      split <;> exact .pure
  | @inner f g fr' n hframe' habove hparent hopens hlocals hglobals _ ih =>
      intro fuel hfuel
      obtain ⟨fuel, rfl⟩ := Nat.exists_eq_add_one.mpr (Nat.zero_lt_of_lt hfuel)
      obtain ⟨hnot, hnotGlobal⟩ := hlack n hopens
      refine Ends.bind (Ends.frame hframe') ?_
      rw [hlocals, hglobals, hparent, if_neg (by simpa using hnot)]
      dsimp only
      rw [if_neg (by simpa using hnotGlobal)]
      exact ih fuel (by omega)

/-- **So it is read from there.** -/
theorem Within.readName_around (h : Within t m here g) (hframe : m.frames[here]? = some fr)
    (hown : fr.locals.contains name = true) (hv : fr.vars.lookup name = some v) :
    Ends (readName name g) m v m := by
  refine Ends.bind (h.homeFrom_around hlack hframe hown g (g + 1) (Nat.lt_succ_self g)) ?_
  have hhome : (if here == g then Home.own here else Home.outer here).frame = here := by
    split <;> rfl
  rw [hhome]
  refine Ends.bind (Ends.frame hframe) ?_
  rw [hv]
  exact .pure

end Within

/-! ## §3. Lookups. -/

section Lookup

variable {p : Powers} {m : Machine} {g : Nat} {contextName name : String} {v w : Value}
  {fields : List (String × Value)}

/-- Whether the context has an entry of a name. -/
theorem member_ends (h : IsMapping v fields m) (name : String) :
    Ends (member (.str name) v) m (fields.lookup name).isSome m := by
  obtain ⟨id, rfl, hcell⟩ := h.cell
  exact Ends.bind (Ends.cellOf hcell) (Ends.bind (lookup?_ends hcell name) .pure)

theorem item_ends (h : IsMapping v fields m) (hentry : fields.lookup name = some w) :
    Ends (item v (.str name)) m w m := by
  obtain ⟨id, rfl, hcell⟩ := h.cell
  have hlookup := lookup?_ends hcell name
  rw [hentry] at hlookup
  exact Ends.bind (Ends.cell hcell) (Ends.bind hlookup .pure)

/-- The condition of a lookup. -/
theorem lookupTest_ends (name : String) (hcontext : Ends (readName contextName g) m v m)
    (hmapping : IsMapping v fields m) :
    Ends (expr p g (.compare (.constant (.str name false)) [.mk .member (.name contextName .load)])) m
      (.bool (fields.lookup name).isSome) m := by
  refine Ends.bind .pure (Ends.bind hcontext (Ends.bind (member_ends hmapping name) ?_))
  cases (fields.lookup name).isSome <;> exact .pure

/-- **A lookup is the entry of the context**, if there is one. -/
theorem ambientLookup_ends (hcontext : Ends (readName contextName g) m v m)
    (hmapping : IsMapping v fields m) (hentry : fields.lookup name = some w) :
    Ends (expr p g (ambientLookup contextName name)) m w m := by
  have htest := lookupTest_ends (p := p) name hcontext hmapping
  rw [hentry] at htest
  refine Ends.bind htest (Ends.bind .get ?_)
  exact Ends.bind hcontext (Ends.bind .pure (item_ends hmapping hentry))

/-- **Else it is the name itself**, as if it had not been bound. -/
theorem ambientLookup_ordinary (hcontext : Ends (readName contextName g) m v m)
    (hmapping : IsMapping v fields m) (hentry : fields.lookup name = none) :
    (expr p g (ambientLookup contextName name)).run m = (readName name g).run m := by
  have htest := lookupTest_ends (p := p) name hcontext hmapping
  rw [hentry] at htest
  exact (run_bind_ok htest _).trans (run_bind_ok Ends.get _)

end Lookup

/-! ## §4. The text of a tag. -/

/-- The target of a type is written to, also with the free names bound. -/
theorem storesTyped_bindFree {code : String} {t : Tree} (h : parseTree code = .ok t)
    (contextName : String) (free : List String) :
    (TreeNode.ofTree (bindFree contextName free t)).Everywhere TreeNode.StoresTyped := by
  have htree : (TreeNode.ofTree t).Everywhere TreeNode.StoresTyped :=
    (parseTree_readable h).mono fun _ hk => hk.typed
  rw [ofTree_bindFree]
  exact htree.replace ⟨fun _ _ _ => nofun, fun _ _ => TreeNode.typed_replace,
    fun id _ => (TreeNode.readable_ofExpr _).mono fun _ hk => hk.typed⟩

/-- **No name of the program captures a lookup, as long as it binds the name of the context nowhere.**
Within the frame that owns this name, at any depth, a lookup is the entry of the context if there is
one, and else the name itself. -/
theorem bindFree_hygienic {code contextName : String} {t : Tree} (h : parseTree code = .ok t)
    (hunbound : contextName ∉ boundNames t) {m : Machine} {here g : Nat} {fr : Frame} {v : Value}
    {fields : List (String × Value)}
    (hin : Within (bindFree contextName (freeNames t contextName) t) m here g)
    (hframe : m.frames[here]? = some fr) (hown : fr.locals.contains contextName = true)
    (hv : fr.vars.lookup contextName = some v) (hmapping : IsMapping v fields m) (p : Powers)
    (name : String) :
    (∀ w, fields.lookup name = some w → Ends (expr p g (ambientLookup contextName name)) m w m)
      ∧ (fields.lookup name = none →
        (expr p g (ambientLookup contextName name)).run m = (readName name g).run m) := by
  have hlack : ∀ n, Opens (bindFree contextName (freeNames t contextName) t) n →
      n.Lack contextName :=
    fun n hn => hn.lack (fun hmem => hunbound (mem_boundNames_bindFree.mp (mem_boundNames.mpr hmem)))
      (storesTyped_bindFree h contextName _)
  have hcontext : Ends (readName contextName g) m v m :=
    hin.readName_around hlack hframe hown hv
  exact ⟨fun w => ambientLookup_ends hcontext hmapping, ambientLookup_ordinary hcontext hmapping⟩

end TagTemplate.Machine
