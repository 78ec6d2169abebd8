/-
  TagTemplate.Proofs.Settings.Merging
  ────────────────────────────────
  **OVERRIDES ON OVERRIDES.**

  An environment is made from a blueprint, and another one from the same
  blueprint with some parts replaced.  To replace parts twice is to replace
  them once, by both overrides together, where the later ones count
  (`Overrides.followedBy`).  For most parts this is plain.  Options keep their
  places: an option that is there is replaced where it stands, a new one comes
  last, and it has to be the same place whichever way the options are merged.

    • `Options.merge_insert` — one more option on merged ones,
    • `Options.merge_merge` — merging is associative, order included,
    • `Environment.configure_twice` — the environment of both overrides.
-/
import TagTemplate.Environment

namespace TagTemplate

/-! ## §1. Options. -/

namespace Options

variable {all more : Options} {name other : String} {value : Setting} {e : String × Setting}

/-- Some option has the name. -/
def Has (o : Options) (name : String) : Prop := name ∈ o.map Prod.fst

/-- An option with another value, if it has the name. -/
def assign (name : String) (value : Setting) (e : String × Setting) : String × Setting :=
  if e.1 = name then (name, value) else e

theorem assign_of_eq (h : e.1 = name) : assign name value e = (name, value) := if_pos h

theorem assign_of_ne (h : e.1 ≠ name) : assign name value e = e := if_neg h

theorem assign_fst (name : String) (value : Setting) (e : String × Setting) :
    (assign name value e).1 = e.1 := by
  by_cases h : e.1 = name
  · rw [assign_of_eq h, h]
  · rw [assign_of_ne h]

/-- An option that is there is replaced where it stands. -/
theorem insert_of_has (h : all.Has name) : all.insert name value = all.map (assign name value) := by
  have hany : all.any (·.1 == name) = true := by simpa [Has] using h
  unfold insert
  rw [hany, if_pos rfl]
  refine List.map_congr_left fun e _ => ?_
  by_cases he : e.1 = name <;> simp [assign, he]

/-- A new one comes last. -/
theorem insert_of_not_has (h : ¬ all.Has name) :
    all.insert name value = all ++ [(name, value)] := by
  have hany : ¬ all.any (·.1 == name) = true := by simpa [Has] using h
  unfold insert
  rw [if_neg hany]

theorem has_map_assign : Has (all.map (assign name value)) other ↔ all.Has other := by
  have hnames : Prod.fst ∘ assign name value = Prod.fst := funext (assign_fst name value)
  unfold Has
  rw [List.map_map, hnames]

theorem has_insert : (all.insert name value).Has other ↔ other = name ∨ all.Has other := by
  by_cases h : all.Has name
  · rw [insert_of_has h, has_map_assign]
    exact ⟨.inr, fun hor => hor.elim (fun heq => heq ▸ h) id⟩
  · rw [insert_of_not_has h]
    simp [Has, or_comm]

theorem map_assign_of_not_has (h : ¬ all.Has name) : all.map (assign name value) = all := by
  refine (List.map_congr_left fun e he => ?_).trans (List.map_id all)
  exact assign_of_ne fun heq => h (heq ▸ List.mem_map_of_mem he)

theorem assign_assign (name : String) (value later : Setting) (e : String × Setting) :
    assign name later (assign name value e) = assign name later e := by
  by_cases h : e.1 = name
  · rw [assign_of_eq h, assign_of_eq h]
    exact assign_of_eq rfl
  · rw [assign_of_ne h]

theorem assign_comm (hne : other ≠ name) (value later : Setting) (e : String × Setting) :
    assign name value (assign other later e) = assign other later (assign name value e) := by
  by_cases h : e.1 = name
  · have hother : e.1 ≠ other := fun heq => hne (heq.symm.trans h)
    rw [assign_of_ne hother, assign_of_eq h, assign_of_ne hne.symm]
  · rw [assign_of_ne h, assign_of_ne (by rwa [assign_fst])]

/-- The value that is put in place last counts. -/
theorem insert_twice (all : Options) (name : String) (value later : Setting) :
    (all.insert name value).insert name later = all.insert name later := by
  rw [insert_of_has (has_insert.mpr (.inl rfl))]
  by_cases h : all.Has name
  · rw [insert_of_has h, insert_of_has h, List.map_map]
    exact List.map_congr_left fun e _ => assign_assign name value later e
  · rw [insert_of_not_has h, insert_of_not_has h, List.map_append, map_assign_of_not_has h]
    exact congrArg (all ++ [·]) (assign_of_eq rfl)

/-- Where an option is there already, another one may be put in place before it or behind it. -/
theorem insert_comm (h : all.Has name) (hne : other ≠ name) (value later : Setting) :
    (all.insert other later).insert name value = (all.insert name value).insert other later := by
  rw [insert_of_has (has_insert.mpr (.inr h)), insert_of_has h]
  by_cases hother : all.Has other
  · rw [insert_of_has hother, insert_of_has (has_map_assign.mpr hother), List.map_map, List.map_map]
    exact List.map_congr_left fun e _ => assign_comm hne value later e
  · rw [insert_of_not_has hother, insert_of_not_has (mt has_map_assign.mp hother), List.map_append,
      List.map_singleton, assign_of_ne hne]

theorem merge_cons (all more : Options) (e : String × Setting) :
    all.merge (e :: more) = (all.insert e.1 e.2).merge more := rfl

/-- An option that is there already may be put in place first, if the options to be merged in say
the same of it. -/
theorem merge_map_assign (h : all.Has name) :
    (all.insert name value).merge (more.map (assign name value))
      = (all.merge more).insert name value := by
  induction more generalizing all with
  | nil => rfl
  | cons e more ih =>
      have hhas : (all.insert e.1 e.2).Has name := has_insert.mpr (.inr h)
      rw [List.map_cons, merge_cons, merge_cons, ← ih hhas]
      by_cases hname : e.1 = name
      · rw [assign_of_eq hname, hname, insert_twice, insert_twice]
      · rw [assign_of_ne hname, insert_comm h hname]

/-- **One more option**, put in place before merging or behind it. -/
theorem merge_insert (all more : Options) (name : String) (value : Setting) :
    all.merge (more.insert name value) = (all.merge more).insert name value := by
  by_cases h : more.Has name
  · rw [insert_of_has h]
    induction more generalizing all with
    | nil => exact absurd h List.not_mem_nil
    | cons e more ih =>
        rw [List.map_cons, merge_cons, merge_cons]
        by_cases hname : e.1 = name
        · -- from here on the option is there
          have hhas : (all.insert name e.2).Has name := has_insert.mpr (.inl rfl)
          rw [assign_of_eq hname, hname, ← insert_twice all name e.2, merge_map_assign hhas]
        · rw [assign_of_ne hname]
          exact ih _ (List.mem_of_ne_of_mem (Ne.symm hname) h)
  · rw [insert_of_not_has h]
    exact List.foldl_append

/-- **Merging is associative**, the order of the options included. -/
theorem merge_merge (all more later : Options) :
    (all.merge more).merge later = all.merge (more.merge later) := by
  induction later generalizing more with
  | nil => rfl
  | cons e later ih => rw [merge_cons, merge_cons, ← merge_insert, ih]

end Options

/-! ## §2. Overrides. -/

/-- Overrides together with later ones: where both replace a part, the later ones count. -/
def Overrides.followedBy (o later : Overrides) : Overrides where
  loader := later.loader.or o.loader
  escape := later.escape.or o.escape
  filter := later.filter.or o.filter
  maxDepth := later.maxDepth.or o.maxDepth
  globals := later.globals.or o.globals
  options := o.options.merge later.options

theorem getD_or {α : Type} (later earlier : Option α) (a : α) :
    (later.or earlier).getD a = later.getD (earlier.getD a) := by
  cases later <;> rfl

theorem Blueprint.override_override (b : Blueprint) (o later : Overrides) :
    (b.override o).override later = b.override (o.followedBy later) := by
  simp only [override, Overrides.followedBy, getD_or, Options.merge_merge]

/-- Overrides that replace nothing. -/
theorem Blueprint.override_nothing (b : Blueprint) : b.override {} = b := rfl

/-! ## §3. Environments. -/

namespace Environment

variable {e e' : Environment} {b : Blueprint} {o : Overrides}

/-- **Every environment is made from a blueprint.** -/
def IsMade (e : Environment) : Prop := ∃ b, make b = .ok e

/-- An environment knows what it was made from. -/
theorem make_blueprint (h : make b = .ok e) : e.blueprint = b := by
  unfold make at h
  dsimp only at h
  split at h
  · cases h
  · cases hdepth : checkDepth b.maxDepth with
    | error f => rw [hdepth] at h; cases h
    | ok depth =>
        cases hscan : ScanSettings.ofOptions b.options with
        | error f => rw [hdepth, hscan] at h; cases h
        | ok scan =>
            cases hcode : CodeSettings.ofOptions b.options with
            | error f => rw [hdepth, hscan, hcode] at h; cases h
            | ok code =>
                rw [hdepth, hscan, hcode] at h
                cases h
                rfl

theorem configure_isMade (h : e.configure o = .ok e') : e'.IsMade := ⟨_, h⟩

/-- **To configure twice is to configure once**, by both overrides together. -/
theorem configure_twice (h : e.configure o = .ok e') (later : Overrides) :
    e'.configure later = e.configure (o.followedBy later) := by
  unfold configure at h ⊢
  rw [make_blueprint h, Blueprint.override_override]

/-- To replace nothing changes nothing. -/
theorem configure_nothing (h : e.IsMade) : e.configure {} = .ok e := by
  obtain ⟨b, hmake⟩ := h
  unfold configure
  rw [Blueprint.override_nothing, make_blueprint hmake, hmake]

end Environment

end TagTemplate
