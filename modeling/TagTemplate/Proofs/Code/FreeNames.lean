/-
  TagTemplate.Proofs.Code.FreeNames
  ────────────────────────────────
  **WHICH NAMES ARE LOOKED UP, AND WHERE.**

  A name is looked up in the context if the program reads it somewhere, binds
  it nowhere, and nobody else provides it (`IsFree`).  Binding the free names
  changes the program at the nodes that read such a name, at any depth, and at
  no other node (`LooksUp`):

      title        —   it['title'] if 'title' in it else title
      title = 1    —   title = 1, and no title is looked up anywhere

  The name behind the `else` is not looked up again.

    • `mem_freeNames_iff` — the names that are found are the free ones,
    • `freeNames_ascending` — each is listed once, in ascending order,
    • `bindFree_exact` — both, with the program that comes of it,
    • `mem_boundNames_bindFree` — which binds the names that were bound before.
-/
import TagTemplate.Code.Ambient
import TagTemplate.Proofs.Script.Replacement

namespace TagTemplate

open Script

/-! ## §1. Free names. -/

/-- A name is free in a program: it is read at some node, and neither another node nor anybody else
binds it. -/
structure IsFree (contextName : String) (t : Tree) (name : String) : Prop where
  /-- Some node reads it. -/
  read : ∃ path, (TreeNode.ofTree t).at? path = some (.ident name .load)
  /-- No node binds, declares or unbinds it. -/
  unbound : ∀ path n, (TreeNode.ofTree t).at? path = some n → name ∉ n.binders
  /-- The script language does not bring it along. -/
  notBuiltin : name ∉ builtinNames
  /-- It is not the context. -/
  notContext : name ≠ contextName
  /-- The render function does not provide it. -/
  notProvided : name ∉ ["include", "include_async", "layout", "options"]
  /-- It does not belong to the generated code. -/
  notReserved : ¬ "__kiln".toList <+: name.toList

theorem mem_readNames {t : Tree} {name : String} :
    name ∈ readNames t ↔ .reads name ∈ Mention.inBlock t := by
  rw [readNames, List.mem_filterMap]
  constructor
  · rintro ⟨m, hm, hname⟩
    cases m with
    | reads n =>
        cases hname
        exact hm
    | binds n => cases hname
  · exact fun h => ⟨_, h, rfl⟩

theorem mem_boundNames {t : Tree} {name : String} :
    name ∈ boundNames t ↔ .binds name ∈ Mention.inBlock t := by
  rw [boundNames, List.mem_filterMap]
  constructor
  · rintro ⟨m, hm, hname⟩
    cases m with
    | binds n =>
        cases hname
        exact hm
    | reads n => cases hname
  · exact fun h => ⟨_, h, rfl⟩

/-- A name is read at a node that is this name. -/
theorem reads_mem_inBlock {t : Tree} {name : String} : .reads name ∈ Mention.inBlock t
    ↔ ∃ path, (TreeNode.ofTree t).at? path = some (.ident name .load) := by
  rw [TreeNode.mem_inBlock_iff]
  constructor
  · rintro ⟨path, n, hn, hm⟩
    exact ⟨path, TreeNode.reads_mem_ownMentions.mp hm ▸ hn⟩
  · rintro ⟨path, hn⟩
    exact ⟨path, _, hn, TreeNode.reads_mem_ownMentions.mpr rfl⟩

/-- A name is bound at a node that binds it. -/
theorem binds_mem_inBlock {t : Tree} {name : String} : .binds name ∈ Mention.inBlock t
    ↔ ∃ path n, (TreeNode.ofTree t).at? path = some n ∧ name ∈ n.binders := by
  simp only [TreeNode.mem_inBlock_iff, TreeNode.binds_mem_ownMentions]

theorem mayBeAmbient_iff {contextName name : String} :
    mayBeAmbient contextName name = true ↔ name ≠ contextName ∧ name ∉ builtinNames
      ∧ name ∉ providedNames ∧ ¬ reservedStart.toList <+: name.toList := by
  unfold mayBeAmbient isBuiltin
  simp only [Bool.and_eq_true, bne_iff_ne, Bool.not_eq_true', ← Bool.not_eq_true,
    List.contains_iff_mem, String.startsWith_string_iff, and_assoc]

/-! ## §2. The list of free names. -/

/-- Leaving out repetitions leaves out no name. -/
theorem mem_eraseReps {x : String} {l : List String} : x ∈ l.eraseReps ↔ x ∈ l := by
  -- `rs` is what is already kept, and `a` the name that is looked at
  have hloop : ∀ (as rs : List String) (a : String),
      x ∈ List.eraseRepsBy.loop (· == ·) a as rs ↔ x ∈ rs ∨ x = a ∨ x ∈ as := by
    intro as
    induction as with
    | nil =>
        intro rs a
        simp [List.eraseRepsBy.loop, or_comm]
    | cons b as ih =>
        intro rs a
        rw [List.eraseRepsBy.loop]
        split
        next h =>
          rw [ih, beq_iff_eq.mp h]
          simp
        next => simp [ih, or_assoc, or_comm, or_left_comm]
  cases l with
  | nil => rfl
  | cons a as => simp [List.eraseReps, List.eraseRepsBy, hloop]

theorem lt_of_le_of_bne {a b : String} (h : a ≤ b) (hne : (a == b) = false) : a < b :=
  String.not_le.mp fun hba => (beq_eq_false_iff_ne.mp hne) (String.le_antisymm h hba)

/-- Without repetitions, names in order are in ascending order. -/
theorem eraseReps_ascending {l : List String} (h : l.Pairwise (· ≤ ·)) :
    l.eraseReps.Pairwise (· < ·) := by
  -- `rs` is what is already kept, newest first, and `a` the name that is looked at
  have hloop : ∀ (as rs : List String) (a : String), (a :: as).Pairwise (· ≤ ·) →
      (rs.reverse ++ [a]).Pairwise (· < ·) →
      (List.eraseRepsBy.loop (· == ·) a as rs).Pairwise (· < ·) := by
    intro as
    induction as with
    | nil =>
        intro rs a _ hkept
        rw [List.eraseRepsBy.loop, List.reverse_cons]
        exact hkept
    | cons b as ih =>
        intro rs a hsorted hkept
        obtain ⟨hle, hrest⟩ := List.pairwise_cons.mp hsorted
        rw [List.eraseRepsBy.loop]
        split
        next heq =>
          obtain rfl := beq_iff_eq.mp heq
          exact ih rs a hrest hkept
        next hne =>
          have hab : a < b := lt_of_le_of_bne (hle b List.mem_cons_self) hne
          refine ih (a :: rs) b hrest ?_
          rw [List.reverse_cons, List.pairwise_append]
          refine ⟨hkept, List.pairwise_singleton _ _, fun x hx y hy => ?_⟩
          obtain rfl := List.mem_singleton.mp hy
          rcases List.mem_append.mp hx with hx | hx
          · exact String.lt_trans ((List.pairwise_append.mp hkept).2.2 x hx a
              (List.mem_singleton.mpr rfl)) hab
          · obtain rfl := List.mem_singleton.mp hx
            exact hab
  cases l with
  | nil => exact .nil
  | cons a as => exact hloop as [] a h (List.pairwise_singleton _ _)

/-- **Each free name is listed once, in ascending order.** -/
theorem freeNames_ascending (t : Tree) (contextName : String) :
    (freeNames t contextName).Pairwise (· < ·) := by
  refine eraseReps_ascending ?_
  refine (List.pairwise_mergeSort ?_ ?_ _).imp of_decide_eq_true
  · intro a b c hab hbc
    exact decide_eq_true (String.le_trans (of_decide_eq_true hab) (of_decide_eq_true hbc))
  · intro a b
    rcases String.le_total a b with h | h <;> simp [h]

/-- The names that are found are read, not bound, and may be looked up. -/
theorem mem_freeNames {t : Tree} {contextName name : String} :
    name ∈ freeNames t contextName
      ↔ (.reads name ∈ Mention.inBlock t ∧ .binds name ∉ Mention.inBlock t)
        ∧ mayBeAmbient contextName name = true := by
  unfold freeNames
  rw [mem_eraseReps, List.mem_mergeSort, List.mem_filter, mem_readNames, Bool.and_eq_true,
    Bool.not_eq_true', ← Bool.not_eq_true, List.contains_iff_mem, mem_boundNames, and_assoc]

/-- **The names that are found are the free ones.** -/
theorem mem_freeNames_iff {t : Tree} {contextName name : String} :
    name ∈ freeNames t contextName ↔ IsFree contextName t name := by
  rw [mem_freeNames, reads_mem_inBlock, binds_mem_inBlock, mayBeAmbient_iff]
  constructor
  · rintro ⟨⟨hread, hbound⟩, hcontext, hbuiltin, hprovided, hreserved⟩
    exact ⟨hread, fun path n hn hname => hbound ⟨path, n, hn, hname⟩, hbuiltin, hcontext, hprovided,
      hreserved⟩
  · rintro ⟨hread, hbound, hbuiltin, hcontext, hprovided, hreserved⟩
    exact ⟨⟨hread, fun ⟨path, n, hn, hname⟩ => hbound path n hn hname⟩, hcontext, hbuiltin, hprovided,
      hreserved⟩

/-- In `x = title + len(x)` the name `x` is bound and `len` is brought along. -/
example : freeNames [.mk 1 (.assign [.name "x" .store] (.binary .add (.name "title" .load)
    (.call (.name "len" .load) [.name "x" .load] [])))] "it" = ["title"] := by
  decide +kernel

/-! ## §3. The program with its free names bound. -/

/-- One program is another one in which the names that are read and free are looked up in the
context, at every path and nowhere twice. -/
structure LooksUp (contextName : String) (free : String → Prop) (t t' : Tree) : Prop where
  /-- A name that is read and free has become a choice: its entry of the context, if there is one, or
  else the name itself. -/
  looked : ∀ path name, (TreeNode.ofTree t).at? path = some (.ident name .load) → free name →
    (TreeNode.ofTree t').at? path = some (TreeNode.ofExpr
      (.ifElse (.compare (.constant (.str name false)) [.mk .member (.name contextName .load)])
        (.subscript (.name contextName .load) (.constant (.str name false))) (.name name .load)))
  /-- Any other name stays as it is. -/
  kept : ∀ path name use, (TreeNode.ofTree t).at? path = some (.ident name use) →
    ¬ (use = .load ∧ free name) → (TreeNode.ofTree t').at? path = some (.ident name use)
  /-- Any other node keeps its label, with all that is no part of the tree, and the number of its
  parts. -/
  node : ∀ path l ns, (TreeNode.ofTree t).at? path = some (.mk l ns) →
    ∃ ns', (TreeNode.ofTree t').at? path = some (.mk l ns') ∧ ns'.length = ns.length

/-- What stands in the place of a name that is read. -/
def inPlaceOf (contextName : String) (free : List String) (name : String) : Expr :=
  if free.contains name then ambientLookup contextName name else .name name .load

section InPlace

variable {contextName : String} {free : List String} {name : String}

theorem inPlaceOf_mem (h : name ∈ free) :
    inPlaceOf contextName free name = ambientLookup contextName name :=
  if_pos (List.contains_iff_mem.mpr h)

theorem inPlaceOf_not_mem (h : name ∉ free) : inPlaceOf contextName free name = .name name .load :=
  if_neg fun hmem => h (List.contains_iff_mem.mp hmem)

end InPlace

/-- Binding names is replacing them. -/
theorem ofTree_bindFree (contextName : String) (free : List String) (t : Tree) :
    TreeNode.ofTree (bindFree contextName free t)
      = (TreeNode.ofTree t).replace (TreeNode.standIn (inPlaceOf contextName free)) :=
  TreeNode.ofTree_block _ t

/-- Looking names up is replacing them. -/
theorem looksUp_iff {contextName : String} {free : List String} {t t' : Tree} :
    LooksUp contextName (· ∈ free) t t'
      ↔ TreeNode.IsReplaced (TreeNode.standIn (inPlaceOf contextName free)) (TreeNode.ofTree t)
        (TreeNode.ofTree t') := by
  constructor
  · intro h
    refine ⟨fun path name hread => ?_, fun path name use huse hname => ?_, h.node⟩
    · by_cases hfree : name ∈ free
      · rw [TreeNode.standIn, inPlaceOf_mem hfree]
        exact h.looked path name hread hfree
      · rw [TreeNode.standIn, inPlaceOf_not_mem hfree]
        exact h.kept path name .load hread fun hload => hfree hload.2
    · exact h.kept path name use hname fun hload => huse hload.1
  · intro h
    refine ⟨fun path name hread hfree => ?_, fun path name use hname hother => ?_, h.node⟩
    · rw [h.read path name hread, TreeNode.standIn, inPlaceOf_mem hfree]
      rfl
    · by_cases huse : use = .load
      · subst huse
        have hfree : name ∉ free := fun hmem => hother ⟨rfl, hmem⟩
        rw [h.read path name hname, TreeNode.standIn, inPlaceOf_not_mem hfree]
        rfl
      · exact h.kept path name use huse hname

/-- **The free names of a program are those that are read, bound nowhere and not provided, and binding
them gives the one program in which these names are looked up where they are read and all else is as it
was.** -/
theorem bindFree_exact (contextName : String) (t : Tree) :
    (∀ name, name ∈ freeNames t contextName ↔ IsFree contextName t name)
      ∧ (freeNames t contextName).Pairwise (· < ·)
      ∧ ∀ t', t' = bindFree contextName (freeNames t contextName) t
        ↔ LooksUp contextName (IsFree contextName t) t t' := by
  refine ⟨fun name => mem_freeNames_iff, freeNames_ascending t contextName, fun t' => ?_⟩
  -- what is bound are the names of the list, and these are the free ones
  have hfree : IsFree contextName t = (· ∈ freeNames t contextName) :=
    funext fun name => propext mem_freeNames_iff.symm
  rw [hfree, looksUp_iff, TreeNode.isReplaced_iff, ← ofTree_bindFree]
  exact ⟨congrArg TreeNode.ofTree, fun h => TreeNode.ofTree_injective h⟩

/-! ## §4. What stays bound. -/

namespace Script.TreeNode

section Binds

variable {x : String} {f : String → TreeNode}

mutual

/-- A node binds what it binds, also with names in it replaced by what binds nothing. -/
theorem binds_mem_replace (hf : ∀ id, .binds x ∉ (f id).mentions) : ∀ n : TreeNode,
    .binds x ∈ (n.replace f).mentions ↔ .binds x ∈ n.mentions
  | .ident id .load => by simp [hf id, Mention.ofUse]
  | .ident id .store | .ident id .delete => by simp
  | .mk l ns => by simp [binds_mem_replaceAll hf ns]

theorem binds_mem_replaceAll (hf : ∀ id, .binds x ∉ (f id).mentions) : ∀ ns : List TreeNode,
    .binds x ∈ mentionsAll (replaceAll f ns) ↔ .binds x ∈ mentionsAll ns
  | [] => by simp
  | n :: ns => by simp [binds_mem_replace hf n, binds_mem_replaceAll hf ns]

end

end Binds

end Script.TreeNode

/-- What stands in the place of a name binds nothing. -/
theorem binds_not_mem_inPlaceOf (contextName : String) (free : List String) (id x : String) :
    .binds x ∉ Mention.inExpr (inPlaceOf contextName free id) := by
  by_cases h : id ∈ free
  · rw [inPlaceOf_mem h]
    simp [ambientLookup, Mention.inExpr, Mention.inComparisons, Mention.ofUse]
  · rw [inPlaceOf_not_mem h]
    simp [Mention.inExpr, Mention.ofUse]

/-- **A program with its free names bound binds the same names.** -/
theorem mem_boundNames_bindFree {contextName name : String} {free : List String} {t : Tree} :
    name ∈ boundNames (bindFree contextName free t) ↔ name ∈ boundNames t := by
  have hnodes : ∀ t : Tree, .binds name ∈ Mention.inBlock t
      ↔ .binds name ∈ (TreeNode.ofTree t).mentions := by
    intro t
    rw [TreeNode.ofTree, TreeNode.mentions_row, TreeNode.mem_mentionsAll_ofBlock]
  rw [mem_boundNames, mem_boundNames, hnodes, hnodes, ofTree_bindFree]
  refine TreeNode.binds_mem_replace (fun id => ?_) _
  rw [TreeNode.standIn, TreeNode.mentions_ofExpr]
  exact binds_not_mem_inPlaceOf contextName free id name

end TagTemplate
