/-
  TagTemplate.Proofs.Code.PatternHeads
  ────────────────────────────────
  **FREE NAMES THAT PATTERNS START WITH.**

  Binding the free names puts a choice where a name was read.  An expression
  may stand wherever a name may, but for patterns: those compare with dotted
  names, look dotted names up and ask for classes by dotted names, and the
  grammar takes no choice there.

      case Color.RED:
      case (it['Color'] if 'Color' in it else Color).RED:    —   no pattern

  So the tree with its free names bound is readable exactly if no free name
  starts a dotted name of a pattern.  Otherwise no text has this tree.

    • `TreeNode.readable_replace_iff` — any replacement of names that are read,
    • `bindFree_readable_iff` — the binding of the free names,
    • `bindFree_unreadable` — a program that cannot be written down.
-/
import TagTemplate.Proofs.Code.FreeNames
import TagTemplate.Proofs.Script.Parsed

namespace TagTemplate

open Script

namespace Script.TreeNode

/-! ## §1. What stands in a pattern. -/

section Fixed

variable {f : String → TreeNode} {id : String}

theorem isLiteral_replace {n : TreeNode} (h : n.isLiteral = true) :
    (n.replace f).isLiteral = true := by
  cases n with
  | ident id use => cases h
  | mk l ns =>
      rw [replace]
      cases l <;> first | rfl | cases h

theorem root?_replace : ∀ {n : TreeNode}, n.root? = some id → (n.replace f).root? = (f id).root?
  | .ident _ .load, h => by
      cases h
      rw [replace]
  | .mk (.attribute _) [n], h => by
      have ih : (n.replace f).root? = (f id).root? := root?_replace (n := n) h
      rw [replace, replaceAll, replaceAll]
      exact ih

/-- The keys of a mapping stand in a row. -/
theorem fixedParts_mapping {n : TreeNode} (h : ∀ ks, n ≠ row ks) (rest : Option String)
    (ns : List TreeNode) : (mk (.mappingPattern rest) (n :: ns)).fixedParts = [] := by
  cases n with
  | ident id use => rfl
  | mk l ks =>
      cases l with
      | group => exact absurd rfl (h ks)
      | _ => rfl

/-- The expressions of a pattern are replaced like all other parts. -/
theorem fixedParts_replace (hf : ∀ id ks, f id ≠ row ks) (l : NodeLabel) (ns : List TreeNode) :
    (mk l (replaceAll f ns)).fixedParts = (mk l ns).fixedParts.map (replace f) := by
  rw [replaceAll_eq_map]
  cases l with
  | objectPattern names => cases ns <;> rfl
  | mappingPattern rest =>
      cases ns with
      | nil => rfl
      | cons first ns =>
          cases first with
          | ident id use =>
              cases use with
              | load =>
                  rw [List.map_cons, replace]
                  exact fixedParts_mapping (hf id) rest _
              | _ =>
                  rw [List.map_cons, replace]
                  rfl
          | mk l ks =>
              rw [List.map_cons, replace, replaceAll_eq_map]
              cases l <;> rfl
  | _ => rfl

end Fixed

/-! ## §2. Names that are replaced. -/

/-- The names that the dotted names of a pattern start with. -/
def heads (n : TreeNode) : List String := n.fixedParts.filterMap root?

theorem mem_heads {n : TreeNode} {name : String} :
    name ∈ n.heads ↔ ∃ k ∈ n.fixedParts, k.root? = some name := List.mem_filterMap

theorem ofExpr_ne_row (e : Expr) (ks : List TreeNode) : ofExpr e ≠ row ks := by
  intro h
  cases e with
  | formatted value conversion spec => cases spec <;> cases h
  | _ => cases h

section Replace

variable {f : String → Expr} (hf : ∀ id, (ofExpr (f id)).isLiteral = false)
include hf

/-- A dotted name is fixed once its name is replaced if that is replaced by a dotted name. -/
theorem isFixed_replace_iff {n : TreeNode} {id : String} (h : n.root? = some id) :
    (n.replace (standIn f)).IsFixed ↔ (ofExpr (f id)).root?.isSome = true := by
  have hliteral : (n.replace (standIn f)).isLiteral = false := by
    cases n with
    | ident name use =>
        cases use with
        | load =>
            rw [replace]
            exact hf name
        | _ => cases h
    | mk l ns =>
        rw [replace]
        cases l <;> first | rfl | cases h
  rw [IsFixed, hliteral, root?_replace h]
  simp

/-- **A tree with names replaced is readable exactly if what patterns start with is replaced by dotted
names.** -/
theorem readable_replace_iff {n : TreeNode} (hn : n.IsReadable) :
    (n.replace (standIn f)).IsReadable
      ↔ n.Everywhere fun k => ∀ id ∈ k.heads, (ofExpr (f id)).root?.isSome = true := by
  constructor
  · intro h path k hk id hid
    obtain ⟨part, hpart, hroot⟩ := mem_heads.mp hid
    have hadmitted : (k.replace (standIn f)).Admitted := h path _ (at?_replace hk)
    refine (isFixed_replace_iff hf hroot).mp (hadmitted.fixed _ ?_)
    cases k with
    | ident id use => cases hpart
    | mk l ns =>
        rw [replace, fixedParts_replace fun id => ofExpr_ne_row (f id)]
        exact List.mem_map_of_mem hpart
  · intro h
    -- both hold at each path, the grammar's word on the node and that on what it starts with
    have hboth : n.Everywhere fun k => k.Admitted
        ∧ ∀ id ∈ k.heads, (ofExpr (f id)).root?.isSome = true :=
      fun path k hk => ⟨hn path k hk, h path k hk⟩
    refine hboth.replace ⟨fun id use _ => ⟨nofun, nofun⟩, ?_, fun id _ => readable_ofExpr (f id)⟩ n
    rintro l ns ⟨hadmitted, hheads⟩
    refine ⟨fun k hk => ?_, typed_replace hadmitted.typed⟩
    rw [fixedParts_replace fun id => ofExpr_ne_row (f id)] at hk
    obtain ⟨part, hpart, rfl⟩ := List.mem_map.mp hk
    rcases hadmitted.fixed part hpart with hliteral | hroot
    · exact .inl (isLiteral_replace hliteral)
    · obtain ⟨id, hid⟩ := Option.isSome_iff_exists.mp hroot
      exact (isFixed_replace_iff hf hid).mpr (hheads id (mem_heads.mpr ⟨part, hpart, hid⟩))

end Replace

end Script.TreeNode

open TreeNode

/-! ## §3. The free names. -/

/-- A pattern of a program has a dotted name that starts with a name. -/
def StartsPattern (t : Tree) (name : String) : Prop :=
  ∃ path n, (ofTree t).at? path = some n ∧ name ∈ n.heads

section Bind

variable {contextName name code : String} {t : Tree}

theorem not_isLiteral_inPlaceOf (free : List String) (id : String) :
    (ofExpr (inPlaceOf contextName free id)).isLiteral = false := by
  by_cases h : id ∈ free
  · rw [inPlaceOf_mem h]
    rfl
  · rw [inPlaceOf_not_mem h]
    rfl

/-- What stands in the place of a name is a dotted name if the name is not looked up. -/
theorem root?_inPlaceOf {free : List String} {id : String} :
    (ofExpr (inPlaceOf contextName free id)).root?.isSome = true ↔ id ∉ free := by
  by_cases h : id ∈ free
  · rw [inPlaceOf_mem h]
    exact ⟨nofun, fun hnot => absurd h hnot⟩
  · rw [inPlaceOf_not_mem h]
    exact ⟨fun _ => h, fun _ => rfl⟩

/-- **The tree of a text is readable with its free names bound exactly if no free name starts a dotted
name of a pattern.** -/
theorem bindFree_readable_iff (h : parseTree code = .ok t) :
    (ofTree (bindFree contextName (freeNames t contextName) t)).IsReadable
      ↔ ∀ name, IsFree contextName t name → ¬ StartsPattern t name := by
  rw [ofTree_bindFree, readable_replace_iff (not_isLiteral_inPlaceOf _) (parseTree_readable h)]
  simp only [root?_inPlaceOf, mem_freeNames_iff]
  constructor
  · rintro hall name hfree ⟨path, n, hn, hname⟩
    exact hall path n hn name hname hfree
  · exact fun hall path n hn name hname hfree => hall name hfree ⟨path, n, hn, hname⟩

/-- **A program whose free names are bound where a pattern starts with one is the tree of no text.** -/
theorem bindFree_unreadable (h : parseTree code = .ok t) (hfree : IsFree contextName t name)
    (hstarts : StartsPattern t name) (code' : String) :
    parseTree code' ≠ .ok (bindFree contextName (freeNames t contextName) t) :=
  fun hcode' => (bindFree_readable_iff h).mp (parseTree_readable hcode') name hfree hstarts

/-- `Color` starts the pattern of `case Color.RED:`. -/
example : StartsPattern [.mk 1 (.matchCases (.name "c" .load)
    [.mk (.value (.attribute (.name "Color" .load) "RED")) none [.mk 3 .pass] 2])] "Color" :=
  ⟨[0, 0, 1, 0, 0], _, rfl, List.mem_singleton_self _⟩

end Bind

end TagTemplate
