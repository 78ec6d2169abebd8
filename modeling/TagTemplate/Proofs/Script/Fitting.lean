/-
  TagTemplate.Proofs.Script.Fitting
  ────────────────────────────────
  **CODE THAT MAY STAND IN A FUNCTION.**

  Code that is written by rule may be read back and run only if its lines and
  their nesting stay within what the lexer and the parser take, if nothing
  stands where it may not, and if the names it reads are never looked up in
  the context.  `Suite.Fits` says all this of statements at a level of
  indentation; it is built up along with the code:

      cons     — one statement before others
      before   — several of them
      guard    — statements of the next level, with handlers
      function — the statements of a function
-/
import TagTemplate.Code.Ambient
import TagTemplate.Proofs.Code.Rows
import TagTemplate.Proofs.Script.Scopes
import TagTemplate.Script.Placement

namespace TagTemplate

open Text Script

/-! ## §1. Names that are never looked up in the context. -/

/-- Whether a name is never looked up in the context, for a reason that can be computed. -/
def isProvided (contextName name : String) : Bool :=
  reservedStart.toList.isPrefixOf name.toList || name == contextName
    || providedNames.contains name || isBuiltin name

theorem mayBeAmbient_of_isProvided {contextName name : String}
    (h : isProvided contextName name = true) : mayBeAmbient contextName name = false := by
  have hstart : reservedStart.toList.isPrefixOf name.toList = name.startsWith reservedStart := by
    rw [Bool.eq_iff_iff, List.isPrefixOf_iff_prefix, String.startsWith_string_iff]
  unfold isProvided at h
  unfold mayBeAmbient
  rw [hstart] at h
  rw [bne]
  revert h
  cases name == contextName <;> cases isBuiltin name <;> cases providedNames.contains name <;>
    cases name.startsWith reservedStart <;> simp

/-- Whether all names that are read are provided. -/
def allProvided (contextName : String) (ms : List Mention) : Bool :=
  ms.all fun
    | .reads name => isProvided contextName name
    | .binds _ => true

theorem allProvided_append (contextName : String) (ms ns : List Mention) :
    allProvided contextName (ms ++ ns)
      = (allProvided contextName ms && allProvided contextName ns) := List.all_append

/-- Where all names that are read are provided, none is free. -/
theorem freeNames_of_allProvided {contextName : String} {t : Tree}
    (h : allProvided contextName (Mention.inBlock t) = true) : freeNames t contextName = [] := by
  have hnone : ∀ name ∈ readNames t, mayBeAmbient contextName name = false := by
    intro name hname
    obtain ⟨m, hm, hread⟩ := List.mem_filterMap.mp hname
    cases m with
    | reads n =>
        cases hread
        exact mayBeAmbient_of_isProvided (List.all_eq_true.mp h _ hm)
    | binds n => cases hread
  have hfilter : (readNames t).filter (fun n =>
      !(boundNames t).contains n && mayBeAmbient contextName n) = [] := by
    rw [List.filter_eq_nil_iff]
    intro name hname
    rw [hnone name hname, Bool.and_false]
    exact Bool.false_ne_true
  unfold freeNames
  dsimp only
  rw [hfilter, List.mergeSort_nil]
  rfl

namespace Script

/-! ## §2. Code that fits. -/

/-- Some statements before others. -/
def Suite.before (ss : List Sentence) (b : Suite) : Suite := ss.foldr .cons b

/-- The surroundings of a statement in a function. -/
def Place.inFunction (isAsync : Bool) (line : Nat) : Place where
  host := if isAsync then .asyncFunction else .function
  line := line

/-- The room for nesting: what indentation and expressions need together. -/
def room : Nat := 13

/-- Statements may stand at a level of indentation in a function. -/
structure Suite.Fits (isAsync : Bool) (contextName : String) (level : Nat) (b : Suite) : Prop where
  /-- They are not nested too deeply. -/
  depth : b.depth + level ≤ room
  /-- Their lines are read back. -/
  fine : Code.allFine level b.codes = true
  /-- Everything stands where it may. -/
  placed : ∀ line n, Place.block (.inFunction isAsync line) (b.lines n) = none
  /-- They hand out no values. -/
  plain : ∀ n, (Effects.block (b.lines n)).yields = false
  /-- All names they read are provided. -/
  provided : ∀ n, allProvided contextName (Mention.inBlock (b.lines n)) = true

theorem Effects.yields_append (a b : Effects) : (a ++ b).yields = (a.yields || b.yields) := rfl

section Fits

variable {isAsync : Bool} {contextName : String} {level : Nat} {s : Sentence} {b : Suite}

/-- One statement before others. -/
theorem Suite.Fits.cons (hs : (Suite.one s).Fits isAsync contextName level)
    (hb : b.Fits isAsync contextName level) : (Suite.cons s b).Fits isAsync contextName level where
  depth := by
    have h₁ : s.depth + level ≤ room := hs.depth
    have h₂ := hb.depth
    rw [Suite.depth]
    omega
  fine := by
    rw [Suite.codes, Code.allFine_append, hb.fine, Bool.and_true]
    exact hs.fine
  placed line n := by
    have h := hs.placed line n
    simp only [Suite.lines, Place.block] at h ⊢
    rw [hb.placed]
    exact h
  plain n := by
    have h := hs.plain n
    simp only [Suite.lines, Effects.block, Effects.yields_append] at h ⊢
    rw [hb.plain]
    exact h
  provided n := by
    have h := hs.provided n
    simp only [Suite.lines, Mention.inBlock, allProvided_append] at h ⊢
    rw [hb.provided]
    exact h

/-- Several statements before others. -/
theorem Suite.Fits.before {ss : List Sentence}
    (hs : ∀ s ∈ ss, (Suite.one s).Fits isAsync contextName level)
    (hb : b.Fits isAsync contextName level) : (Suite.before ss b).Fits isAsync contextName level := by
  induction ss with
  | nil => exact hb
  | cons s ss ih =>
      rw [List.forall_mem_cons] at hs
      exact hs.1.cons (ih hs.2)

/-- What fits at a level fits at the one before. -/
theorem Suite.Fits.of_succ (h : b.Fits isAsync contextName (level + 1)) :
    b.Fits isAsync contextName level :=
  { h with
    depth := Nat.le_of_succ_le h.depth
    fine := Code.allFine_of_succ _ _ h.fine }

/-- Handlers may stand at a level of indentation in a function. -/
structure Handlers.Fits (isAsync : Bool) (contextName : String) (level : Nat) (hs : Handlers) :
    Prop where
  /-- They are not nested too deeply. -/
  depth : hs.depth + level ≤ room
  /-- Their lines are read back. -/
  fine : Code.allFine level hs.codes = true
  /-- Everything stands where it may. -/
  placed : ∀ line n, Place.handlers (.inFunction isAsync line) false (hs.trees n) = none
  /-- They hand out no values. -/
  plain : ∀ n, (Effects.handlers (hs.trees n)).yields = false
  /-- All names they read are provided. -/
  provided : ∀ n, allProvided contextName (Mention.inHandlers (hs.trees n)) = true

/-- Statements of the next level, with handlers. -/
theorem Suite.Fits.guard {hs : Handlers} (hb : b.Fits isAsync contextName (level + 1))
    (hhandlers : hs.Fits isAsync contextName level) :
    (Suite.one (.guard b hs)).Fits isAsync contextName level where
  depth := by
    have h₁ := hb.depth
    have h₂ := hhandlers.depth
    simp only [Suite.depth, Sentence.depth]
    omega
  fine := by
    have hroom : level + 1 < Lexer.maxIndents := by
      have h := hb.depth
      unfold room at h
      unfold Lexer.maxIndents
      omega
    have hne : b.codes.isEmpty = false := by
      rw [List.isEmpty_eq_false_iff]
      exact b.codes_ne_nil
    simp only [Suite.codes, Sentence.codes, Code.allFine, Code.fine, hne, hb.fine, hhandlers.fine,
      hroom]
    decide
  placed line n := by
    simp only [Suite.lines, Sentence.stmt, Place.block, Place.stmt]
    show (((Place.inFunction isAsync n).block (b.lines (n + 1)) <|> none
      <|> (Place.inFunction isAsync n).handlers false (hs.trees _) <|> none) <|> none) = none
    rw [hb.placed, hhandlers.placed]
    rfl
  plain n := by
    simp only [Suite.lines, Sentence.stmt, Effects.block, Effects.stmt, Effects.yields_append,
      hb.plain, hhandlers.plain]
    rfl
  provided n := by
    simp only [Suite.lines, Sentence.stmt, Mention.inBlock, Mention.inStmt, allProvided_append,
      hb.provided, hhandlers.provided]
    rfl

/-- **A function of statements that fit has nothing misplaced.** -/
theorem Suite.Fits.misplaced (hb : b.Fits isAsync contextName 1) {name : Ident} {ps : Parameters}
    (hname : Place.isFixed name.text = false)
    (hparams : Place.defaults { line := 1 } ps.trees = none) :
    misplaced ((Suite.one (.define isAsync name ps b)).lines 1) = none := by
  have hplace : Place.body { line := 1 } isAsync (Effects.block (b.lines 2))
      = .inFunction isAsync 1 := by
    unfold Place.body Place.inFunction
    rw [hb.plain]
    rfl
  have hblock : Place.block {} ((Suite.one (.define isAsync name ps b)).lines 1) = none := by
    simp only [Suite.lines, Sentence.stmt, Place.block, Place.stmt, Place.exprs, Place.option,
      hplace, hb.placed, hparams, hname]
    rfl
  unfold Script.misplaced
  rw [scopeFlaw_suite, hblock]
  rfl

end Fits

end Script

end TagTemplate
