/-
  TagTemplate.Proofs.Code.Line
  ────────────────────────────────
  **WHAT ONE LINE DOES TO THE EMITTER.**

  The emitter is described by three operations, and every statement of one
  line by these:

      append   — finished lines, so many of them counted in the innermost block
      push     — a block opens
      pop      — the innermost block closes, filled if nothing was counted

  The law between them is `inside_pop`: a block that was opened, written
  and closed is its lines, or a `pass` if there were none.
-/
import TagTemplate.Code.Emitter
import TagTemplate.Proofs.Text.Strip

namespace TagTemplate

open Text

namespace Emitter

/-! ## §1. Appending lines. -/

/-- Count lines in the innermost block. -/
def countLines (n : Nat) : List OpenBlock → List OpenBlock
  | b :: rest => { b with count := b.count + n } :: rest
  | [] => []

/-- Append lines that are indented already, `n` of which stand in the innermost block itself. -/
def append (e : Emitter) (lines : List String) (n : Nat) : Emitter :=
  { e with
    builder := { e.builder with rev := lines.reverse ++ e.builder.rev }
    blocks := countLines n e.blocks }

theorem countLines_zero (blocks : List OpenBlock) : countLines 0 blocks = blocks := by
  cases blocks <;> rfl

theorem countLines_countLines (m n : Nat) (blocks : List OpenBlock) :
    countLines n (countLines m blocks) = countLines (m + n) blocks := by
  cases blocks with
  | nil => rfl
  | cons b rest =>
      unfold countLines
      simp only
      rw [Nat.add_assoc]

theorem append_nil (e : Emitter) : e.append [] 0 = e := by
  unfold append
  rw [countLines_zero]
  rfl

theorem append_append (e : Emitter) (xs ys : List String) (m n : Nat) :
    (e.append xs m).append ys n = e.append (xs ++ ys) (m + n) := by
  unfold append
  simp only
  rw [countLines_countLines, List.reverse_append, List.append_assoc]

theorem line_eq_append (e : Emitter) (text : String) :
    e.line text = e.append [Builder.indented e.builder.level text] 1 := rfl

@[simp] theorem append_level (e : Emitter) (lines : List String) (n : Nat) :
    (e.append lines n).builder.level = e.builder.level := rfl

@[simp] theorem append_inBareMatch (e : Emitter) (lines : List String) (n : Nat) :
    (e.append lines n).inBareMatch = e.inBareMatch := by
  unfold append inBareMatch countLines
  cases e.blocks <;> rfl

@[simp] theorem append_continues (e : Emitter) (lines : List String) (n : Nat) (word : String) :
    (e.append lines n).continues word = e.continues word := by
  unfold append continues countLines
  cases e.blocks <;> rfl

/-! ## §2. Opening and closing blocks. -/

/-- Open a block at the current level. -/
def push (e : Emitter) (keyword : String) : Emitter :=
  { e with
    blocks := ⟨keyword, e.builder.level, 0⟩ :: e.blocks
    builder := { e.builder with level := e.builder.level + Builder.step } }

/-- The lines of a block: its own, or a `pass` at its level. -/
def filled (level : Int) (lines : List String) (n : Nat) : List String :=
  if n = 0 then lines ++ [Builder.indented level "pass"] else lines

theorem push_inBareMatch (e : Emitter) (keyword : String) :
    (e.push keyword).inBareMatch = (keyword == "match") := rfl

theorem push_continues (e : Emitter) (keyword word : String) :
    (e.push keyword).continues word
      = (continuations.contains word || (word == "case" && keyword == "case")) := rfl

/-- The state inside a block that was opened and got some lines. -/
def inside (e : Emitter) (keyword : String) (lines : List String) (n : Nat) : Emitter :=
  (e.push keyword).append lines n

/-- **A block that was opened, written and closed is its lines, filled if there were none.** -/
theorem inside_pop (e : Emitter) (keyword : String) (lines : List String) (n : Nat) :
    (e.inside keyword lines n).pop = e.append (filled (e.builder.level + Builder.step) lines n) 0 := by
  unfold inside filled append push pop close countLines Builder.add
  simp only [Nat.zero_add, beq_iff_eq]
  split
  · rw [List.reverse_append]
    cases e.blocks <;> rfl
  · cases e.blocks <;> rfl

/-- An `end` closes the innermost block, and a `match` with its last `case`. -/
theorem inside_closeEnd (e : Emitter) (keyword : String) (lines : List String) (n : Nat) :
    (e.inside keyword lines n).closeEnd
      = if keyword == "case" && e.inBareMatch then (e.inside keyword lines n).pop.pop
        else (e.inside keyword lines n).pop := by
  -- whether a `match` is left bare is asked after the first block was closed
  have hmatch : ((e.inside keyword lines n).pop).inBareMatch = e.inBareMatch := by
    rw [inside_pop, append_inBareMatch]
  rw [← hmatch]
  rfl

/-! ## §3. Statements of one line. -/

/-- What a line does to the blocks. -/
inductive LineRole where
  /-- Nothing. -/
  | simple
  /-- It opens a block that may be continued. -/
  | header
  /-- It continues such a block. -/
  | clause
  /-- It opens a block of cases. -/
  | choice
  /-- It opens a case. -/
  | case
  deriving DecidableEq

/-- Whether a trimmed text can play a role. -/
def LineRole.Fits (text : List Char) : LineRole → Prop
  | .simple =>
    text ≠ [] ∧ text ≠ "end".toList ∧ Block.opensBlock text = false
      ∧ firstWord text ∉ continuations ∧ firstWord text ≠ "case"
  | .header =>
    Block.opensBlock text = true ∧ firstWord text ∉ continuations ∧ firstWord text ≠ "case"
      ∧ firstWord text ≠ "match"
  | .clause => Block.opensBlock text = true ∧ firstWord text ∈ continuations
  | .choice => Block.opensBlock text = true ∧ firstWord text = "match"
  | .case => Block.opensBlock text = true ∧ firstWord text = "case"

instance (text : List Char) : (role : LineRole) → Decidable (role.Fits text)
  | .simple => inferInstanceAs (Decidable (_ ∧ _ ∧ _ ∧ _ ∧ _))
  | .header => inferInstanceAs (Decidable (_ ∧ _ ∧ _ ∧ _))
  | .clause => inferInstanceAs (Decidable (_ ∧ _))
  | .choice => inferInstanceAs (Decidable (_ ∧ _))
  | .case => inferInstanceAs (Decidable (_ ∧ _))

/-- The body of an execute tag that is one line and plays a role. -/
structure Line (role : LineRole) where
  /-- The body. -/
  code : String
  /-- It has one line. -/
  single : '\n' ∉ strip code.toList
  /-- It plays the role. -/
  fits : role.Fits (strip code.toList)

namespace Line

/-- The line that is written. -/
def text {role : LineRole} (l : Line role) : String := trimmed l.code

/-- The first word of the line. -/
def word {role : LineRole} (l : Line role) : String := firstWord (strip l.code.toList)

end Line

end Emitter

namespace Block

/-- A body of one line is that line. -/
theorem statementLines_single {code : List Char} (h : '\n' ∉ strip code) :
    statementLines code = [strip code] := by
  unfold statementLines
  rw [cutAt_whole h]
  simp only
  rw [strip_strip]
  rfl

end Block

namespace Emitter

open Block

/-- A trimmed text starts with no blanks. -/
theorem indentOf_strip (s : List Char) : indentOf (strip s) = 0 := by
  have hhead := (strip_isTrimmed s).head
  unfold indentOf
  cases hs : strip s with
  | nil => rfl
  | cons c t =>
      rw [hs] at hhead
      rw [List.takeWhile_cons_of_neg (by simp [hhead c rfl])]
      rfl

theorem writeStatement_single (e : Emitter) {text : List Char} (htrim : strip text = text)
    (word : String) :
    e.writeStatement [text] word
      = if opensBlock text then (e.line (String.ofList text)).push word
        else e.line (String.ofList text) := by
  -- a trimmed line is not indented, so its block opens one step behind the current level
  have hindent : indentOf text = 0 := htrim ▸ indentOf_strip text
  unfold writeStatement
  show (if opensBlock (strip text) = true then _ else _) = _
  rw [htrim]
  split
  · show { e.line (String.ofList text) with
        blocks := ⟨word, e.builder.level, 0⟩ :: (e.line (String.ofList text)).blocks
        builder := { (e.line (String.ofList text)).builder with
          level := e.builder.level + (indentOf text : Int) + Builder.step } } = _
    rw [hindent, show ((0 : Nat) : Int) = 0 from rfl, Int.add_zero]
    rfl
  · rfl

/-- A statement of one line is written at the current level, behind the block that it continues,
and opens a block if it asks for one. -/
theorem statement_single {e : Emitter} {code : String} (hsingle : '\n' ∉ strip code.toList)
    (hne : strip code.toList ≠ []) (hend : strip code.toList ≠ "end".toList) :
    e.statement code =
      let word := firstWord (strip code.toList)
      let before := if e.continues word then e.pop else e
      if opensBlock (strip code.toList) then (before.line (trimmed code)).push word
      else before.line (trimmed code) := by
  have hempty : (strip code.toList).isEmpty ≠ true := by
    rw [ne_eq, List.isEmpty_iff]
    exact hne
  have hhead : (String.ofList (strip code.toList) == "end") ≠ true := by
    rw [ne_eq, beq_iff_eq]
    intro h
    apply hend
    rw [← h, String.toList_ofList]
  unfold statement
  rw [statementLines_single hsingle]
  show (if (strip code.toList).isEmpty = true then _ else
    if (String.ofList (strip code.toList) == "end") = true then _ else _) = _
  rw [if_neg hempty, if_neg hhead]
  exact writeStatement_single _ (strip_strip code.toList) _

theorem statement_end (e : Emitter) : e.statement "end" = e.closeEnd := rfl

/-- Other words continue nothing. -/
theorem continues_eq_false {word : String} (hword : word ∉ continuations) (hcase : word ≠ "case")
    (e : Emitter) : e.continues word = false := by
  unfold continues
  split
  · rw [List.contains_eq_mem, decide_eq_false hword, Bool.false_or, beq_eq_false_iff_ne.mpr hcase]
    rfl
  · rfl

/-- Whether a block with this keyword is one that lines of a role continue. -/
def LineRole.Follows (role : LineRole) (keyword : String) : Prop :=
  keyword ≠ "match" ∧ (keyword = "case" ↔ role = .case)

/-- An `end` closes a block with its clauses. -/
theorem inside_closeEnd_clause {keyword : String} (h : LineRole.Follows .clause keyword)
    (e : Emitter) (lines : List String) (n : Nat) :
    (e.inside keyword lines n).closeEnd = (e.inside keyword lines n).pop := by
  have hne : (keyword == "case") = false := by
    rw [beq_eq_false_iff_ne]
    exact fun hcase => absurd (h.2.mp hcase) (by decide)
  rw [inside_closeEnd, hne]
  rfl

/-- An `end` closes a choice with its last case. -/
theorem inside_closeEnd_case {keyword : String} (h : LineRole.Follows .case keyword)
    {e : Emitter} (hbare : e.inBareMatch = true) (lines : List String) (n : Nat) :
    (e.inside keyword lines n).closeEnd = (e.inside keyword lines n).pop.pop := by
  have heq : (keyword == "case") = true := by
    rw [beq_iff_eq]
    exact h.2.mpr rfl
  rw [inside_closeEnd, heq, hbare]
  rfl

namespace Line

/-- A line that opens a block is not empty, and no `end`. -/
theorem statement_opening {role : LineRole} (l : Line role)
    (hopens : opensBlock (strip l.code.toList) = true) (e : Emitter) :
    e.statement l.code
      = ((if e.continues l.word then e.pop else e).line l.text).push l.word := by
  rw [statement_single l.single]
  · simp only
    rw [if_pos hopens]
    rfl
  · intro h
    rw [h] at hopens
    exact absurd hopens (by decide)
  · intro h
    rw [h] at hopens
    exact absurd hopens (by decide)

/-- A simple statement is one line. -/
theorem statement_simple (l : Line .simple) (e : Emitter) :
    e.statement l.code = e.append [Builder.indented e.builder.level l.text] 1 := by
  obtain ⟨hne, hend, hopens, hword, hcase⟩ := l.fits
  rw [statement_single l.single hne hend]
  simp only
  rw [continues_eq_false hword hcase, hopens]
  rfl

/-- A line that continues nothing is written and opens a block. -/
theorem statement_new {role : LineRole} (l : Line role)
    (hopens : opensBlock (strip l.code.toList) = true) {e : Emitter}
    (hnew : e.continues l.word = false) :
    e.statement l.code
      = (e.append [Builder.indented e.builder.level l.text] 1).push l.word := by
  rw [l.statement_opening hopens, hnew]
  rfl

/-- The block of a header is continued by clauses. -/
theorem header_follows (l : Line .header) : LineRole.Follows .clause l.word :=
  have ⟨_, _, hcase, hmatch⟩ := l.fits
  ⟨hmatch, fun h => absurd h hcase, fun h => absurd h (by decide)⟩

/-- The block of a clause or case is continued by clauses or cases. -/
theorem word_follows {role : LineRole} (hrole : role = .clause ∨ role = .case) (l : Line role) :
    role.Follows l.word := by
  unfold LineRole.Follows word
  rcases hrole with rfl | rfl
  · have hword := l.fits.2
    have hne : ∀ w ∈ continuations, w ≠ "match" ∧ w ≠ "case" := by decide
    obtain ⟨hmatch, hcase⟩ := hne _ hword
    exact ⟨hmatch, fun h => absurd h hcase, fun h => absurd h (by decide)⟩
  · rw [l.fits.2]
    exact ⟨by decide, fun _ => rfl, fun _ => rfl⟩

/-- A clause or case closes the block before it, is written, and opens the next. -/
theorem statement_next {role : LineRole} (hrole : role = .clause ∨ role = .case) (l : Line role)
    {keyword : String} (hkeyword : role.Follows keyword) (e : Emitter) (lines : List String)
    (n : Nat) :
    (e.inside keyword lines n).statement l.code
      = (((e.inside keyword lines n).pop).append
          [Builder.indented e.builder.level l.text] 1).push l.word := by
  have hopens : opensBlock (strip l.code.toList) = true := by
    rcases hrole with rfl | rfl
    · exact l.fits.1
    · exact l.fits.1
  have hcontinues : (e.inside keyword lines n).continues l.word = true := by
    unfold inside word
    rw [append_continues, push_continues]
    rcases hrole with rfl | rfl
    · rw [List.contains_iff_mem.mpr l.fits.2, Bool.true_or]
    · rw [l.fits.2, hkeyword.2.mpr rfl]
      decide
  have hlevel : ((e.inside keyword lines n).pop).builder.level = e.builder.level := by
    rw [inside_pop, append_level]
  rw [l.statement_opening hopens, hcontinues, if_pos rfl, line_eq_append, hlevel]

end Line

end Emitter

end TagTemplate
