/-
  TagTemplate.Proofs.Code.Straight
  ────────────────────────────────
  **TEMPLATES WHOSE TAGS STAND SIDE BY SIDE.**

  Where no tag opens a block, every node of a template is one line of its
  render function, or two if lines are recorded.  A `Step` is such a line: as
  the instruction that asks for it (`Step.instruction`), as the text that is
  written (`Step.text`), and as the sentence that the text reads as
  (`Step.sentence`).

    • `emitAll_steps`: the instructions write the texts.
    • `rows_steps`: the texts are those of the sentences.
-/
import TagTemplate.Proofs.Code.RenderFunction
import TagTemplate.Proofs.Script.Numeral

namespace TagTemplate

open Text Script

namespace RenderFunction

open Script.Code (rowsAll)

/-! ## §1. Steps. -/

/-- A statement that is one line and opens no block. -/
structure Action where
  /-- The statement. -/
  sentence : Sentence
  /-- Its line. -/
  row : List Lexeme
  /-- It has no other line. -/
  codes : sentence.codes = [.line row]
  /-- Its line is there. -/
  filled : Lexeme.spell row ≠ []
  /-- The body of a tag with this line is this line. -/
  lines : Block.statementLines (Lexeme.spell row) = [Lexeme.spell row]
  /-- No block follows. -/
  closed : Block.opensBlock (strip (Lexeme.spell row)) = false
  /-- It ends no block. -/
  plain : (String.ofList (Lexeme.spell row) == "end") = false

/-- The code of an action. -/
def Action.code (a : Action) : String := String.ofList (Lexeme.spell a.row)

/-- One line of a template whose tags stand side by side. -/
inductive Step where
  /-- Append a text. -/
  | literal (text : List Char)
  /-- Append the value of an expression. -/
  | value (e : Phrase) (filtered escaped : Bool)
  /-- Record a line, counted from zero. -/
  | mark (n : Nat)
  /-- Run a statement. -/
  | action (a : Action)

/-- The code of an expression. -/
def codeOf (e : Phrase) : String := String.ofList (Lexeme.spell e.row)

/-- The instruction that asks for a step. -/
def Step.instruction : Step → Instruction
  | .literal text => .appendLiteral (String.ofList (literalQuotation text).body)
  | .value e filtered escaped => .appendExpression (codeOf e) filtered escaped
  | .mark n => .setLine (n + 1 : Nat)
  | .action a => .executeStatement a.code

/-- The line that appends a literal. -/
def appendLine (text : List Char) : String :=
  "__kiln_append('" ++ String.ofList (literalQuotation text).body ++ "')"

/-- The text of the line of a step. -/
def Step.text : Step → String
  | .literal text => appendLine text
  | .value e filtered escaped => Emitter.expressionLine (codeOf e) filtered escaped
  | .mark n => "__kiln.line = " ++ toString (n + 1)
  | .action a => a.code

/-- An expression behind the filter, if there is to be one. -/
def filteredPhrase (filtered : Bool) (e : Phrase) : Phrase :=
  if filtered then .plain (.call (ofState ⟨"f", by decide, by decide⟩) (.cons e .nil)) else e

/-- What makes text of a value. -/
def writer (escaped : Bool) : Ident :=
  if escaped then ⟨"e", by decide, by decide⟩ else ⟨"s", by decide, by decide⟩

/-- The text of the value of an expression. -/
def shownPhrase (filtered escaped : Bool) (e : Phrase) : Phrase :=
  .plain (.call (ofState (writer escaped)) (.cons (filteredPhrase filtered e) .nil))

/-- The line that appends a value. -/
def valueSentence (filtered escaped : Bool) (e : Phrase) : Sentence :=
  .expr (.plain (.call (.name appendName) (.cons (shownPhrase filtered escaped e) .nil)))

/-- The line that records a line. -/
def markSentence (n : Nat) : Sentence :=
  .assign (.member (.name stateName) lineName) (.plain (.number (.succ n)))

/-- What a step reads as. -/
def Step.sentence : Step → Sentence
  | .literal text => appendSentence (literalQuotation text)
  | .value e filtered escaped => valueSentence filtered escaped e
  | .mark n => markSentence n
  | .action a => a.sentence

/-! ## §2. What is written. -/

theorem statement_action (a : Action) {e : Emitter} (hblocks : e.blocks = []) :
    e.statement a.code = { e with builder := e.builder.add a.code } := by
  obtain ⟨builder, blocks, unmatched, unclosed⟩ := e
  cases hblocks
  have hcode : a.code.toList = Lexeme.spell a.row := String.toList_ofList
  have hhead : (Lexeme.spell a.row).isEmpty = false := by
    rw [List.isEmpty_eq_false_iff]
    exact a.filled
  unfold Emitter.statement
  rw [hcode, a.lines]
  simp only [List.headD_cons, hhead, a.plain, Bool.false_eq_true, if_false, Emitter.continues]
  unfold Emitter.writeStatement
  simp only [List.getLastD_cons, List.getLastD_nil, List.foldl_cons, List.foldl_nil, a.closed,
    Bool.false_eq_true, if_false]
  rfl

/-- A line is recorded as its digits. -/
theorem line_digits (n : Nat) : toString ((n + 1 : Nat) : Int) = toString (n + 1) := rfl

/-- A step writes its line. -/
theorem emit_step (s : Step) (b : Builder) :
    Emitter.emit "it" { builder := b } s.instruction = { builder := b.add s.text } := by
  cases s with
  | literal text => rfl
  | value e filtered escaped => rfl
  | mark n =>
      show ({ builder := b } : Emitter).line ("__kiln.line = " ++ toString ((n + 1 : Nat) : Int)) = _
      rw [line_digits]
      rfl
  | action a =>
      have hstatement := statement_action a (e := { builder := b }) rfl
      exact hstatement

/-- **The instructions of steps write their lines.** -/
theorem emitAll_steps (steps : List Step) (b : Builder) :
    Emitter.emitAll "it" { builder := b } (steps.map Step.instruction)
      = { builder := b.addAll (steps.map Step.text) } := by
  unfold Emitter.emitAll
  induction steps generalizing b with
  | nil => rfl
  | cons s steps ih =>
      rw [List.map_cons, List.foldl_cons, emit_step, ih]
      rfl

/-! ## §3. What it reads as. -/

theorem rows_append (text : List Char) :
    rowsAll 0 (appendSentence (literalQuotation text)).codes = written 0 [appendLine text] := by
  have hspell := spell_append (literalQuotation text)
  rw [literal_chars] at hspell
  show [spaced 0 (Lexeme.spell (appendRow (literalQuotation text)))] = [spaced 0 _]
  rw [appendLine, appendText_eq, ← hspell, String.toList_ofList]

theorem rows_value (e : Phrase) (filtered escaped : Bool) :
    rowsAll 0 (valueSentence filtered escaped e).codes
      = written 0 [Emitter.expressionLine (codeOf e) filtered escaped] := by
  show [spaced 0 _] = [spaced 0 _]
  congr 2
  cases filtered <;> cases escaped <;>
    simp [shownPhrase, filteredPhrase, writer, ofState, stateName, appendName, Primary.row,
      Phrase.row, Phrases.row, Phrases.tail, Emitter.expressionLine, codeOf, Lexeme.spell,
      Lexeme.chars]

theorem rows_mark (n : Nat) :
    rowsAll 0 (markSentence n).codes = written 0 ["__kiln.line = " ++ toString (n + 1)] := by
  show [spaced 0 _] = [spaced 0 _]
  congr 2
  simp [Goal.primary, stateName, lineName, Primary.row, Phrase.row, Lexeme.spell, Lexeme.chars,
    Numeral.succ]

/-- The line of a step is that of its sentence. -/
theorem rows_step (s : Step) : rowsAll 0 s.sentence.codes = written 0 [s.text] := by
  cases s with
  | literal text => exact rows_append text
  | value e filtered escaped => exact rows_value e filtered escaped
  | mark n => exact rows_mark n
  | action a =>
      have htext : a.code.toList = Lexeme.spell a.row := String.toList_ofList
      show rowsAll 0 a.sentence.codes = [spaced 0 a.code.toList]
      rw [a.codes, htext]
      rfl

/-- **The lines of steps are those of their sentences.** -/
theorem rows_steps (steps : List Step) :
    rowsAll 0 ((steps.map Step.sentence).flatMap Sentence.codes)
      = written 0 (steps.map Step.text) := by
  induction steps with
  | nil => rfl
  | cons s steps ih =>
      rw [List.map_cons, List.flatMap_cons, Code.rowsAll_append, rows_step, ih, List.map_cons]
      rfl

/-! ## §4. They fit. -/

section Fits

variable (isAsync : Bool)

theorem append_fits (q : Quotation) : (Suite.one (appendSentence q)).Fits isAsync "it" 2 where
  depth := Nat.le_of_ble_eq_true rfl
  fine := by
    show (isRow (appendRow q) && true) = true
    rw [isRow_append]
    rfl
  placed _ _ := rfl
  plain _ := rfl
  provided := by
    refine provided_of_first (fun _ => rfl) ?_
    show allProvided "it" [.reads "__kiln_append"] = true
    decide

theorem mark_fits (n : Nat) : (Suite.one (markSentence n)).Fits isAsync "it" 2 where
  depth := Nat.le_of_ble_eq_true rfl
  fine := by
    show ((Lexeme.isNumeral (toString (n + 1)).toList && true && true) && true && true) = true
    rw [show Lexeme.isNumeral (toString (n + 1)).toList = true from (Numeral.succ n).isNumeral]
    rfl
  placed _ _ := rfl
  plain _ := rfl
  provided := by
    refine provided_of_first (fun _ => rfl) ?_
    show allProvided "it" [.reads "__kiln"] = true
    decide

/-- An element of the context. -/
def access (q : Quotation) : Phrase := .plain (.item (.name contextIdent) (.plain (.text q)))

/-- A call with a text. -/
def callWith (w : Ident) (q : Quotation) : Phrase :=
  .plain (.call (.name w) (.cons (.plain (.text q)) .nil))

theorem access_fits (q : Quotation) (filtered escaped : Bool) :
    (Suite.one (valueSentence filtered escaped (access q))).Fits isAsync "it" 2 where
  depth := by cases filtered <;> cases escaped <;> exact Nat.le_of_ble_eq_true rfl
  fine := by
    obtain ⟨quote, body, value, hq, hspelled⟩ := q
    rcases hq with rfl | rfl <;> cases filtered <;> cases escaped <;> rfl
  placed _ _ := by cases filtered <;> cases escaped <;> rfl
  plain _ := by cases filtered <;> cases escaped <;> rfl
  provided := by
    refine provided_of_first (by cases filtered <;> cases escaped <;> exact fun _ => rfl) ?_
    cases filtered <;> cases escaped
    · show allProvided "it" [.reads "__kiln_append", .reads "__kiln", .reads "it"] = true
      decide
    · show allProvided "it" [.reads "__kiln_append", .reads "__kiln", .reads "it"] = true
      decide
    · show allProvided "it" [.reads "__kiln_append", .reads "__kiln", .reads "__kiln", .reads "it"]
        = true
      decide
    · show allProvided "it" [.reads "__kiln_append", .reads "__kiln", .reads "__kiln", .reads "it"]
        = true
      decide

end Fits

end RenderFunction

end TagTemplate
