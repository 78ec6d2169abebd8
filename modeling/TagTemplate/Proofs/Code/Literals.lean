/-
  TagTemplate.Proofs.Code.Literals
  ────────────────────────────────
  **STRINGS IN THE BODIES OF TAGS.**

  The body of a tag that shows a value becomes part of one line of code, and
  so do the parts of a statement that are on one line.  The function around
  the code moves lines, also those that start inside a string:

      'a'             — stands there as written
      '''a ⏎ b'''     — its second line starts four spaces further right

  The code still has a tree, and the second string denotes another text.

    • `holds_expression`, `holds_statement` — what the lines of a tag hold,
    • `LongText.moved`, `LongText.moved_value_iff` — what a string over several
      lines becomes, and when it is another one,
    • `quotation_in_function`, `longText_in_function` — both kinds of strings,
      for every program.
-/
import TagTemplate.Proofs.Block.BodyLines
import TagTemplate.Proofs.Code.Embedded
import TagTemplate.Proofs.Code.Pasted
import TagTemplate.Proofs.Code.Shift
import TagTemplate.Proofs.Script.LongText

namespace TagTemplate

open Text Script

/-! ## §1. Strings over several lines. -/

namespace Script.LongText

variable (t : LongText)

theorem quotes_line : '\n' ∉ t.quotes ∧ t.quotes ≠ [] := by
  refine ⟨?_, List.cons_ne_nil _ _⟩
  unfold quotes
  rcases t.isQuote with h | h <;> rw [h] <;> decide

/-- The string that a string becomes inside the function. -/
def moved : LongText where
  quote := t.quote
  value := moveHeld false t.value
  isQuote := t.isQuote
  plain := by
    intro c hc
    rcases mem_moveHeld t.value false hc with hc | rfl
    · exact t.plain c hc
    · rcases t.isQuote with h | h <;> rw [h] <;> decide

/-- **Moving a string with what is around it is moving what is between its quotes.** -/
theorem moveRight_chars (fresh : Bool) (before behind : List Char) :
    moveRight fresh (before ++ t.chars ++ behind)
      = moveHeld fresh before ++ t.moved.chars ++ moveRight false behind := by
  -- the quotes are on one line at either end, so only what is between them is moved
  obtain ⟨hline, hne⟩ := t.quotes_line
  have hparts : before ++ t.chars ++ behind = before ++ t.quotes ++ (t.value ++ t.quotes ++ behind) := by
    rw [chars]
    simp only [List.append_assoc]
  have hmoved : t.moved.chars = t.quotes ++ (moveHeld false t.value ++ t.quotes) := rfl
  rw [hparts, moveRight_around hline hne, moveRight_around hline hne, hmoved]
  simp only [List.append_assoc]

/-- **It is the same string exactly if it is on one line.** -/
theorem moved_value_iff : t.moved.value = t.value ↔ '\n' ∉ t.value := by
  refine ⟨fun h hmem => ?_, fun h => moveHeld_line h⟩
  have hlength : t.value.length + 4 ≤ t.moved.value.length := (length_moveHeld t.value).2 hmem
  rw [h] at hlength
  omega

/-- Empty lines stay empty; the closing quotes are moved if they start a line. -/
example : moveHeld false "a\n\nb\n".toList = "a\n\n    b\n    ".toList := by decide

/-- A string denotes the text between its quotes. -/
theorem denotes : Denotes (String.ofList t.chars) (String.ofList t.value) :=
  ⟨_, parseTree_longText t, fun _ _ _ => rfl⟩

end Script.LongText

/-! ## §2. What the lines of a tag hold. -/

/-- A line of an instruction holds a text, whatever blocks it is in. -/
def Instruction.Holds (i : Instruction) (s : List Char) : Prop :=
  ∀ contextName around, ∃ line ∈ i.texts contextName around, s <:+: line.toList

/-- The line of an expression holds all of it. -/
theorem holds_expression {expr : String} {s : List Char} (h : s <:+: expr.toList)
    (filtered escaped : Bool) : (Instruction.appendExpression expr filtered escaped).Holds s := by
  intro contextName around
  have hline := RenderFunction.expressionLine_chars expr.toList filtered escaped
  rw [String.ofList_toList] at hline
  refine ⟨_, List.mem_singleton.mpr rfl, ?_⟩
  rw [hline, String.toList_ofList, ← List.append_assoc]
  exact h.trans (List.infix_append _ _ _)

/-- The lines of a statement hold its parts that are on one line of any kind, unless they are dropped
behind an `end`. -/
theorem holds_statement {code : String} {s : List Char} (hs : IsTrimmed s) (hne : s ≠ [])
    (hline : ∀ c ∈ s, isLineEnd c = false) (h : s <:+: code.toList)
    (hend : (Block.statementLines code.toList).headD [] ≠ "end".toList) :
    (Instruction.executeStatement code).Holds s := by
  intro contextName around
  obtain ⟨l, hl, hin⟩ := Block.statementLines_part hs hne hline h
  have hfirst := Block.statementLines_first (allBlank_of_part hs hne h)
  have hother : ¬ (String.ofList ((Block.statementLines code.toList).headD []) == "end") = true := by
    rw [beq_iff_eq, ← String.toList_inj, String.toList_ofList]
    exact hend
  refine ⟨String.ofList l, ?_, by rwa [String.toList_ofList]⟩
  unfold Instruction.texts
  dsimp only
  rw [if_neg (by simpa using hfirst), if_neg hother]
  exact List.mem_map_of_mem hl

section Program

variable {settings : CodeSettings} {source contextName : String} {asyncMode : Bool}
  {program : List Instruction} {i : Instruction}

/-- What a line of an instruction holds, the body of the function holds. -/
theorem held_in_body (settings : CodeSettings) (source : String) {s : List Char} (hi : i ∈ program)
    (h : i.Holds s) : ∃ before behind, (bodyText settings (emitProgram settings source program)).toList
      = before ++ s ++ behind := by
  obtain ⟨around, hlines⟩ := line_in_program settings source hi
  obtain ⟨line, hmem, front, back, hline⟩ := h settings.contextName around
  obtain ⟨level, hline'⟩ := hlines line hmem
  obtain ⟨before, behind, hbody⟩ := line_in_body settings hline'
  refine ⟨before ++ List.replicate level.toNat ' ' ++ front, back ++ behind, ?_⟩
  rw [hbody, Builder.indented, String.toList_append, String.toList_ofList, ← hline]
  simp only [List.append_assoc]

/-! ## §3. THE THEOREM. -/

/-- **A string between quotes stands in the function as it is written in the tag**, at any depth of the
blocks and with any settings, and denotes what it is written for. -/
theorem quotation_in_function (q : Quotation) (hi : i ∈ program) (h : i.Holds q.chars) :
    (∃ before behind, (wrapFunction (bodyText settings (emitProgram settings source program))
        asyncMode contextName).toList = before ++ q.chars ++ behind)
      ∧ Denotes (String.ofList q.chars) (String.ofList q.value) := by
  obtain ⟨before, behind, hbody⟩ := held_in_body settings source hi h
  exact ⟨⟨_, _, line_in_function hbody (fun h => (q.clean _ h).1 rfl) (List.cons_ne_nil _ _) asyncMode
    contextName⟩, quotation_denotes q⟩

/-- **A string between triple quotes stands in the function with its further lines moved.**  It denotes
the text it has in the tag there exactly if it is on one line. -/
theorem longText_in_function (t : LongText) (hi : i ∈ program) (h : i.Holds t.chars) :
    (∃ before behind,
      (bodyText settings (emitProgram settings source program)).toList = before ++ t.chars ++ behind
        ∧ (wrapFunction (bodyText settings (emitProgram settings source program))
            asyncMode contextName).toList
          = functionHeader asyncMode contextName ++ moveHeld true before ++ t.moved.chars
            ++ moveRight false behind)
      ∧ Denotes (String.ofList t.chars) (String.ofList t.value)
      ∧ Denotes (String.ofList t.moved.chars) (String.ofList t.moved.value)
      ∧ (t.moved.value = t.value ↔ '\n' ∉ t.value) := by
  obtain ⟨before, behind, hbody⟩ := held_in_body settings source hi h
  refine ⟨⟨before, behind, hbody, ?_⟩, t.denotes, t.moved.denotes, t.moved_value_iff⟩
  rw [wrapFunction_chars, hbody, t.moveRight_chars]
  simp only [List.append_assoc]

end Program

end TagTemplate
