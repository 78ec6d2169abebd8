/-
  TagTemplate.Proofs.Code.RenderLines
  ────────────────────────────────
  **THE LINES OF A RENDER FUNCTION.**

  The code of `body` is, character by character, what is written for the
  instructions of a template whose tags stand side by side.

    • `rows_body`: the lines, with their levels.
    • `bodyText_eq`: the whole text.
-/
import TagTemplate.Proofs.Code.Straight

namespace TagTemplate

open Text Script

namespace RenderFunction

open Script.Code (rowsAll)

/-! ## §1. The lines of its sentences. -/

theorem Standing.rows (isAsync : Bool) (f : Standing) :
    rowsAll 0 (f.sentence isAsync).codes = written 0 (f.text isAsync) := (f.checked isAsync).2.2

theorem rows_stateStart (source : Option String) :
    rowsAll 0 (stateStart (source.map sourceQuotation)).codes
      = written 0 [match source with
          | some s => "__kiln = __kiln_env.new_state(" ++ quoted s ++ ")"
          | none => "__kiln = __kiln_env.new_state()"] := by
  cases source with
  | none => exact Standing.rows false .stateStart
  | some s =>
      have hspell := spell_newState (sourceQuotation s)
      rw [sourceQuotation_chars] at hspell
      show [spaced 0 (Lexeme.spell (newStateRow (sourceQuotation s)))] = [spaced 0 _]
      dsimp only
      rw [← hspell, String.toList_ofList]

theorem codes_before (ss : List Sentence) (b : Suite) :
    (Suite.before ss b).codes = ss.flatMap Sentence.codes ++ b.codes := by
  induction ss with
  | nil => rfl
  | cons s ss ih =>
      show s.codes ++ (Suite.before ss b).codes = _
      rw [ih, List.flatMap_cons, List.append_assoc]

/-! ## §2. The body. -/

/-- The source for the state, if errors are reported. -/
def sourceOf? (settings : CodeSettings) (source : String) : Option Quotation :=
  if settings.debug then some (sourceQuotation source) else none

section Body

variable {settings : CodeSettings} (hheader : settings.header = "")
  (source : String) (isAsync : Bool) (steps : List Step)

/-- The lines of the body, with their levels. -/
def bodyLines (settings : CodeSettings) (source : String) (isAsync : Bool) (steps : List Step) :
    List (List Char) :=
  let program := steps.map Step.text ++ Emitter.layoutLines "it" isAsync
  written 0 (preamble settings source) ++
    (if settings.debug then written 0 ["try:"] ++ written 1 program ++ written 0 reportLines
    else written 0 program) ++ written 0 [returnLine]

include hheader in
theorem rows_opening :
    rowsAll 0 ((opening (sourceOf? settings source)).flatMap Sentence.codes)
      = written 0 (preamble settings source) := by
  have hstate := rows_stateStart (if settings.debug then some source else none)
  have hsource : (if settings.debug then some source else none).map sourceQuotation
      = sourceOf? settings source := by
    unfold sourceOf?
    cases settings.debug <;> rfl
  rw [hsource] at hstate
  have hheader : lines settings.header = [] := by
    rw [hheader]
    rfl
  unfold preamble opening
  have hplain := Standing.rows false .includePlain
  have hasync := Standing.rows false .includeAsync
  have halias := Standing.rows false .appendAlias
  have hlayout := Standing.rows false .layoutDefinition
  dsimp only [Standing.sentence] at hplain hasync halias hlayout
  simp only [List.flatMap_cons, List.flatMap_nil, Code.rowsAll_append, hplain, hasync, hstate,
    halias, hlayout, hheader]
  cases settings.debug <;> rfl

include hheader in
/-- The lines of the body are those that are written. -/
theorem rows_body :
    rowsAll 0 (body isAsync (steps.map Step.sentence) (sourceOf? settings source)).codes
      = bodyLines settings source isAsync steps := by
  let own := steps.map Step.sentence
  have hprogram : rowsAll 0 (Suite.before own (.one (layoutChoice isAsync))).codes
        = written 0 (steps.map Step.text ++ Emitter.layoutLines "it" isAsync) := by
    rw [codes_before, Code.rowsAll_append, rows_steps, written_append]
    exact congrArg (_ ++ ·) (Standing.rows isAsync .layoutChoice)
  have htry : spaced 0 (Lexeme.spell [.word "try", .mark ":"]) = spaced 0 "try:".toList := by
    decide
  have hchoice : rowsAll 0 (layoutChoice isAsync).codes = _ := Standing.rows isAsync .layoutChoice
  have hresult : rowsAll 0 result.codes = written 0 [returnLine] := Standing.rows isAsync .result
  unfold body bodyLines
  rw [codes_before, Code.rowsAll_append, rows_opening hheader, List.append_assoc]
  congr 1
  unfold sourceOf?
  cases settings.debug with
  | false =>
      show rowsAll 0 (Suite.before own (.cons (layoutChoice isAsync) (.one result))).codes = _
      rw [codes_before, Suite.codes, Code.rowsAll_append, Code.rowsAll_append, rows_steps,
        hchoice, ← List.append_assoc, ← written_append]
      exact congrArg (_ ++ ·) hresult
  | true =>
      show spaced 0 (Lexeme.spell [.word "try", .mark ":"])
        :: (rowsAll 1 _ ++ rowsAll 0 (reportHandlers.codes ++ result.codes)) = _
      rw [htry, Code.rowsAll_append, reportHandlers_checked.2.2, hresult,
        Code.rowsAll_written hprogram]
      simp [written]

/-! ## §3. What is written. -/

/-- The instructions of a template. -/
def program (isAsync : Bool) (steps : List Step) : List Instruction :=
  steps.map Step.instruction ++ [.checkLayout isAsync]

theorem emitAll_program (b : Builder) :
    (Emitter.emitAll "it" { builder := b } (program isAsync steps)).closeAll
      = { builder := b.addAll (steps.map Step.text ++ Emitter.layoutLines "it" isAsync) } := by
  have hadd : b.addAll (steps.map Step.text ++ Emitter.layoutLines "it" isAsync)
      = (b.addAll (steps.map Step.text)).addAll (Emitter.layoutLines "it" isAsync) :=
    List.foldl_append
  have hsteps := emitAll_steps steps b
  unfold Emitter.emitAll at hsteps
  unfold Emitter.emitAll program
  rw [hadd, List.foldl_append, hsteps]
  rfl

include hheader in
/-- **The text of the body is the code of its sentences.** -/
theorem bodyText_eq (hcontext : settings.contextName = "it") :
    bodyText settings (emitProgram settings source (program isAsync steps))
      = String.ofList (Code.texts 0
          (body isAsync (steps.map Step.sentence) (sourceOf? settings source)).codes) := by
  let b := ({} : Builder).addAll (preamble settings source)
  let code := steps.map Step.text ++ Emitter.layoutLines "it" isAsync
  have hpreamble : b.lines.map String.toList = written 0 (preamble settings source) :=
    Builder.addAll_written 0 rfl _
  have hlevel : b.level = 0 := Builder.addAll_level _ _
  rw [← String.toList_inj, String.toList_ofList, Code.texts_eq_unlines, rows_body hheader]
  unfold bodyText emitProgram bodyLines
  rw [hcontext]
  dsimp only
  rw [emitAll_program]
  cases settings.debug with
  | false =>
      have hcode : (b.addAll code).level = 0 := (Builder.addAll_level _ _).trans hlevel
      show ((b.addAll code).addAll [returnLine]).text.toList = _
      rw [Builder.text_toList (by simp [Builder.addAll_lines]),
        Builder.addAll_written 0 hcode, Builder.addAll_written 0 hlevel,
        hpreamble]
      rfl
  | true =>
      let inner : Builder := (b.addAll ["try:"]).indent
      have hinner : inner.level = 4 := congrArg (· + 4) hlevel
      show ((({ inner.addAll code with level := 0 } : Builder).addAll reportLines).addAll
        [returnLine]).text.toList = _
      rw [Builder.text_toList (by simp [Builder.addAll_lines])]
      have hreport : (({ inner.addAll code with level := 0 } : Builder).addAll reportLines).level = 0 :=
        Builder.addAll_level _ _
      rw [Builder.addAll_written 0 hreport, Builder.addAll_written 0 rfl]
      show unlines ((inner.addAll code).lines.map String.toList ++ _ ++ _) = _
      rw [Builder.addAll_written 1 hinner]
      show unlines ((b.addAll ["try:"]).lines.map String.toList ++ _ ++ _ ++ _) = _
      rw [Builder.addAll_written 0 hlevel, hpreamble]
      simp only [List.append_assoc, if_true]
      rfl

end Body

end RenderFunction

end TagTemplate
