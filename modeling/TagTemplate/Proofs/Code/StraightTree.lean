/-
  TagTemplate.Proofs.Code.StraightTree
  ────────────────────────────────
  **TEMPLATES WHOSE TAGS STAND SIDE BY SIDE COMPILE.**

  Stage by stage: the scan leaves nodes, each of which is a few steps
  (`stand_nodesFrom`), the lines written for the steps are those of `body`
  (`writeBody_returns`), no name in them is looked up in the context
  (`bindAmbient_returns`), and the function around them has the tree of
  `function` (`functionTree_eq`).

    • `compile_straight`: the stages together.
-/
import TagTemplate.Compile
import TagTemplate.Proofs.Code.RenderLines
import TagTemplate.Proofs.Machine.Journal
import TagTemplate.Proofs.Scan.Lossless

namespace TagTemplate

open Text Script

/-! ## §1. The scan. -/

/-- Where no tag is found, the rest is all there is. -/
theorem scanFrom_nil {d : Delimiters} (gap s : List Char) (h : (scanFrom d gap s).1 = []) :
    (scanFrom d gap s).2 = gap.reverse ++ s := by
  fun_induction scanFrom d gap s with
  | case1 gap => exact (List.append_nil _).symm
  | case2 gap c s span hspan more ih => cases h
  | case3 gap c s hnone ih =>
      rw [ih h, List.reverse_cons, List.append_assoc]
      rfl

namespace RenderFunction

open Traced (Returns)

/-! ## §2. The nodes. -/

/-- A tag that is never closed leaves a warning, but changes no node. -/
theorem parse_returns {settings : ScanSettings} (hplugins : settings.plugins = []) (source : String) :
    Returns (parse settings source) (nodesOf settings source.toList) := by
  unfold parse
  rw [hplugins]
  dsimp only
  cases unterminatedAt? settings source.toList with
  | none => exact .bind .record .pure
  | some offset => exact .bind .record (.bind .record .pure)

/-- The steps of a gap. -/
def literalSteps (scan : ScanSettings) (start stop : Edge) (gap : List Char) : List Step :=
  let text := trim scan start stop gap
  if text.isEmpty then [] else [.literal text]

/-- The steps of a tag on a line, counted from zero, which may be recorded. -/
def tagSteps (recorded : Bool) (n : Nat) (step : Step) : List Step :=
  (if recorded then [.mark n] else []) ++ [step]

/-- The steps of gaps and tags; `step` is what a tag does, `start` the edge before the next gap, `n`
the line it begins on, counted from zero. -/
def stepsFrom (scan : ScanSettings) (recorded : Bool) (step : TagSpan → Step) (start : Edge)
    (n : Nat) : List (List Char × TagSpan) → List Char → List Step
  | [], trailing => literalSteps scan start .free trailing
  | (gap, span) :: more, trailing =>
    let n := n + gap.count '\n'
    literalSteps scan start (.ofMarker span.left) gap ++ (tagSteps recorded n (step span)
      ++ stepsFrom scan recorded step (.ofMarker span.right)
        (n + (span.text scan.delimiters).count '\n') more trailing)

/-- The steps of a template. -/
def stepsOf (scan : ScanSettings) (code : CodeSettings) (step : TagSpan → Step)
    (source : List Char) : List Step :=
  let cut := scanTags scan.delimiters source
  stepsFrom scan (scan.debug && code.debug) step .free 0 cut.1 cut.2

section Lower

variable (scan : ScanSettings) (code : CodeSettings)

/-- The instructions of nodes that are steps. -/
def Stand (nodes : List Node) (steps : List Step) : Prop :=
  ∃ parts, nodes.mapM (instructionsOf code) = .ok parts
    ∧ parts.flatten = steps.map Step.instruction

variable {scan code}

theorem Stand.nil : Stand code [] [] := ⟨[], rfl, rfl⟩

theorem Stand.cons {node : Node} {nodes : List Node} {first rest : List Step}
    (hnode : instructionsOf code node = .ok (first.map Step.instruction))
    (hnodes : Stand code nodes rest) : Stand code (node :: nodes) (first ++ rest) := by
  obtain ⟨parts, hmap, hparts⟩ := hnodes
  refine ⟨first.map Step.instruction :: parts, ?_, ?_⟩
  · rw [List.mapM_cons, hnode, hmap]
    rfl
  · rw [List.flatten_cons, hparts, List.map_append]

/-- A gap is its steps. -/
theorem Stand.literal (start stop : Edge) (gap : List Char) {nodes : List Node} {rest : List Step}
    (hnodes : Stand code nodes rest) :
    Stand code (literalOf scan start stop gap ++ nodes)
      (literalSteps scan start stop gap ++ rest) := by
  unfold literalOf literalSteps
  dsimp only
  rw [Literal.trim_escape, breaks_escape_isEmpty]
  cases (trim scan start stop gap).isEmpty with
  | true => exact hnodes
  | false => exact .cons rfl hnodes

/-- A tag is its steps. -/
theorem Stand.tag {kind : TagKind} {text : String} {step : Step}
    (hstep : tagInstruction code kind text = step.instruction) (n : Nat) {nodes : List Node}
    {rest : List Step} (hnodes : Stand code nodes rest) :
    Stand code (.tag kind text (if scan.debug then some ((n + 1 : Nat) : Int) else none) :: nodes)
      (tagSteps (scan.debug && code.debug) n step ++ rest) := by
  refine .cons ?_ hnodes
  show Except.ok (lineMark code _ ++ [tagInstruction code kind text]) = _
  unfold lineMark tagSteps
  rw [hstep]
  cases scan.debug <;> cases code.debug <;> rfl

/-- **The nodes of gaps and tags are their steps**, if each tag is one. -/
theorem stand_nodesFrom {step : TagSpan → Step} :
    ∀ (cut : List (List Char × TagSpan)) (trailing : List Char) (start : Edge) (n : Nat),
      (∀ piece ∈ cut, tagInstruction code (scan.kindOf piece.2.mark) (String.ofList piece.2.body)
        = (step piece.2).instruction) →
      Stand code (nodesFrom scan start (n + 1) cut trailing)
        (stepsFrom scan (scan.debug && code.debug) step start n cut trailing)
  | [], trailing, start, _, _ => by
      have hlast : Stand code (literalOf scan start .free trailing ++ [])
          (literalSteps scan start .free trailing ++ []) := Stand.nil.literal start .free trailing
      rw [List.append_nil, List.append_nil] at hlast
      exact hlast
  | (gap, span) :: more, trailing, start, n, h => by
      rw [List.forall_mem_cons] at h
      have hline : n + 1 + gap.count '\n' = n + gap.count '\n' + 1 := by omega
      have hnext : ∀ k, n + gap.count '\n' + 1 + k = n + gap.count '\n' + k + 1 := by omega
      unfold nodesFrom stepsFrom
      dsimp only
      rw [hline, hnext]
      exact .literal _ _ _ (.tag h.1 _ (stand_nodesFrom more trailing _ _ h.2))

theorem Stand.lower {nodes : List Node} {steps : List Step} (h : Stand code nodes steps) :
    lower code nodes = .ok (program code.asyncMode steps) := by
  obtain ⟨parts, hmap, hparts⟩ := h
  unfold TagTemplate.lower program
  rw [hmap, ← hparts]
  rfl

end Lower

/-! ## §3. The body. -/

section Compile

variable {settings : CodeSettings} (source : String) {steps : List Step}

/-- The body of the render function. -/
def bodyFor (settings : CodeSettings) (source : String) (steps : List Step) : Suite :=
  body settings.asyncMode (steps.map Step.sentence) (sourceOf? settings source)

/-- The code of the body. -/
def bodyCode (settings : CodeSettings) (source : String) (steps : List Step) : String :=
  String.ofList (Code.texts 0 (bodyFor settings source steps).codes)

/-- Steps may stand in a render function. -/
def AllFit (isAsync : Bool) (steps : List Step) : Prop :=
  ∀ s ∈ steps, (Suite.one s.sentence).Fits isAsync "it" 2

variable (hfit : AllFit settings.asyncMode steps)

include hfit in
theorem bodyFor_fits : (bodyFor settings source steps).Fits settings.asyncMode "it" 1 := by
  refine body_fits _ _ fun s hs => ?_
  obtain ⟨step, hstep, rfl⟩ := List.mem_map.mp hs
  exact hfit step hstep

include hfit in
theorem parseTree_body :
    parseTree (bodyCode settings source steps) = .ok ((bodyFor settings source steps).lines 1) := by
  have hfits := (bodyFor_fits source hfit).of_succ
  exact parseTree_suite _ hfits.fine (Nat.le_trans hfits.depth (Nat.le_of_ble_eq_true rfl))

include hfit in
/-- **No name of the body is free.** -/
theorem bindAmbient_returns :
    Returns (bindAmbient "it" (bodyCode settings source steps)) (bodyCode settings source steps) := by
  unfold bindAmbient
  rw [parseTree_body source hfit]
  dsimp only
  rw [freeNames_of_allProvided ((bodyFor_fits source hfit).provided 1)]
  exact .pure

section Stages

variable (hheader : settings.header = "") (hcontext : settings.contextName = "it")
include hheader hcontext

theorem writeBody_returns :
    Returns (writeBody settings source (program settings.asyncMode steps))
      (bodyCode settings source steps) := by
  have htext := bodyText_eq hheader source settings.asyncMode steps hcontext
  have hemitter : emitProgram settings source (program settings.asyncMode steps)
      = { builder := (emitProgram settings source (program settings.asyncMode steps)).builder } := by
    unfold emitProgram
    rw [hcontext]
    dsimp only
    rw [emitAll_program]
  unfold writeBody
  rw [hemitter] at htext ⊢
  dsimp only
  rw [htext]
  exact .pure

include hfit in
theorem generate_returns (hplugins : settings.plugins = []) {nodes : List Node}
    (hstand : Stand settings nodes steps) :
    Returns (generate settings nodes source) (bodyCode settings source steps) := by
  unfold generate
  rw [hplugins, hcontext]
  refine .bind (.ofExcept hstand.lower) (.bind (writeBody_returns source hheader hcontext) ?_)
  cases settings.useWith with
  | false => exact .bind .pure (.bind .record .pure)
  | true => exact .bind (bindAmbient_returns source hfit) (.bind .record .pure)

end Stages

/-! ## §4. The function. -/

/-- The render function of a template. -/
def functionFor (settings : CodeSettings) (source : String) (steps : List Step) : Suite :=
  function settings.asyncMode (steps.map Step.sentence) (sourceOf? settings source)

/-- The code of the function. -/
def functionCode (settings : CodeSettings) (source : String) (steps : List Step) : String :=
  String.ofList (Code.texts 0 (functionFor settings source steps).codes)

/-- The first line of the function is read back, and it is what is written. -/
theorem header_checked (isAsync : Bool) :
    isRow (definitionRow isAsync functionName parameters) = true
      ∧ ((if isAsync then "async def " else "def ") ++ renderName ++ "(" ++ "it"
          ++ ", options):\n").toList
        = rowText 0 (definitionRow isAsync functionName parameters) := by
  cases isAsync <;> decide +kernel

include hfit in
theorem wrapFunction_eq :
    wrapFunction (bodyCode settings source steps) settings.asyncMode "it"
      = functionCode settings source steps := by
  rw [← String.toList_inj, functionCode, String.toList_ofList]
  refine (wrapFunction_texts (bodyFor_fits source hfit).of_succ.fine _ _).trans ?_
  rw [(header_checked settings.asyncMode).2]
  exact (List.append_nil _).symm

include hfit in
theorem parseTree_function :
    parseTree (functionCode settings source steps)
      = .ok ((functionFor settings source steps).lines 1) := by
  have hfits := bodyFor_fits source hfit
  have hne : (bodyFor settings source steps).codes.isEmpty = false := by
    rw [List.isEmpty_eq_false_iff]
    exact Suite.codes_ne_nil _
  have hrow := (header_checked settings.asyncMode).1
  refine parseTree_suite _ ?_ ?_
  · show (isRow _ && !(bodyFor settings source steps).codes.isEmpty && decide (1 < Lexer.maxIndents)
      && Code.allFine 1 (bodyFor settings source steps).codes && true) = true
    rw [hrow, hne, hfits.fine]
    rfl
  · have hdepth : (bodyFor settings source steps).depth + 1 ≤ 16 :=
      Nat.le_trans hfits.depth (Nat.le_of_ble_eq_true rfl)
    exact Nat.max_le.mpr ⟨Nat.le_of_ble_eq_true rfl, hdepth⟩

include hfit in
theorem functionTree_eq (s : Surroundings) (name filename : Option String) :
    functionTree s name filename (functionCode settings source steps)
      = .ok ((functionFor settings source steps).lines 1) := by
  unfold functionTree
  rw [parseTree_function source hfit]
  dsimp only
  rw [show misplaced ((functionFor settings source steps).lines 1) = none from
    (bodyFor_fits source hfit).misplaced (by decide) rfl]

end Compile

/-! ## §5. The stages together. -/

/-- What a template may be called: the name of its code has no null character. -/
def IsPlace (name filename : Option String) : Prop :=
  (((Report.given filename).or (Report.given name)).getD anonymousCode).toList.contains '\x00' = false

/-- **A template whose tags stand side by side compiles**, to the code and the tree of its render
function. -/
theorem compile_straight {e : Environment} (hscan : e.scan.plugins = []) (hcode : e.code.plugins = [])
    (hheader : e.code.header = "") (hcontext : e.code.contextName = "it") {source : String}
    {asyncMode : Bool} {step : TagSpan → Step}
    (hstep : ∀ piece ∈ (scanTags e.scan.delimiters source.toList).1,
      tagInstruction e.code (e.scan.kindOf piece.2.mark) (String.ofList piece.2.body)
        = (step piece.2).instruction)
    (hfit : AllFit asyncMode (stepsOf e.scan e.code step source.toList))
    {name filename : Option String} (hplace : IsPlace name filename) (s : Surroundings) :
    Returns (e.compile s source name filename asyncMode)
      (functionCode { e.code with asyncMode } source (stepsOf e.scan e.code step source.toList),
        (functionFor { e.code with asyncMode } source
          (stepsOf e.scan e.code step source.toList)).lines 1) := by
  let settings : CodeSettings := { e.code with asyncMode }
  let steps := stepsOf e.scan e.code step source.toList
  have hstand : Stand settings (nodesOf e.scan source.toList) steps :=
    @stand_nodesFrom e.scan settings step _ _ .free 0 hstep
  have hbody : Returns (e.bodyOf source asyncMode) (bodyCode settings source steps) :=
    .bind (parse_returns hscan source)
      (@generate_returns settings source steps hfit hheader hcontext hcode _ hstand)
  have hfunction : Returns (e.functionOf source asyncMode) (functionCode settings source steps) := by
    refine .bind hbody ?_
    rw [hcontext, ← wrapFunction_eq source hfit]
    exact .pure
  unfold Environment.compile
  refine .bind hfunction ?_
  dsimp only
  rw [show (((Report.given filename).or (Report.given name)).getD anonymousCode).toList.contains
    '\x00' = false from hplace]
  exact .bind (.ofExcept (functionTree_eq source hfit s name filename)) (.bind .record .pure)

end RenderFunction

end TagTemplate
