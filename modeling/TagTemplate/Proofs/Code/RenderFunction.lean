/-
  TagTemplate.Proofs.Code.RenderFunction
  ────────────────────────────────
  **THE RENDER FUNCTION AROUND THE SENTENCES OF A TEMPLATE.**

  The render function of a template is the preamble, the template's own
  sentences, and the question whether a layout is to be rendered around the
  output; with debugging on all but the preamble stands in a `try`.  It is code
  by rule (`body`), so that it is known what the code reads as, without running
  a parser on it.  What is the same for every template is listed in `Standing`.

    • `body_fits`: the body may stand in a function if the template's own
      sentences may.
-/
import TagTemplate.Proofs.Code.Embedded
import TagTemplate.Proofs.Script.Fitting

namespace TagTemplate

open Text Script

namespace RenderFunction

/-! ## §1. Its statements. -/

/-- The context. -/
def contextIdent : Ident := ⟨"it", by decide, by decide⟩

/-- The options of the template. -/
def optionsName : Ident := ⟨"options", by decide, by decide⟩

/-- The data of a template that is asked for. -/
def dataName : Ident := ⟨"__kiln_data", by decide, by decide⟩

/-- The function that asks for a template. -/
def includeName : Ident := ⟨"include", by decide, by decide⟩

/-- The function that asks for a template and waits for it. -/
def includeAsyncName : Ident := ⟨"include_async", by decide, by decide⟩

/-- The layout that is asked for. -/
def layoutName : Ident := ⟨"layout", by decide, by decide⟩

/-- The data of the layout. -/
def layoutDataName : Ident := ⟨"layout_data", by decide, by decide⟩

/-- The error that is being handled. -/
def errorName : Ident := ⟨"__kiln_exc", by decide, by decide⟩

/-- A name as an expression. -/
def read (w : Ident) : Phrase := .plain (.name w)

/-- A member of the environment. -/
def ofEnvironment (w : Ident) : Primary := .member (.name environmentName) w

/-- A member of the state. -/
def ofState (w : Ident) : Primary := .member (.name stateName) w

/-- The output so far. -/
def output : Primary := ofState ⟨"res", by decide, by decide⟩

/-- The template that is asked for. -/
def wantedName : Ident := ⟨"__kiln_name", by decide, by decide⟩

/-- What a function that asks for a template is told. -/
def inclusionParameters : Parameters := ⟨wantedName, dataName, true, by decide⟩

/-- What it does. -/
def inclusionBody (method : Ident) : Suite :=
  .one (.ret (.plain (.call (ofEnvironment method)
    (.cons (read wantedName) (.cons (read dataName) (.cons (read optionsName) .nil))))))

/-- The method that renders a template. -/
def renderMethod : Ident := ⟨"render", by decide, by decide⟩

/-- The method that renders a template and is waited for. -/
def renderAsyncMethod : Ident := ⟨"render_async", by decide, by decide⟩

/-- The function that asks for a template. -/
def includePlain : Sentence :=
  .define false includeName inclusionParameters (inclusionBody renderMethod)

/-- The function that asks for a template and waits for it. -/
def includeAsync : Sentence :=
  .define false includeAsyncName inclusionParameters (inclusionBody renderAsyncMethod)

/-- The line that makes the state, to which the source may be handed. -/
def stateStart : Option Quotation → Sentence
  | some source => newStateSentence source
  | none =>
    .assign (.name stateName)
      (.plain (.call (ofEnvironment newStateMethod) .nil))

/-- The line that names the function that appends to the output. -/
def appendAlias : Sentence :=
  .assign (.name appendName) (.plain (.member output ⟨"append", by decide, by decide⟩))

/-- The layout that is asked for. -/
def pathName : Ident := ⟨"__kiln_path", by decide, by decide⟩

/-- What the function that asks for a layout is told. -/
def layoutParameters : Parameters := ⟨pathName, dataName, true, by decide⟩

/-- What it does. -/
def layoutBody : Suite :=
  .cons (.assign (.member (.name stateName) layoutName) (read pathName))
    (.one (.assign (.member (.name stateName) layoutDataName) (.either (.name dataName) .empty)))

/-- The function that asks for a layout. -/
def layoutDefinition : Sentence := .define false layoutName layoutParameters layoutBody

/-- The statements before the program. -/
def opening (source : Option Quotation) : List Sentence :=
  [includePlain, includeAsync, stateStart source, appendAlias, layoutDefinition]

/-- The output in one piece. -/
def joined : Primary :=
  .call (.member (.text (literalQuotation [])) ⟨"join", by decide, by decide⟩)
    (.cons (.plain output) .nil)

/-- The render of the layout. -/
def layoutCall (isAsync : Bool) : Phrase :=
  let data : Primary := .extended (.name contextIdent)
    (.item (.plain (.text (literalQuotation ['b', 'o', 'd', 'y']))) (.plain joined)
      (.spread (ofState layoutDataName) .nil))
  let args : Phrases := .cons (.plain (ofState layoutName)) (.cons (.plain data) .nil)
  if isAsync then .await (.call (.name includeAsyncName) args)
  else .plain (.call (.name includeName) args)

/-- The question whether there is a layout. -/
def layoutChoice (isAsync : Bool) : Sentence :=
  .when (.present (ofState layoutName))
    (.one (.assign (.whole output) (.plain (.list (layoutCall isAsync)))))

/-- The line of the tag that is run. -/
def lineName : Ident := ⟨"line", by decide, by decide⟩

/-- The handlers that turn errors into reports. -/
def reportHandlers : Handlers :=
  .cons (.plain (ofEnvironment ⟨"TemplateError", by decide, by decide⟩)) none (.one .raise)
    (.one (read ⟨"Exception", by decide, by decide⟩) (some errorName)
      (.one (.raiseFrom (.plain (.call (ofEnvironment ⟨"runtime_error", by decide, by decide⟩)
        (.cons (read errorName) (.cons (.plain (ofState ⟨"source", by decide, by decide⟩))
          (.cons (.plain (ofState lineName))
            (.cons (.plain (.member (.name optionsName) ⟨"filepath", by decide, by decide⟩)) .nil))))))
        (read errorName))))

/-- The last line. -/
def result : Sentence := .ret (.plain joined)

/-- The statements behind the preamble; with a source, errors are reported. -/
def core (isAsync : Bool) (own : List Sentence) : Option Quotation → Suite
  | none => .before own (.cons (layoutChoice isAsync) (.one result))
  | some _ =>
    .cons (.guard (.before own (.one (layoutChoice isAsync))) reportHandlers) (.one result)

/-- What is the same in the render function of every template. -/
inductive Standing where
  | includePlain
  | includeAsync
  | stateStart
  | appendAlias
  | layoutDefinition
  | layoutChoice
  | result

/-- The sentence. -/
def Standing.sentence (isAsync : Bool) : Standing → Sentence
  | .includePlain => RenderFunction.includePlain
  | .includeAsync => RenderFunction.includeAsync
  | .stateStart => RenderFunction.stateStart none
  | .appendAlias => RenderFunction.appendAlias
  | .layoutDefinition => RenderFunction.layoutDefinition
  | .layoutChoice => RenderFunction.layoutChoice isAsync
  | .result => RenderFunction.result

/-- The lines in which it is written. -/
def Standing.text (isAsync : Bool) : Standing → List String
  | .includePlain => ["def include(__kiln_name, __kiln_data=None):",
      "    return __kiln_env.render(__kiln_name, __kiln_data, options)"]
  | .includeAsync => ["def include_async(__kiln_name, __kiln_data=None):",
      "    return __kiln_env.render_async(__kiln_name, __kiln_data, options)"]
  | .stateStart => ["__kiln = __kiln_env.new_state()"]
  | .appendAlias => ["__kiln_append = __kiln.res.append"]
  | .layoutDefinition => ["def layout(__kiln_path, __kiln_data=None):",
      "    __kiln.layout = __kiln_path",
      "    __kiln.layout_data = __kiln_data or \x7b\x7d"]
  | .layoutChoice => Emitter.layoutLines "it" isAsync
  | .result => [returnLine]

/-- The body of the render function. -/
def body (isAsync : Bool) (own : List Sentence) (source : Option Quotation) : Suite :=
  .before (opening source) (core isAsync own source)

/-- The parameters of the render function. -/
def parameters : Parameters := ⟨contextIdent, optionsName, false, by decide⟩

/-- What the render function is called. -/
def functionName : Ident := ⟨renderName, by decide, by decide⟩

/-- The render function. -/
def function (isAsync : Bool) (own : List Sentence) (source : Option Quotation) : Suite :=
  .one (.define isAsync functionName parameters (body isAsync own source))

/-! ## §2. They fit. -/

/-- What holds on every line of what holds on one, as far as it does not depend on the line. -/
theorem provided_of_first {s : Sentence}
    (hline : ∀ n, Mention.inStmt (s.stmt n) = Mention.inStmt (s.stmt 0))
    (h : allProvided "it" (Mention.inStmt (s.stmt 0)) = true) (n : Nat) :
    allProvided "it" (Mention.inBlock ((Suite.one s).lines n)) = true := by
  simp only [Suite.lines, Mention.inBlock, allProvided_append, hline, h]
  rfl

section Fits

variable (isAsync : Bool)

/-- What can be computed of a sentence: its lines are read back, it reads no name of the context,
and its lines are those that are written. -/
theorem Standing.checked (f : Standing) :
    Code.allFine 2 (Suite.one (f.sentence isAsync)).codes = true
      ∧ allProvided "it" (Mention.inStmt ((f.sentence isAsync).stmt 0)) = true
      ∧ Code.rowsAll 0 (f.sentence isAsync).codes = written 0 (f.text isAsync) := by
  cases f <;> cases isAsync <;> dsimp only [Standing.sentence, Standing.text] <;> decide +kernel

/-- What can be computed of the handlers. -/
theorem reportHandlers_checked :
    Code.allFine 1 reportHandlers.codes = true
      ∧ allProvided "it" (Mention.inHandlers (reportHandlers.trees 0)) = true
      ∧ Code.rowsAll 0 reportHandlers.codes = written 0 reportLines := by
  decide +kernel

theorem Standing.fits (f : Standing) :
    (Suite.one (f.sentence isAsync)).Fits isAsync "it" 2 where
  depth := by cases f <;> cases isAsync <;> exact Nat.le_of_ble_eq_true rfl
  fine := (f.checked isAsync).1
  placed _ _ := by cases f <;> cases isAsync <;> rfl
  plain _ := by cases f <;> cases isAsync <;> rfl
  provided := provided_of_first (by cases f <;> cases isAsync <;> exact fun _ => rfl)
    (f.checked isAsync).2.1

theorem stateStart_fits (source : Option Quotation) :
    (Suite.one (stateStart source)).Fits isAsync "it" 2 := by
  cases source with
  | none => exact Standing.fits isAsync .stateStart
  | some q =>
      refine ⟨Nat.le_of_ble_eq_true rfl, ?_, fun _ _ => rfl, fun _ => rfl,
        provided_of_first (fun _ => rfl) ?_⟩
      · show (isRow (newStateRow q) && true) = true
        rw [isRow_newState]
        rfl
      · show allProvided "it" [.binds "__kiln", .reads "__kiln_env"] = true
        decide

theorem reportHandlers_fits : reportHandlers.Fits isAsync "it" 1 where
  depth := Nat.le_of_ble_eq_true rfl
  fine := reportHandlers_checked.1
  placed _ _ := rfl
  plain _ := rfl
  provided _ := reportHandlers_checked.2.1

end Fits

section Body

variable (isAsync : Bool) {own : List Sentence} (source : Option Quotation)
  (hown : ∀ s ∈ own, (Suite.one s).Fits isAsync "it" 2)
include hown

theorem core_fits : (core isAsync own source).Fits isAsync "it" 1 := by
  have hchoice := Standing.fits isAsync .layoutChoice
  have hresult := (Standing.fits isAsync .result).of_succ
  cases source with
  | none =>
      exact .before (fun s hs => (hown s hs).of_succ) (hchoice.of_succ.cons hresult)
  | some q =>
      have hguarded := Suite.Fits.before hown hchoice
      exact (hguarded.guard (reportHandlers_fits isAsync)).cons hresult

/-- **The body of the render function may stand in a function.** -/
theorem body_fits : (body isAsync own source).Fits isAsync "it" 1 := by
  refine .before ?_ (core_fits isAsync source hown)
  intro s hs
  simp only [opening, List.mem_cons, List.not_mem_nil, or_false] at hs
  rcases hs with rfl | rfl | rfl | rfl | rfl
  · exact (Standing.fits isAsync .includePlain).of_succ
  · exact (Standing.fits isAsync .includeAsync).of_succ
  · exact (stateStart_fits isAsync source).of_succ
  · exact (Standing.fits isAsync .appendAlias).of_succ
  · exact (Standing.fits isAsync .layoutDefinition).of_succ

end Body

end RenderFunction

end TagTemplate
