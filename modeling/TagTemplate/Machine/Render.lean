/-
  TagTemplate.Machine.Render
  ────────────────────────────────
  **TEMPLATES AND THEIR RENDERS.**

  A template is compiled once and may be rendered often.  Every render runs
  in a context, which is left again however the render ends (`inContext`).
  A template asks for another one by a name, which is resolved against its
  own.
-/
import TagTemplate.Compile
import TagTemplate.Machine.Execute
import TagTemplate.Machine.Failure

namespace TagTemplate.Machine

/-! ## §1. Templates. -/

/-- A template that is ready to render. -/
structure Template where
  /-- Its environment. -/
  environment : Nat
  /-- Its render function. -/
  function : Value
  /-- Its name. -/
  name : Option String
  /-- The path of its file. -/
  filename : Option String
  /-- What it was made from. -/
  source : String
  /-- The code of its render function. -/
  code : String
  /-- It has to be waited for. -/
  isAsync : Bool
  /-- Its options. -/
  options : Value
  deriving Inhabited

/-- The written form of a template. -/
def Template.written (t : Template) : String :=
  "<Template " ++ (Report.given t.name).getD "(inline)" ++ (if t.isAsync then " async" else "")
    ++ ">"

/-- A text, or nothing if there is none. -/
def ofText? (s : Option String) : Value :=
  match s with
  | some t => .str t
  | none => .none

/-- New options of a template. -/
def newOptions (name filename asyncMode : Value) : Eval Value :=
  new (.object .options [("name", name), ("filepath", filename), ("async_mode", asyncMode)])

/-- An environment with its global names. -/
def sharedAt (id : Nat) : Eval Shared := do
  match (← get).environments[id]? with
  | some s => return s
  | none => unsupported "an environment that does not exist"

/-- The name under which a program finds its environment. -/
def environmentName : String := "__kiln_env"

/-- Compile a template. -/
def compileTemplate (p : Powers) (env : Nat) (source : String) (name filename : Option String)
    (asyncMode : Option Bool) : Eval Template := do
  let shared ← sharedAt env
  let e := shared.environment
  let isAsync := asyncMode.getD e.code.asyncMode
  let (code, tree) ← ofTraced (e.compile (← get).surroundings source name filename isAsync)
  let f ← runProgram p tree (withVar shared.globals environmentName (.environment env))
  let function := ((← frame f).vars.lookup renderName).getD .none
  let options ← newOptions (ofText? name) (ofText? filename) (.bool isAsync)
  return { environment := env, function, name, filename, source, code, isAsync, options }

/-! ## §2. Templates by name. -/

/-- The error of a name that is not a text. -/
def badName (name : Value) : Loader → Eval Template
  | .directories _ _ => typeFail "expected str, bytes or os.PathLike object, not " name ""
  | .custom _ _ => unsupported "a name that is not a text"
  | .choice [] => do
    failWith (Missing.inNone (shown (← get) name) 0 []).fault
  | .choice (first :: _) => badName name first
  | .mapping _ | .shared => do
    checkKey depthLimit name
    noMember name "startswith"

/-- The name that a template asks by, and the template it asks for. -/
def loadTemplate (p : Powers) (env : Nat) (name : Value) (parent : Option String)
    (asyncMode : Option Bool) : Eval Template := do
  let e := (← sharedAt env).environment
  match e.blueprint.loader, text? name with
  | none, _ => do failWith (Missing.noLoader (shown (← get) name)).fault
  | some loader, some s =>
    let resolved := resolveName s parent
    let loaded ← ofExcept (loader.get (← get).surroundings resolved)
    debugRecord .environment
      ("Loaded template " ++ resolved ++ " from "
        ++ (Report.given loaded.filename).getD "memory")
    compileTemplate p env loaded.source (some resolved) loaded.filename asyncMode
  | some loader, none =>
    if (Report.given parent).isSome then noMember name "startswith" else badName name loader

/-- The name of the template that asks, from its options. -/
def parentName (options : Value) : Eval (Option String) := do
  match options with
  | .none => return none
  | _ => return text? (← getMember options "name")

/-! ## §3. Renders. -/

/-- Run a render of a template in its context and go back to the context before. -/
def inContext {α : Type} (t : Template) (body : Eval α) : Eval α := do
  let limit := (← sharedAt t.environment).environment.maxDepth
  let around := (← get).context
  let c ← ofExcept (RenderContext.enter around t.name t.filename limit)
  modify fun m => { m with context := some c }
  let result ← outcome body
  modify fun m => { m with context := around }
  handling.ofOutcome result

/-- The data of a render: nothing at all is a new mapping. -/
def dataOf (data : Value) : Eval Value :=
  match data with
  | .none => newDict []
  | _ => return data

/-- The failure of a render that cannot wait. -/
def asyncReport (t : Template) : Report where
  kind := .plain
    ("Template '" ++ (Report.given t.name).getD "(inline)" ++ "' was compiled in async mode")
  templateName := t.name
  suggestion := some "Use render_async(), or include_async() from another template"

/-- Render a template without waiting. -/
def Template.render (p : Powers) (t : Template) (data : Value) : Eval Value := do
  if t.isAsync then failWith (.template (.failure (asyncReport t)))
  else
    let data ← dataOf data
    inContext t (p.call t.function [data, t.options] [])

/-- Render a template and wait for it, if that is needed. -/
def Template.renderAsync (p : Powers) (t : Template) (data : Value) : Eval Value :=
  withoutStop do
    if t.isAsync then
      let data ← dataOf data
      inContext t do p.wait (← p.call t.function [data, t.options] [])
    else t.render p data

/-- Render a template by its name; `options` are those of the template that asks. -/
def renderNamed (p : Powers) (env : Nat) (asyncMode : Bool) (name data options : Value) :
    Eval Value := do
  let t ← loadTemplate p env name (← parentName options) (some asyncMode)
  if asyncMode then t.renderAsync p data else t.render p data

/-! ## §4. What the code of a template asks its environment. -/

/-- A new state of a render. -/
def newState (env : Nat) (source : Value) : Eval Value := do
  let shared ← sharedAt env
  let output ← newList []
  let layoutData ← newDict []
  new (.object .state
    [("e", .primitive shared.environment.blueprint.escape), ("f", shared.filterValue),
      ("s", .primitive .plain),
      ("res", output), ("line", .int 1), ("source", source), ("layout", .none),
      ("layout_data", layoutData)])

/-- Call a method of an environment. -/
def callEnvironment (p : Powers) (env : Nat) (name : String) (args : List Value)
    (keywords : List (String × Value)) : Eval Value := do
  let given (params : List String) (least : Nat) :=
    argumentsFor ("Environment." ++ name) params least args keywords
  match name with
  | "render" =>
    match ← given ["template", "data", "options"] 1 with
    | [template, data, options] => renderNamed p env false template data options
    | _ => return .none
  | "render_async" =>
    match ← given ["template", "data", "options"] 1 with
    | [template, data, options] => newCoroutine (.render env template data options)
    | _ => return .none
  | "new_state" =>
    match ← given ["source"] 0 with
    | [source] => newState env source
    | _ => return .none
  | "runtime_error" =>
    match ← given ["error", "source", "lineno", "filepath"] 4 with
    | [error, source, line, path] =>
      convertHere error (text? source) ((number? line).getD 0) (text? path)
    | _ => return .none
  | _ => noMember (.environment env) name

end TagTemplate.Machine
