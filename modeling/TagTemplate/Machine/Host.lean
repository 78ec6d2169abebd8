/-
  TagTemplate.Machine.Host
  ────────────────────────────────
  **WHAT A HOST CAN DO.**

  A host makes environments, compiles and renders templates, and looks at
  values.  The data it hands in live on the machine, so that a template can
  change them and the host can see the change.
-/
import TagTemplate.Machine.Call

namespace TagTemplate.Machine

/-! ## §1. Environments. -/

/-- Put an environment on the machine. -/
def addEnvironment (s : Shared) : Eval Nat :=
  modifyGet fun m =>
    (m.environments.size, { m with environments := m.environments.push s })

/-- A new environment, perhaps with a function that filters in the place of a primitive. -/
def newEnvironment (b : Blueprint) (filter : Option Value := none) : Eval Nat := do
  let e ← ofExcept (Environment.make b)
  addEnvironment { environment := e, globals := ← ofFields b.globals, filter }

/-- A new environment made from another one; it keeps the values of global names and the filter, if
they are not replaced. -/
def configure (env : Nat) (o : Overrides) : Eval Nat := do
  let s ← sharedAt env
  let e ← ofExcept (s.environment.configure o)
  let globals ← match o.globals with
    | some fields => ofFields fields
    | none => pure s.globals
  addEnvironment { environment := e, globals, filter := if o.filter.isSome then none else s.filter }

/-! ## §2. Templates. -/

/-- Compile a text. -/
def compileText (env : Nat) (source : String) (name filename : Option String)
    (asyncMode : Option Bool) : Eval Template :=
  compileTemplate allPowers env source name filename asyncMode

/-- The template of a name. -/
def getTemplate (env : Nat) (name : Value) (parent : Option String) (asyncMode : Option Bool) :
    Eval Template :=
  loadTemplate allPowers env name parent asyncMode

/-- Render a template, waiting for it or not. -/
def renderTemplate (t : Template) (asyncMode : Bool) (data : Value) : Eval Value :=
  if asyncMode then t.renderAsync allPowers data else t.render allPowers data

/-- Compile a text and render it once. -/
def renderText (env : Nat) (source : String) (asyncMode : Bool) (data : Value) : Eval Value := do
  renderTemplate (← compileText env source none none (some asyncMode)) asyncMode data

/-- Render the template of a name; `options` are those of the template that asks. -/
def renderByName (env : Nat) (name : Value) (asyncMode : Bool) (data options : Value) :
    Eval Value :=
  renderNamed allPowers env asyncMode name data options

/-- Data with further entries, in a new mapping. -/
def mergedData (data : Value) (more : List (String × Value)) : Eval Value := do
  if more.isEmpty then return data
  else
    let id ← alloc (.dict #[])
    if truthy (← get) data then addEntries id data
    more.forM fun (k, v) => setEntry id (.str k) v
    return .ref id

/-! ## §3. Looking at values. -/

/-- Call a value with one argument. -/
def applyTo (function v : Value) : Eval Value := allPowers.call function [v] []

/-- A value as a datum; `fuel` bounds the depth. -/
def toDatum (m : Machine) : Nat → Value → Datum
  | 0, _ => .none
  | fuel + 1, v =>
    match v with
    | .none => .none
    | .bool b => .bool b
    | .int i => .int i
    | .str s => .str s
    | .markup s => .markup s
    | .tuple items => .tuple (items.map (toDatum m fuel))
    | .lent name setup => .function name setup
    | .ref id =>
      match m.heap.getD id default with
      | .list items => .list (items.toList.map (toDatum m fuel))
      | .dict entries =>
        .dict (entries.toList.map fun (k, w) => (shown m k, toDatum m fuel w))
      | .html content => .html (toDatum m fuel content)
      | .object .plain fields => .object (fields.map fun (k, w) => (k, toDatum m fuel w))
      | _ => .str (written m v)
    | _ => .str (written m v)

/-- A value as a datum. -/
def dataOfValue (v : Value) : Eval Datum := return toDatum (← get) depthLimit v

end TagTemplate.Machine
