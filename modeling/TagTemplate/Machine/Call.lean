/-
  TagTemplate.Machine.Call
  ────────────────────────────────
  **CALLING AND WAITING.**

  What can be called is a function of a script, a built-in one, a method, a
  class of errors, or a primitive.  Calls nest at most `callDepth` deep; a
  call beyond that is an error of the script, like any other.
-/
import TagTemplate.Machine.Render

namespace TagTemplate.Machine

/-- Call a method of a value. -/
def callMethod (p : Powers) (self : Value) (name : String) (args : List Value)
    (keywords : List (String × Value)) : Eval Value := do
  match self, text? self with
  | .environment env, _ => callEnvironment p env name args keywords
  | _, some s => textMethod s name args
  | .tuple items, _ => tupleMethod items name args
  | .ref id, _ =>
    match ← cell id with
    | .list _ => listMethod p id name args keywords
    | .dict _ => dictMethod id name args keywords
    | .html content => return content
    | _ => unsupported name
  | _, _ => unsupported name

/-- Call a value. -/
def callValue (p : Powers) (v : Value) (args : List Value) (keywords : List (String × Value)) :
    Eval Value := do
  match v with
  | .builtin b => callBuiltin p b args keywords
  | .errorClass name => newError name args keywords
  | .primitive q => callPrimitive q args keywords
  | .lent name setup => callLent name setup args
  | .method self name => callMethod p self name args keywords
  | _ =>
    match ← cellOf? v with
    | some (.closure c) => callClosure p c args keywords
    | _ => typeFail "'" v "' object is not callable"

/-- Do what was waited for. -/
def runTask (p : Powers) : Task → Eval Value
  | .call function args keywords => p.call function args keywords
  | .body c f => withoutStop (runBody p c f)
  | .value v => return v
  | .render env template data options => renderNamed p env true template data options

/-- Wait for a value. -/
def waitFor (p : Powers) (v : Value) : Eval Value := do
  match v, ← cellOf? v with
  | .ref id, some (.coroutine (some task)) =>
    setCell id fun _ => .coroutine none
    runTask p task
  | _, some (.coroutine none) =>
    fail "RuntimeError" "cannot reuse already awaited coroutine"
  | _, _ => typeFail "object " v " can't be used in 'await' expression"

/-- What calls can do that nest at most so deep. -/
def powers : Nat → Powers
  | 0 => default
  | n + 1 => {
    call := fun v args keywords => callValue (powers n) v args keywords
    wait := fun v => waitFor (powers n) v }

/-- How deep calls may nest. -/
def callDepth : Nat := 990

/-- What scripts can do. -/
def allPowers : Powers := powers callDepth

end TagTemplate.Machine
