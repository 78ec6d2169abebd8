/-
  TagTemplate.Machine.Variable
  ────────────────────────────────
  **VARIABLES.**

  A name lives in one frame: that of the function if it binds the name, that
  of an enclosing function if one of those does, else that of the program
  (`homeOf`).  Which names a function binds is known before it runs, so a
  name may live in a frame and have no value there.
-/
import TagTemplate.Machine.Operator
import TagTemplate.Script.Builtins
import TagTemplate.Script.Scope

namespace TagTemplate.Machine

open Script

/-! ## §1. The names of a function. -/

/-- What a function does with names. -/
structure OwnNames where
  /-- The names it binds. -/
  own : List String := []
  /-- The names it declares global. -/
  globals : List String := []

/-- The names that come up while a scope is built. -/
def namesOf (kind : ScopeKind) (build : Scoping Unit) : OwnNames :=
  match build.run { kind, line := 0 } with
  | .ok (_, s) =>
    { own := (s.names.filter fun (_, k) =>
        (k.isBound || k.isImported) && !k.isGlobal && !k.isOuter).map (·.1)
      globals := (s.names.filter fun (_, k) => k.isGlobal).map (·.1) }
  | .error _ => {}

/-- The names of a function. -/
def namesOfFunction (params : List Param) (body : Body) : OwnNames :=
  namesOf .function do
    Scoping.paramNames params
    match body with
    | .block lines => Scoping.block lines
    | .expr e => Scoping.expr 0 e

/-- The names of a comprehension. -/
def namesOfClauses (clauses : List Clause) : OwnNames :=
  namesOf .comprehension (Scoping.clauses 0 true clauses)

/-! ## §2. Where a name lives. -/

/-- Where a name lives. -/
inductive Home where
  /-- In the frame that asks. -/
  | own (frame : Nat)
  /-- In the frame of an enclosing function. -/
  | outer (frame : Nat)
  /-- In the frame of the program. -/
  | program (frame : Nat)

/-- The frame a name lives in. -/
def Home.frame : Home → Nat
  | .own f | .outer f | .program f => f

/-- Where a name lives, seen from a frame; `fuel` bounds how deeply functions nest. -/
def homeFrom (name : String) (start : Nat) : Nat → Nat → Eval Home
  | 0, f => return .program f
  | fuel + 1, f => do
    let fr ← frame f
    if fr.locals.contains name then return if f == start then .own f else .outer f
    else
      match fr.parent with
      | some parent =>
        if fr.globals.contains name then return .program fr.program
        else homeFrom name start fuel parent
      | none => return .program fr.program

/-- Where a name lives, seen from a frame. -/
def homeOf (name : String) (f : Nat) : Eval Home := homeFrom name f (f + 1) f

/-! ## §3. Reading, binding, unbinding. -/

/-- Raise the error of a name that has no value. -/
def unbound (name : String) (home : Home) : Eval α := do
  let undefined (text : String) : Raised :=
    { className := "NameError", args := [.str text], name := some (.str name) }
  match home with
  | .own _ =>
    fail "UnboundLocalError"
      ("cannot access local variable '" ++ name ++ "' where it is not associated with a value")
  | .outer _ =>
    raise (undefined
      ("cannot access free variable '" ++ name
        ++ "' where it is not associated with a value in enclosing scope"))
  | .program _ => raise (undefined ("name '" ++ name ++ "' is not defined"))

/-- The value of a name that every script knows. -/
def knownName (name : String) : Eval (Option Value) := do
  match Builtin.ofName? name, ErrorClass.known name with
  | some b, _ => return some (.builtin b)
  | none, some className => return some (.errorClass className)
  | none, none =>
    match name with
    | "Ellipsis" => return some .ellipsis
    | "__name__" => return some (.str "builtins")
    | _ => if isBuiltin name then unsupported name else return none

/-- The value of a name. -/
def readName (name : String) (f : Nat) : Eval Value := do
  let home ← homeOf name f
  match (← frame home.frame).vars.lookup name, home with
  | some v, _ => return v
  | none, .program _ =>
    match ← knownName name with
    | some v => return v
    | none => unbound name home
  | none, _ => unbound name home

/-- Variables with one of them set. -/
def withVar (vars : List (String × Value)) (name : String) (v : Value) : List (String × Value) :=
  match vars with
  | [] => [(name, v)]
  | (n, w) :: rest => if n == name then (n, v) :: rest else (n, w) :: withVar rest name v

/-- Give a name a value. -/
def bindName (name : String) (v : Value) (f : Nat) : Eval Unit := do
  let home ← homeOf name f
  setFrame home.frame fun fr => { fr with vars := withVar fr.vars name v }

/-- Take the value of a name away, if it has one. -/
def forgetName (name : String) (f : Nat) : Eval Unit := do
  let home ← homeOf name f
  setFrame home.frame fun fr => { fr with vars := fr.vars.filter (·.1 != name) }

/-- Unbind a name, which has to have a value. -/
def unbindName (name : String) (f : Nat) : Eval Unit := do
  let home ← homeOf name f
  match (← frame home.frame).vars.lookup name with
  | some _ => forgetName name f
  | none => unbound name home

end TagTemplate.Machine
