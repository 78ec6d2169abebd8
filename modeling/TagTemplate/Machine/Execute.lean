/-
  TagTemplate.Machine.Execute
  ────────────────────────────────
  **WHAT STATEMENTS DO.**

  A statement either goes on to the next one, or leaves or continues a loop,
  or leaves the function with a value (`Flow`).  An error is a signal of the
  machine; handlers turn it back into a flow.
-/
import TagTemplate.Machine.Arguments
import TagTemplate.Machine.Evaluate

namespace TagTemplate.Machine

open Script

/-! ## §1. Flows and loops. -/

/-- How a statement ends. -/
inductive Flow where
  /-- The next statement follows. -/
  | next
  /-- The loop is left. -/
  | leave
  /-- The loop goes on with its next round. -/
  | again
  /-- The function is left with a value. -/
  | ret (v : Value)

/-- Run a body with every element of a source, then what follows a loop that was not left;
`fuel` bounds the number of elements. -/
def loopOver {α : Type} (advance : α → Eval (Option (Value × α))) (body : Value → Eval Flow)
    (orElse : Eval Flow) : Nat → α → Eval Flow
  | 0, _ => unsupported "a loop this long"
  | fuel + 1, a => do
    match ← advance a with
    | some (v, rest) =>
      match ← body v with
      | .leave => return .next
      | .ret w => return .ret w
      | _ => loopOver advance body orElse fuel rest
    | none => orElse

/-- Run a body while a test holds, then what follows a loop that was not left; `fuel` bounds the
number of rounds. -/
def loopWhile (test : Eval Bool) (body orElse : Eval Flow) : Nat → Eval Flow
  | 0 => unsupported "a loop this long"
  | fuel + 1 => do
    if ← test then
      match ← body with
      | .leave => return .next
      | .ret v => return .ret v
      | _ => loopWhile test body orElse fuel
    else orElse

/-! ## §2. Errors. -/

/-- Run a computation while an error is being handled. -/
def handling {α : Type} (id : Nat) (body : Eval α) : Eval α := do
  let before := (← get).handled
  modify fun m => { m with handled := id :: before }
  let result ← outcome body
  modify fun m => { m with handled := before }
  ofOutcome result
where
  /-- The value of an outcome, or its signal. -/
  ofOutcome : Except Signal α → Eval α
    | .ok a => return a
    | .error s => throw s

/-- Run a coroutine: the error that ends a walk cannot leave it. -/
def withoutStop {α : Type} (body : Eval α) : Eval α := do
  match ← outcome body with
  | .ok a => return a
  | .error (.raised id) =>
    match ← cell id with
    | .error e =>
      if ErrorClass.isBelow e.className "StopIteration" then
        raise {
          className := "RuntimeError"
          args := [.str "coroutine raised StopIteration"]
          cause := some id }
      else throw (.raised id)
    | _ => throw (.raised id)
  | .error s => throw s

/-- The error that a value stands for: itself, or a new one of the class it is. -/
def errorOf? (p : Powers) (v : Value) : Eval (Option Nat) := do
  let made ← match v with
    | .errorClass _ => p.call v [] []
    | _ => pure v
  match made, ← cellOf? made with
  | .ref id, some (.error _) => return some id
  | _, _ => return none

/-- Raise the error that a value stands for, perhaps with a cause. -/
def raiseValue (p : Powers) (v : Value) (cause : Option Value) : Eval Flow := do
  match ← errorOf? p v with
  | none => fail "TypeError" "exceptions must derive from BaseException"
  | some id =>
    let because (c : Option Nat) : Eval Unit :=
      setCell id fun
        | .error e => .error { e with cause := c }
        | other => other
    match cause with
    | none => throw (.raised id)
    | some .none =>
      because none
      throw (.raised id)
    | some w =>
      match ← errorOf? p w with
      | some c =>
        because (some c)
        throw (.raised id)
      | none => fail "TypeError" "exception causes must derive from BaseException"

/-- Raise the error that is being handled once more. -/
def raiseAgain : Eval Flow := do
  match (← get).handled with
  | id :: _ => throw (.raised id)
  | [] => fail "RuntimeError" "No active exception to reraise"

/-- Whether a class of errors, or one of several, stands for an error. -/
def stands (className : String) : Value → Eval Bool
  | .tuple classes => do
    let all ← classes.mapM one
    return all.any id
  | v => one v
where
  /-- Whether a class of errors stands for an error. -/
  one : Value → Eval Bool
    | .errorClass name => return ErrorClass.isBelow className name
    | _ =>
      fail "TypeError" "catching classes that do not inherit from BaseException is not allowed"

/-! ## §3. Patterns. -/

/-- The names that a pattern binds, or nothing if it does not match. -/
abbrev Match := Option (List (String × Value))

/-- The elements of a value that patterns of sequences look at. -/
def sequenceOf? (v : Value) : Eval (Option (List Value)) := do
  match v, ← cellOf? v with
  | .tuple items, _ => return some items
  | _, some (.list items) => return some items.toList
  | _, some (.range start stop step) => return some ((rangeNumbers start stop step).map .int)
  | _, _ => return none

/-- Whether a pattern stands for the rest of a sequence. -/
def isStarPattern : Pattern → Bool
  | .star _ => true
  | _ => false

/-- Whether a sequence of patterns fits a number of elements. -/
def fits (items : List Pattern) (n : Nat) : Bool :=
  if items.any isStarPattern then items.length ≤ n + 1 else items.length == n

/-- The entries of a mapping under some keys, unless one is missing. -/
def entriesUnder (id : Nat) : List Value → Eval (Option (List Value))
  | [] => return some []
  | k :: rest => do
    match ← lookup? id k with
    | some v => return (← entriesUnder id rest).map (v :: ·)
    | none => return none

/-- A binding of a name that may be absent. -/
def captured (name : Option String) (v : Value) : List (String × Value) :=
  match name with
  | some n => [(n, v)]
  | none => []

mutual

/-- Match a value with a pattern. -/
def pattern (p : Powers) (f : Nat) (v : Value) : Pattern → Eval Match
  | .value e => do
    let w ← expr p f e
    return if equal (← get) v w then some [] else none
  | .singleton c => do
    let w ← literal c
    return if same depthLimit v w then some [] else none
  | .sequence items => do
    match ← sequenceOf? v with
    | some vs => if fits items vs.length then patterns p f vs items else return none
    | none => return none
  | .star name => return some (captured name v)
  | .mapping keys items rest => do
    match v, ← cellOf? v with
    | .ref id, some (.dict all) =>
      let ks ← elementsOf p f keys
      match ← entriesUnder id ks with
      | some vs =>
        let m ← get
        let left := all.toList.filter fun (k, _) => !ks.any (equal m k)
        let others ← match rest with
          | some _ => newDict left
          | none => pure .none
        return (← patterns p f vs items).map (· ++ captured rest others)
      | none => return none
    | _, _ => return none
  | .object _ _ _ _ => unsupported "a pattern of a class"
  | .capture none name => return some (captured name v)
  | .capture (some inner) name => do
    return (← pattern p f v inner).map (· ++ captured name v)
  | .either choices => firstMatch p f v choices

/-- Match values with patterns side by side; a star takes what the patterns behind it leave. -/
def patterns (p : Powers) (f : Nat) (vs : List Value) : List Pattern → Eval Match
  | [] => return some []
  | .star name :: rest => do
    let n := vs.length - rest.length
    let middle ← match name with
      | some _ => newList (vs.take n)
      | none => pure .none
    return (← patterns p f (vs.drop n) rest).map (captured name middle ++ ·)
  | q :: rest => do
    match ← pattern p f (vs.headD .none) q with
    | some found => return (← patterns p f vs.tail rest).map (found ++ ·)
    | none => return none

/-- The first match of a value with one of several patterns. -/
def firstMatch (p : Powers) (f : Nat) (v : Value) : List Pattern → Eval Match
  | [] => return none
  | q :: rest => do
    match ← pattern p f v q with
    | some found => return some found
    | none => firstMatch p f v rest

end

/-! ## §4. Simple statements. -/

/-- Unbind what a target names. -/
def remove (p : Powers) (f : Nat) : Expr → Eval Unit
  | .name id _ => unbindName id f
  | .tuple targets | .list targets => removeAll targets
  | .subscript value index => do
    let v ← expr p f value
    removeItem v (← expr p f index)
  | _ => unsupported "deleting this"
where
  /-- Unbind what each of several targets names. -/
  removeAll : List Expr → Eval Unit
    | [] => return ()
    | e :: rest => do
      remove p f e
      removeAll rest

/-- Join a value with another in place, if that is how it works. -/
def joinInPlace (op : BinaryOp) (v w : Value) : Eval Value := do
  match op, v, ← cellOf? v with
  | .add, .ref id, some (.list _) =>
    let more ← elements w
    setCell id fun
      | .list items => .list (items ++ more.toArray)
      | c => c
    return v
  | .mul, .ref id, some (.list _) =>
    match number? w with
    | some n =>
      setCell id fun
        | .list items => .list (repeated n items.toList).toArray
        | c => c
      return v
    | none => multiply true v w
  | .bitOr, .ref id, some (.dict _) =>
    for (k, x) in ← pairsOf w do setEntry id k x
    return v
  | _, _, _ => binary op true v w

/-- Bind the result of an operator to its left operand. -/
def augment (p : Powers) (f : Nat) (op : BinaryOp) (target value : Expr) : Eval Unit := do
  match target with
  | .attribute holder name =>
    let holder ← expr p f holder
    let v ← getMember holder name
    let w ← expr p f value
    setMember holder name (← joinInPlace op v w)
  | .subscript _ (.slice _ _ _) => unsupported "an operator on a range of positions"
  | .subscript holder index =>
    let holder ← expr p f holder
    let i ← expr p f index
    let v ← item holder i
    let w ← expr p f value
    setItem holder i (← joinInPlace op v w)
  | .name id _ =>
    let v ← readName id f
    let w ← expr p f value
    bindName id (← joinInPlace op v w) f
  | _ => unsupported "this target"

/-- Evaluate the types of parameters and of the result, whose values nobody needs. -/
def evaluateTypes (p : Powers) (f : Nat) (params : List Param) (returns : Option Expr) :
    Eval Unit := do
  params.forM fun
    | .mk _ _ type _ => do
      let _ ← option p f type
  let _ ← option p f returns

/-- Define a function. -/
def define (p : Powers) (f : Nat) (isAsync : Bool) (name : String) (params : List Param)
    (body : List Line) (decorators : List Expr) (returns : Option Expr) : Eval Unit := do
  let wrappers ← elementsOf p f decorators
  let defaults ← paramDefaults p f params
  evaluateTypes p f params returns
  let v ← newFunction name params defaults (.block body) isAsync f
  let v ← wrappers.reverse.foldlM (fun v w => p.call w [v] []) v
  bindName name v f

/-! ## §5. Statements. -/

mutual

/-- Run a statement. -/
def stmt (p : Powers) (f : Nat) : Stmt → Eval Flow
  | .funcDef isAsync name params body decorators returns => do
    define p f isAsync name params body decorators returns
    return .next
  | .classDef _ _ _ _ _ => unsupported "a class"
  | .ret value => do return .ret (← option p f value)
  | .delete targets => do
    targets.forM (remove p f)
    return .next
  | .assign targets value => do
    let v ← expr p f value
    targets.forM (assign p f v)
    return .next
  | .augAssign target op value => do
    augment p f op target value
    return .next
  | .annAssign target _ value _ => do
    match value with
    | some e => assign p f (← expr p f e) target
    | none => pure ()
    return .next
  | .forLoop isAsync target iter body orElse => do
    let source ← expr p f iter
    let round (v : Value) : Eval Flow := do
      assign p f v target
      block p f body
    if isAsync then loopOver nextOfStream round (block p f orElse) stepLimit (← streamOf source)
    else loopOver Walk.next round (block p f orElse) stepLimit (← walkOf source)
  | .whileLoop test body orElse => do
    let holds : Eval Bool := do
      let v ← expr p f test
      return truthy (← get) v
    loopWhile holds (block p f body) (block p f orElse) stepLimit
  | .ifElse test body orElse => do
    let v ← expr p f test
    if truthy (← get) v then block p f body else block p f orElse
  | .withBlock _ _ _ => unsupported "a manager"
  | .matchCases subject cs => do cases p f (← expr p f subject) cs
  | .raiseError none _ => raiseAgain
  | .raiseError (some e) cause => do
    let v ← expr p f e
    let because ← match cause with
      | some c => do pure (some (← expr p f c))
      | none => pure none
    raiseValue p v because
  | .tryBlock body hs orElse final groups => do
    if groups then unsupported "groups of errors"
    let guarded : Eval Flow := do
      match ← outcome (block p f body) with
      | .ok .next => block p f orElse
      | .ok flow => return flow
      | .error (.raised id) => handlers p f id hs
      | .error s => throw s
    match ← outcome guarded with
    | .ok flow =>
      match ← block p f final with
      | .next => return flow
      | other => return other
    | .error (.raised id) =>
      match ← handling id (block p f final) with
      | .next => throw (.raised id)
      | other => return other
    | .error s => throw s
  | .assertTrue test message => do
    let v ← expr p f test
    if truthy (← get) v then return .next
    else
      match message with
      | some e => raise { className := "AssertionError", args := [← expr p f e] }
      | none => raise { className := "AssertionError" }
  | .importNames _ | .importFrom _ _ _ => unsupported "a module"
  | .globalNames _ | .nonlocalNames _ | .pass => return .next
  | .expr value => do
    let _ ← expr p f value
    return .next
  | .breakLoop => return .leave
  | .continueLoop => return .again

/-- Run statements one after another. -/
def block (p : Powers) (f : Nat) : List Line → Eval Flow
  | [] => return .next
  | .mk _ s :: rest => do
    match ← stmt p f s with
    | .next => block p f rest
    | flow => return flow

/-- Run the first handler whose class stands for an error. -/
def handlers (p : Powers) (f : Nat) (id : Nat) : List Handler → Eval Flow
  | [] => throw (.raised id)
  | .mk type name body _ :: rest => do
    let className ← match ← cell id with
      | .error e => pure e.className
      | _ => pure ""
    let mine ← match type with
      | none => pure true
      | some e => do stands className (← handling id (expr p f e))
    if mine then
      name.forM fun n => bindName n (.ref id) f
      let result ← outcome (handling id (block p f body))
      name.forM fun n => forgetName n f
      match result with
      | .ok flow => return flow
      | .error s => throw s
    else handlers p f id rest

/-- Run the first case whose pattern matches a value. -/
def cases (p : Powers) (f : Nat) (v : Value) : List Case → Eval Flow
  | [] => return .next
  | .mk q guard body _ :: rest => do
    match ← pattern p f v q with
    | none => cases p f v rest
    | some found =>
      found.forM fun (n, w) => bindName n w f
      let holds ← match guard with
        | none => pure true
        | some e => do
          let w ← expr p f e
          pure (truthy (← get) w)
      if holds then block p f body else cases p f v rest

end

/-! ## §6. Calls. -/

/-- Run the body of a function in a frame that is set up. -/
def runBody (p : Powers) (c : Closure) (f : Nat) : Eval Value := do
  match c.body with
  | .expr e => expr p f e
  | .block lines =>
    match ← block p f lines with
    | .ret v => return v
    | _ => return .none

/-- Whether the body of a function hands values out. -/
def Closure.handsOut (c : Closure) : Bool :=
  match c.body with
  | .block lines => (Effects.block lines).yields
  | .expr e => (Effects.expr e).yields

/-- Call a function. -/
def callClosure (p : Powers) (c : Closure) (args : List Value) (keywords : List (String × Value)) :
    Eval Value := do
  let vars ← bindArguments c args keywords
  if c.handsOut then unsupported "handing out values"
  let around ← frame c.frame
  let f ← newFrame {
    vars
    locals := c.locals
    globals := c.globals
    parent := some c.frame
    program := around.program
    path := c.path }
  if c.isAsync then newCoroutine (.body c f) else runBody p c f

/-- Run a whole program in a new frame, where some names have values from the start. -/
def runProgram (p : Powers) (t : Tree) (vars : List (String × Value)) : Eval Nat := do
  let f := (← get).frames.size
  let f ← newFrame { vars, program := f }
  let _ ← block p f t
  return f

end TagTemplate.Machine
