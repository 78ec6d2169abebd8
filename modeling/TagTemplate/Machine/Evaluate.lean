/-
  TagTemplate.Machine.Evaluate
  ────────────────────────────────
  **THE VALUES OF EXPRESSIONS.**

  An expression is evaluated in a frame, from the left to the right.  Calls
  go through `Powers`, so that the recursion here is over the expression
  alone.  A comprehension runs in a frame of its own; its first source is
  evaluated outside of it.
-/
import TagTemplate.Machine.Function
import TagTemplate.Machine.Variable
import TagTemplate.Script.Placement

namespace TagTemplate.Machine

open Script

/-! ## §1. Loops. -/

/-- Do something with every element that a source yields; `fuel` bounds their number. -/
def forEach {α : Type} (advance : α → Eval (Option (Value × α))) (body : Value → Eval Unit) :
    Nat → α → Eval Unit
  | 0, _ => unsupported "a loop this long"
  | fuel + 1, a => do
    match ← advance a with
    | some (v, rest) =>
      body v
      forEach advance body fuel rest
    | none => return ()

/-- The next value of a source that is waited for. -/
def nextOfStream (id : Nat) : Eval (Option (Value × Nat)) := do
  match ← cell id with
  | .stream (v :: rest) =>
    setCell id fun _ => .stream rest
    return some (v, id)
  | _ => return none

/-- The source that a value is, if it has to be waited for. -/
def streamOf (v : Value) : Eval Nat := do
  match v, ← cellOf? v with
  | .ref id, some (.stream _) => return id
  | _, _ => typeFail "'async for' requires an object with __aiter__ method, got " v ""

/-! ## §2. Pieces. -/

/-- The value of a literal. -/
def literal : Constant → Eval Value
  | .none => return .none
  | .bool b => return .bool b
  | .ellipsis => return .ellipsis
  | .int n => return .int n
  | .str s _ => return .str s
  | .decimal _ => unsupported "a number with a fraction"
  | .bytes _ => unsupported "bytes"

/-- The outcome of a comparison. -/
def compareValues (op : CompareOp) (v w : Value) : Eval Bool := do
  match op with
  | .eq => return equal (← get) v w
  | .ne => return !equal (← get) v w
  | .lt => ordered .lt v w
  | .le => ordered .le v w
  | .gt => ordered .gt v w
  | .ge => ordered .ge v w
  | .same => return same depthLimit v w
  | .notSame => return !same depthLimit v w
  | .member => member v w
  | .notMember => return !(← member v w)

/-- A value as it stands inside of a text. -/
def formattedText (v : Value) (conversion : Option Char) (spec : String) : Eval String := do
  let m ← get
  if !spec.isEmpty then unsupported "a format"
  else
    match conversion with
    | some 'r' => return written m v
    | some 'a' => unsupported "a text in ASCII"
    | _ => return shown m v

/-- How a report names a primitive. -/
def primitiveText : Primitive → String
  | .html => "kiln.utils.html.html_escape()"
  | .length => "len()"
  | .plain => "str()"
  | .written => "repr()"
  | _ => "<lambda>()"

/-- How a report names a function. -/
def functionText (v : Value) : Eval String := do
  match v, ← cellOf? v with
  | .primitive q, _ => return primitiveText q
  | _, some (.closure c) => return c.path ++ "()"
  | .builtin b, _ => return b.name ++ "()"
  | .errorClass name, _ => return name ++ "()"
  | .lent name _, _ => return name ++ "()"
  | .method self name, _ => return (← typeNameOf self) ++ "." ++ name ++ "()"
  | _, _ => return written (← get) v

/-- The elements of a value that stands for several items. -/
def spread (v : Value) : Eval (List Value) := do
  match ← walkOf? v with
  | some w => w.drain
  | none => typeFail "Value after * must be an iterable, not " v ""

/-- The elements of a value that stands for all arguments by position. -/
def spreadArguments (function v : Value) : Eval (List Value) := do
  match ← walkOf? v with
  | some w => w.drain
  | none =>
    typeFail ((← functionText function) ++ " argument after * must be an iterable, not ") v ""

/-- Named arguments with more of them, none of which may come twice. -/
def withKeywords (function : Value) (sofar more : List (String × Value)) :
    Eval (List (String × Value)) :=
  more.foldlM (fun all (k, v) => do
    if all.any (·.1 == k) then
      fail "TypeError"
        ((← functionText function) ++ " got multiple values for keyword argument '" ++ k ++ "'")
    else return all ++ [(k, v)]) sofar

/-- The entries of a value that stands for several named arguments. -/
def spreadKeywords (function v : Value) : Eval (List (String × Value)) := do
  match ← entriesOf? v with
  | some entries => entries.mapM fun (k, w) => do
    match text? k with
    | some s => return (s, w)
    | none => fail "TypeError" "keywords must be strings"
  | none =>
    typeFail ((← functionText function) ++ " argument after ** must be a mapping, not ") v ""

/-- Add a value to a set. -/
def addToSet (id : Nat) (v : Value) : Eval Unit := do
  checkKey depthLimit v
  let m ← get
  setCell id fun
    | .set items => if items.any (equal m v) then .set items else .set (items.push v)
    | c => c

/-- Add a value to a list. -/
def addToList (id : Nat) (v : Value) : Eval Unit :=
  setCell id fun
    | .list items => .list (items.push v)
    | c => c

/-- Put entries into a mapping. -/
def setEntries (id : Nat) (pairs : List (Value × Value)) : Eval Unit :=
  pairs.forM fun (k, v) => setEntry id k v

/-- Put the entries of another mapping into a mapping. -/
def addEntries (id : Nat) (v : Value) : Eval Unit := do
  match ← entriesOf? v with
  | some entries => setEntries id entries
  | none => typeFail "'" v "' object is not a mapping"

/-- A new frame for a comprehension. -/
def comprehensionFrame (clauses : List Clause) (f : Nat) (kind : String) : Eval Nat := do
  let around ← frame f
  newFrame {
    locals := (namesOfClauses clauses).own
    parent := some f
    program := around.program
    path := around.path ++ ".<locals>.<" ++ kind ++ ">" }

/-- The name of a function with those around it. -/
def pathIn (name : String) (f : Nat) : Eval String := do
  let around ← frame f
  return if around.path.isEmpty then name else around.path ++ ".<locals>." ++ name

/-- A new function. -/
def newFunction (name : String) (params : List Param) (defaults : List (String × Value))
    (body : Body) (isAsync : Bool) (f : Nat) : Eval Value := do
  let names := namesOfFunction params body
  new (.closure {
    name, path := ← pathIn name f, params, defaults, body, isAsync
    locals := names.own
    globals := names.globals
    frame := f })

/-- Whether a target takes the elements that are left. -/
def isStarred : Expr → Bool
  | .starred _ _ => true
  | _ => false

/-- How many targets there are before and, if one takes what is left, behind it. -/
def shapeOf (targets : List Expr) : Nat × Option Nat :=
  match targets.findIdx? isStarred with
  | some i => (i, some (targets.length - i - 1))
  | none => (targets.length, none)

/-! ## §3. Expressions. -/

mutual

/-- The value of an expression. -/
def expr (p : Powers) (f : Nat) : Expr → Eval Value
  | .boolOp op values => boolOp p f op values
  | .named target value => do
    let v ← expr p f value
    bindName target v f
    return v
  | .binary op left right => do
    let v ← expr p f left
    let w ← expr p f right
    binary op false v w
  | .unary op operand => do unary op (← expr p f operand)
  | .lambda params body => do
    let defaults ← paramDefaults p f params
    newFunction "<lambda>" params defaults (.expr body) false f
  | .ifElse test body orElse => do
    let v ← expr p f test
    if truthy (← get) v then expr p f body else expr p f orElse
  | .dict es => do
    let id ← alloc (.dict #[])
    entries p f id [] es
    return .ref id
  | .set items => do
    let vs ← elementsOf p f items
    let id ← alloc (.set #[])
    vs.forM (addToSet id)
    return .ref id
  | .comp kind item cs _ => do
    let first ← firstSource p f cs
    match kind with
    | .list =>
      let g ← comprehensionFrame cs f "listcomp"
      let id ← alloc (.list #[])
      clauses p g (do addToList id (← expr p g item)) (some first) cs
      return .ref id
    | .set =>
      let g ← comprehensionFrame cs f "setcomp"
      let id ← alloc (.set #[])
      clauses p g (do addToSet id (← expr p g item)) (some first) cs
      return .ref id
    | .generator => unsupported "a generator"
  | .dictComp key value cs _ => do
    let first ← firstSource p f cs
    let g ← comprehensionFrame cs f "dictcomp"
    let id ← alloc (.dict #[])
    clauses p g (do
      let k ← expr p g key
      let v ← expr p g value
      setEntry id k v) (some first) cs
    return .ref id
  | .await value _ => do p.wait (← expr p f value)
  | .yield _ _ | .yieldFrom _ _ => unsupported "handing out values"
  | .compare left rest => do comparisons p f (← expr p f left) rest
  | .call func [.starred e _] ks => do
    let function ← expr p f func
    let v ← expr p f e
    let named ← keywords p f function [] ks
    p.call function (← spreadArguments function v) named
  | .call func args ks => do
    let function ← expr p f func
    let vs ← elementsOf p f args
    let named ← keywords p f function [] ks
    p.call function vs named
  | .joined pieces => do return .str (String.join (← texts p f pieces))
  | .formatted value conversion spec => do
    let v ← expr p f value
    return .str (← formattedText v conversion (← specText p f spec))
  | .constant c => literal c
  | .attribute value name => do getMember (← expr p f value) name
  | .subscript value (.slice lower upper step) => do
    let v ← expr p f value
    let lower ← option p f lower
    let upper ← option p f upper
    slice v ⟨lower, upper, ← option p f step⟩
  | .subscript value index => do
    let v ← expr p f value
    item v (← expr p f index)
  | .starred _ _ => unsupported "a star"
  | .name id _ => readName id f
  | .list items => do newList (← elementsOf p f items)
  | .tuple items => do return .tuple (← elementsOf p f items)
  | .slice _ _ _ => unsupported "a range of positions"

/-- The value of an expression, or nothing if there is none. -/
def option (p : Powers) (f : Nat) : Option Expr → Eval Value
  | none => return .none
  | some e => expr p f e

/-- The first value that decides, or the last one. -/
def boolOp (p : Powers) (f : Nat) (op : BoolOp) : List Expr → Eval Value
  | [] => return .none
  | e :: rest => do
    let v ← expr p f e
    if rest.isEmpty || truthy (← get) v != (op == .conj) then return v
    else boolOp p f op rest

/-- The outcome of a chain of comparisons, which stops where one fails. -/
def comparisons (p : Powers) (f : Nat) (v : Value) : List Comparison → Eval Value
  | [] => return .bool true
  | .mk op right :: rest => do
    let w ← expr p f right
    if ← compareValues op v w then comparisons p f w rest else return .bool false

/-- The values of the items of a display, or of arguments by position. -/
def elementsOf (p : Powers) (f : Nat) : List Expr → Eval (List Value)
  | [] => return []
  | .starred e _ :: rest => do
    let vs ← spread (← expr p f e)
    return vs ++ (← elementsOf p f rest)
  | e :: rest => do
    let v ← expr p f e
    return v :: (← elementsOf p f rest)

/-- The values of the named arguments of a call, behind those so far. -/
def keywords (p : Powers) (f : Nat) (function : Value) (sofar : List (String × Value)) :
    List Keyword → Eval (List (String × Value))
  | [] => return sofar
  | .mk (some name) value _ :: rest => do
    let v ← expr p f value
    keywords p f function (← withKeywords function sofar [(name, v)]) rest
  | .mk none value _ :: rest => do
    let more ← spreadKeywords function (← expr p f value)
    keywords p f function (← withKeywords function sofar more) rest

/-- Put the entries of a display into a mapping; those that are evaluated wait for the whole run of
entries with keys (the last one first). -/
def entries (p : Powers) (f : Nat) (id : Nat) (waiting : List (Value × Value)) :
    List Entry → Eval Unit
  | [] => setEntries id waiting.reverse
  | .item key value :: rest => do
    let k ← expr p f key
    let v ← expr p f value
    entries p f id ((k, v) :: waiting) rest
  | .spread value :: rest => do
    setEntries id waiting.reverse
    addEntries id (← expr p f value)
    entries p f id [] rest

/-- The pieces of a text with values in it. -/
def texts (p : Powers) (f : Nat) : List Expr → Eval (List String)
  | [] => return []
  | e :: rest => do
    let s := (text? (← expr p f e)).getD ""
    return s :: (← texts p f rest)

/-- How a value inside of a text is to be formatted. -/
def specText (p : Powers) (f : Nat) : Option (List Expr) → Eval String
  | none => return ""
  | some pieces => do return String.join (← texts p f pieces)

/-- The default values of parameters. -/
def paramDefaults (p : Powers) (f : Nat) : List Param → Eval (List (String × Value))
  | [] => return []
  | .mk _ _ _ none :: rest => paramDefaults p f rest
  | .mk _ name _ (some e) :: rest => do
    let v ← expr p f e
    return (name, v) :: (← paramDefaults p f rest)

/-- The value of the first source of a comprehension. -/
def firstSource (p : Powers) (f : Nat) : List Clause → Eval Value
  | [] => return .none
  | .mk _ _ iter _ :: _ => expr p f iter

/-- Run the clauses of a comprehension around what each of their rounds does. -/
def clauses (p : Powers) (f : Nat) (round : Eval Unit) (given : Option Value) :
    List Clause → Eval Unit
  | [] => round
  | .mk isAsync target iter conditions :: rest => do
    let source ← match given with
      | some v => pure v
      | none => expr p f iter
    let body (v : Value) : Eval Unit := do
      assign p f v target
      if ← holdAll p f conditions then clauses p f round none rest
    if isAsync then forEach nextOfStream body stepLimit (← streamOf source)
    else forEach Walk.next body stepLimit (← walkOf source)

/-- Whether all conditions hold. -/
def holdAll (p : Powers) (f : Nat) : List Expr → Eval Bool
  | [] => return true
  | e :: rest => do
    let v ← expr p f e
    if truthy (← get) v then holdAll p f rest else return false

/-- Give a value to a target. -/
def assign (p : Powers) (f : Nat) (v : Value) : Expr → Eval Unit
  | .name id _ => bindName id v f
  | .tuple targets | .list targets => do
    let (before, behind) := shapeOf targets
    assignEach p f (← unpack v before behind) targets
  | .starred target _ => assign p f v target
  | .attribute value name => do setMember (← expr p f value) name v
  | .subscript value (.slice lower upper step) => do
    let w ← expr p f value
    let lower ← option p f lower
    let upper ← option p f upper
    setSlice w ⟨lower, upper, ← option p f step⟩ v
  | .subscript value index => do
    let w ← expr p f value
    setItem w (← expr p f index) v
  | _ => unsupported "this target"

/-- Give values to targets side by side. -/
def assignEach (p : Powers) (f : Nat) (vs : List Value) : List Expr → Eval Unit
  | [] => return ()
  | target :: rest => do
    assign p f (vs.headD .none) target
    assignEach p f vs.tail rest

end

end TagTemplate.Machine
