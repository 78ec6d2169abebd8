/-
  TagTemplate.Machine.Value
  ────────────────────────────────
  **VALUES AND THE MACHINE THAT HOLDS THEM.**

  Scripts compute with values.  What can change, or has an identity, lives in
  a cell of the heap and the value is a reference to it; everything else is
  the value itself.  Variables live in frames, so that functions defined
  inside one another share them.

  `Eval` is a computation on the machine: it ends with a value or with a
  signal, and what it changed stays changed either way.
-/
import TagTemplate.Context
import TagTemplate.Environment
import TagTemplate.Script.Tree

namespace TagTemplate

open Script

namespace Machine

/-! ## §1. Values. -/

/-- A function that every script has. -/
inductive Builtin where
  /-- The number of elements. -/
  | len
  /-- The plain form. -/
  | str
  /-- The written form. -/
  | repr
  /-- A whole number. -/
  | int
  /-- A truth value. -/
  | bool
  /-- The sum of the elements. -/
  | sum
  /-- The elements in ascending order. -/
  | sorted
  /-- The elements with their positions. -/
  | enumerate
  /-- A list of the elements. -/
  | list
  /-- A tuple of the elements. -/
  | tuple
  /-- A mapping. -/
  | dict
  /-- Numbers in a row. -/
  | range
  /-- The least element. -/
  | min
  /-- The greatest element. -/
  | max
  /-- Whether some element counts as true. -/
  | any
  /-- Whether all elements count as true. -/
  | all
  /-- The distance from zero. -/
  | abs
  /-- Elements of several values side by side. -/
  | zip
  /-- The elements from the last to the first. -/
  | reversed
  deriving DecidableEq, Repr

/-- The name of a built-in function. -/
def Builtin.name : Builtin → String
  | .len => "len"
  | .str => "str"
  | .repr => "repr"
  | .int => "int"
  | .bool => "bool"
  | .sum => "sum"
  | .sorted => "sorted"
  | .enumerate => "enumerate"
  | .list => "list"
  | .tuple => "tuple"
  | .dict => "dict"
  | .range => "range"
  | .min => "min"
  | .max => "max"
  | .any => "any"
  | .all => "all"
  | .abs => "abs"
  | .zip => "zip"
  | .reversed => "reversed"

/-- All built-in functions. -/
def Builtin.every : List Builtin :=
  [.len, .str, .repr, .int, .bool, .sum, .sorted, .enumerate, .list, .tuple, .dict, .range, .min,
    .max, .any, .all, .abs, .zip, .reversed]

/-- The built-in function of a given name. -/
def Builtin.ofName? (name : String) : Option Builtin := Builtin.every.find? (·.name == name)

/-- Whether a built-in function is a type. -/
def Builtin.isType : Builtin → Bool
  | .str | .int | .bool | .list | .tuple | .dict | .enumerate | .range | .zip | .reversed => true
  | _ => false

/-- A value. -/
inductive Value where
  /-- The absent value. -/
  | none
  /-- A truth value. -/
  | bool (b : Bool)
  /-- A whole number. -/
  | int (i : Int)
  /-- A text. -/
  | str (s : String)
  /-- A text that is safe to emit without escaping. -/
  | markup (s : String)
  /-- Three dots. -/
  | ellipsis
  /-- A tuple. -/
  | tuple (items : List Value)
  /-- What lives in a cell. -/
  | ref (id : Nat)
  /-- A built-in function. -/
  | builtin (b : Builtin)
  /-- A class of errors, by its name. -/
  | errorClass (name : String)
  /-- A method of a value. -/
  | method (self : Value) (name : String)
  /-- A primitive for output. -/
  | primitive (p : Primitive)
  /-- A function lent from outside, with the values it was set up with. -/
  | lent (name : String) (setup : List (String × Datum))
  /-- An environment. -/
  | environment (id : Nat)
  deriving Inhabited

/-! ## §2. Cells. -/

/-- What an object is. -/
inductive ObjectKind where
  /-- An object from outside. -/
  | plain
  /-- The state of a render. -/
  | state
  /-- The options of a template, which do not change. -/
  | options
  deriving DecidableEq, Repr

/-- Which side of a mapping is looked at. -/
inductive Side where
  /-- The keys. -/
  | keys
  /-- The values. -/
  | values
  /-- Both. -/
  | items
  deriving DecidableEq, Repr

/-- What a function does. -/
inductive Body where
  /-- It runs statements. -/
  | block (lines : List Line)
  /-- It has the value of an expression. -/
  | expr (e : Expr)

/-- A function with the variables it was defined among. -/
structure Closure where
  /-- Its name. -/
  name : String
  /-- Its name with the names of the functions around it. -/
  path : String
  /-- Its parameters. -/
  params : List Param
  /-- The default values, by parameter. -/
  defaults : List (String × Value)
  /-- What it does. -/
  body : Body
  /-- The names it binds. -/
  locals : List String
  /-- The names it declares to be global. -/
  globals : List String
  /-- The frame it was defined in. -/
  frame : Nat
  /-- It has to be waited for. -/
  isAsync : Bool

/-- An error as a value. -/
structure Raised where
  /-- The name of its class. -/
  className : String
  /-- What it was made with. -/
  args : List Value := []
  /-- Its text, where that is not made from `args`. -/
  text : Option String := none
  /-- The name that is undefined. -/
  name : Option Value := none
  /-- What led to it. -/
  cause : Option Nat := none
  /-- The error of the library that it stands for. -/
  report : Option TemplateError := none

/-- A walk through elements. -/
inductive Walk where
  /-- The elements that are left. -/
  | items (rest : List Value)
  /-- A list from a position on; it may change meanwhile. -/
  | list (id : Nat) (next : Nat)
  /-- A mapping from a position on, which must keep its size. -/
  | dict (id : Nat) (side : Side) (next : Nat) (size : Nat)
  /-- A walk with numbers. -/
  | numbered (inner : Walk) (next : Int)
  /-- A walk that somebody else may continue too. -/
  | shared (id : Nat)

/-- What waiting runs. -/
inductive Task where
  /-- A call. -/
  | call (function : Value) (args : List Value) (keywords : List (String × Value))
  /-- The body of a function whose variables are set up. -/
  | body (closure : Closure) (frame : Nat)
  /-- Nothing but a value. -/
  | value (v : Value)
  /-- A render of a template by its name, with its data and the options of who asks. -/
  | render (environment : Nat) (template data options : Value)

/-- What a cell of the heap holds. -/
inductive Cell where
  /-- A list. -/
  | list (items : Array Value)
  /-- A mapping, in insertion order. -/
  | dict (entries : Array (Value × Value))
  /-- A set, in insertion order. -/
  | set (items : Array Value)
  /-- Numbers from one on, up to another, in steps. -/
  | range (start stop step : Int)
  /-- An object with attributes. -/
  | object (kind : ObjectKind) (fields : List (String × Value))
  /-- An object that brings its own markup. -/
  | html (content : Value)
  /-- A function. -/
  | closure (c : Closure)
  /-- An error. -/
  | error (e : Raised)
  /-- A walk, and the name of its type. -/
  | walk (typeName : String) (w : Walk)
  /-- One side of a mapping. -/
  | view (id : Nat) (side : Side)
  /-- What can be waited for once. -/
  | coroutine (task : Option Task)
  /-- A source of values that is waited for. -/
  | stream (items : List Value)
  deriving Inhabited

/-- The numbers from one on, up to another, in steps that are not zero. -/
def rangeNumbers (start stop step : Int) : List Int :=
  let count := if step < 0 then (start - stop - step - 1).fdiv (-step)
    else (stop - start + step - 1).fdiv step
  (List.range count.toNat).map fun (i : Nat) => start + step * (i : Int)

/-! ## §3. The machine. -/

/-- The variables of a function, a comprehension or a whole program. -/
structure Frame where
  /-- The variables that have values. -/
  vars : List (String × Value) := []
  /-- The names that belong to this frame; a program owns all names. -/
  locals : List String := []
  /-- The frame of the enclosing function. -/
  parent : Option Nat := none
  /-- The names declared global. -/
  globals : List String := []
  /-- The frame of the program. -/
  program : Nat
  /-- The name of the function with those around it. -/
  path : String := ""
  deriving Inhabited

/-- An environment with the values of its global names. -/
structure Shared where
  /-- The environment. -/
  environment : Environment
  /-- The global names. -/
  globals : List (String × Value) := []
  /-- What filters, where that is no primitive. -/
  filter : Option Value := none

/-- What filters in an environment: a function that it was given, else the primitive of its
blueprint. -/
def Shared.filterValue (s : Shared) : Value :=
  s.filter.getD (.primitive s.environment.blueprint.filter)

end Machine

/-- Everything that a script can change or see. -/
structure Machine where
  /-- The cells. -/
  heap : Array Machine.Cell := #[]
  /-- The frames. -/
  frames : Array Machine.Frame := #[]
  /-- The environments. -/
  environments : Array Machine.Shared := #[]
  /-- The current render. -/
  context : Option RenderContext := none
  /-- What has been logged. -/
  journal : Journal := {}
  /-- The contexts that observers saw. -/
  observed : Array (Option RenderContext) := #[]
  /-- The errors that are being handled, innermost first. -/
  handled : List Nat := []
  /-- What loaders read from. -/
  surroundings : Surroundings := {}
  /-- Whether reports are coloured. -/
  color : Bool := false

namespace Machine

/-! ## §4. Computations. -/

/-- Why a computation does not end with a value. -/
inductive Signal where
  /-- An error, by its cell. -/
  | raised (id : Nat)
  /-- Something that scripts cannot do here. -/
  | unsupported (what : String)
  deriving Inhabited

/-- A computation on the machine. -/
abbrev Eval := ExceptT Signal (StateM Machine)

/-- Put something into a new cell. -/
def alloc (c : Cell) : Eval Nat :=
  modifyGet fun m => (m.heap.size, { m with heap := m.heap.push c })

/-- A value for something in a new cell. -/
def new (c : Cell) : Eval Value := return .ref (← alloc c)

/-- A new list. -/
def newList (items : List Value) : Eval Value := new (.list items.toArray)

/-- A new mapping. -/
def newDict (entries : List (Value × Value)) : Eval Value := new (.dict entries.toArray)

/-- What a cell holds. -/
def cell (id : Nat) : Eval Cell := return (← get).heap.getD id default

/-- Change what a cell holds. -/
def setCell (id : Nat) (f : Cell → Cell) : Eval Unit :=
  modify fun m => { m with heap := m.heap.modify id f }

/-- A frame. -/
def frame (id : Nat) : Eval Frame := return (← get).frames.getD id default

/-- Change a frame. -/
def setFrame (id : Nat) (f : Frame → Frame) : Eval Unit :=
  modify fun m => { m with frames := m.frames.modify id f }

/-- A new frame. -/
def newFrame (f : Frame) : Eval Nat :=
  modifyGet fun m => (m.frames.size, { m with frames := m.frames.push f })

/-- What ends a computation that scripts cannot do here. -/
def unsupported (what : String) : Eval α := throw (.unsupported what)

/-- Raise an error. -/
def raise (e : Raised) : Eval α := do throw (.raised (← alloc (.error e)))

/-- Raise an error of a class with a text. -/
def fail (className text : String) : Eval α := raise { className, args := [.str text] }

/-- Raise the error of a fault. -/
def failWith (f : Fault) : Eval α := do
  match f with
  | .template e =>
    raise { className := e.className, args := [.str (e.message (← get).color)], report := some e }
  | .script className text => raise { className, args := [.str text], text := some text }

/-- The value of a result, or its fault. -/
def ofExcept (r : Except Fault α) : Eval α :=
  match r with
  | .ok a => pure a
  | .error f => failWith f

/-- Run a computation that keeps a journal. -/
def ofTraced (t : Traced α) : Eval α := do
  let (r, journal) ← modifyGet fun m =>
    let (r, j) := t.run m.journal
    ((r, j), { m with journal := {} })
  modify fun m => { m with journal }
  ofExcept r

/-- Leave a debug record. -/
def debugRecord (component : Component) (text : String) : Eval Unit :=
  ofTraced (TagTemplate.debugRecord component text)

/-- The outcome of a computation, which does not end this one. -/
def outcome (e : Eval α) : Eval (Except Signal α) := fun m =>
  let (r, m) := e.run m
  (.ok r, m)

/-! ## §5. Data from outside. -/

mutual

/-- A datum as a value; whatever can change gets a cell of its own. -/
def ofDatum : Datum → Eval Value
  | .none => return .none
  | .bool b => return .bool b
  | .int i => return .int i
  | .str s => return .str s
  | .markup s => return .markup s
  | .list items => do newList (← ofData items)
  | .tuple items => do return .tuple (← ofData items)
  | .dict fields => do
    newDict ((← ofFields fields).map fun (k, v) => (.str k, v))
  | .html content => do new (.html (← ofDatum content))
  | .object fields => do new (.object .plain (← ofFields fields))
  | .function name setup => return .lent name setup
  | .trim m => return .str m.word
  | .kind k => return .str k.letter

/-- Several data as values. -/
def ofData : List Datum → Eval (List Value)
  | [] => return []
  | d :: rest => do return (← ofDatum d) :: (← ofData rest)

/-- Named data as values. -/
def ofFields : List (String × Datum) → Eval (List (String × Value))
  | [] => return []
  | (k, d) :: rest => do return (k, ← ofDatum d) :: (← ofFields rest)

end

end Machine

end TagTemplate
