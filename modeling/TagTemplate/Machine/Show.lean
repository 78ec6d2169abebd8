/-
  TagTemplate.Machine.Show
  ────────────────────────────────
  **VALUES AS TEXT, AND WHAT THEY COUNT AS.**

  A value has a plain form (`shown`) and a written form (`written`), a type
  (`typeName`), and counts as true or not (`truthy`).  Two values are equal if
  they have the same content (`equal`), except for those that are known by
  their cell alone.  All of these only look at the machine.

  A value may contain itself.  Its written form stops where it comes to a
  cell that it is already inside of; comparisons stop at `depthLimit`.
-/
import TagTemplate.Machine.ErrorClass
import TagTemplate.Machine.Value

namespace TagTemplate.Machine

open Text

/-- How deeply values are looked into. -/
def depthLimit : Nat := 1000

/-! ## §1. Types. -/

/-- The name of the type of an object. -/
def ObjectKind.typeName : ObjectKind → String
  | .plain => "Obj"
  | .state => "RenderState"
  | .options => "RenderOptions"

/-- The name of the type of what a cell holds. -/
def Cell.typeName : Cell → String
  | .list _ => "list"
  | .dict _ => "dict"
  | .set _ => "set"
  | .range _ _ _ => "range"
  | .object kind _ => kind.typeName
  | .html _ => "Html"
  | .closure _ => "function"
  | .error e => e.className
  | .walk name _ => name
  | .view _ .keys => "dict_keys"
  | .view _ .values => "dict_values"
  | .view _ .items => "dict_items"
  | .coroutine _ => "coroutine"
  | .stream _ => "async_generator"

/-- The name of the type of a value. -/
def typeName (m : Machine) : Value → String
  | .none => "NoneType"
  | .bool _ => "bool"
  | .int _ => "int"
  | .str _ => "str"
  | .markup _ => "Markup"
  | .ellipsis => "ellipsis"
  | .tuple _ => "tuple"
  | .ref id => (m.heap.getD id default).typeName
  | .builtin b => if b.isType then "type" else "builtin_function_or_method"
  | .errorClass _ => "type"
  | .method (.environment _) _ => "method"
  | .method _ _ => "builtin_function_or_method"
  | .primitive .plain => "type"
  | .primitive .length | .primitive .written => "builtin_function_or_method"
  | .primitive _ | .lent _ _ => "function"
  | .environment _ => "Environment"

/-! ## §2. Text. -/

/-- Pieces between brackets; a lone piece of a tuple keeps its comma. -/
def bracketed (left right : String) (pieces : List String) : String :=
  left ++ ", ".intercalate pieces ++ right

/-- The written form of a value inside some cells; `fuel` bounds the depth. -/
def writtenIn (m : Machine) : Nat → List Nat → Value → String
  | 0, _, _ => "..."
  | fuel + 1, around, v =>
    match v with
    | .none => "None"
    | .bool b => Datum.boolText b
    | .int i => toString i
    | .str s | .markup s => quoted s
    | .ellipsis => "Ellipsis"
    | .tuple items => Datum.tupleText (items.map (writtenIn m fuel around))
    | .builtin b =>
      if b.isType then "<class '" ++ b.name ++ "'>" else "<built-in function " ++ b.name ++ ">"
    | .errorClass name => "<class '" ++ name ++ "'>"
    | .method self name =>
      "<built-in method " ++ name ++ " of " ++ typeName m self ++ " object>"
    | .primitive _ => "<function>"
    | .lent name _ => "<function " ++ name ++ ">"
    | .environment id => ((m.environments[id]?).map (·.environment.written)).getD ""
    | .ref id =>
      let inner := writtenIn m fuel (id :: around)
      let again := around.contains id
      match m.heap.getD id default with
      | .list items => if again then "[...]" else bracketed "[" "]" (items.toList.map inner)
      | .dict entries =>
        if again then "\x7b...\x7d"
        else
          bracketed "\x7b" "\x7d"
            (entries.toList.map fun (k, w) => inner k ++ ": " ++ inner w)
      | .set items =>
        if items.isEmpty then "set()" else bracketed "\x7b" "\x7d" (items.toList.map inner)
      | .range start stop step =>
        "range(" ++ toString start ++ ", " ++ toString stop
          ++ (if step == 1 then "" else ", " ++ toString step) ++ ")"
      | .error e =>
        match e.args with
        | [a] => e.className ++ "(" ++ inner a ++ ")"
        | args => e.className ++ Datum.tupleText (args.map inner)
      | .view source side =>
        let entries := match m.heap.getD source default with
          | .dict entries => entries.toList
          | _ => []
        let pieces := entries.map fun (k, w) =>
          match side with
          | .keys => inner k
          | .values => inner w
          | .items => Datum.tupleText [inner k, inner w]
        (m.heap.getD id default).typeName ++ "(" ++ bracketed "[" "]" pieces ++ ")"
      | .closure c => "<function " ++ c.path ++ ">"
      | .object .options fields =>
        bracketed "RenderOptions(" ")" (fields.map fun (k, w) => k ++ "=" ++ inner w)
      | c => "<" ++ c.typeName ++ " object>"

/-- The written form of a value. -/
def written (m : Machine) (v : Value) : String := writtenIn m depthLimit [] v

/-- The text of an error; an error made from another one has its text. -/
def errorText (m : Machine) : Nat → Raised → String
  | 0, _ => ""
  | fuel + 1, e =>
    match e.text with
    | some text => text
    | none =>
      if e.className == "SilentError" then ""
      else
        match e.args with
        | [] => ""
        | [a] =>
          if e.className == "KeyError" then written m a
          else
            match a with
            | .str s | .markup s => s
            | .ref id =>
              match m.heap.getD id default with
              | .error inner => errorText m fuel inner
              | _ => written m a
            | _ => written m a
        | args => written m (.tuple args)

/-- The text of an error. -/
def Raised.shown (m : Machine) (e : Raised) : String := errorText m depthLimit e

/-- The plain form of a value. -/
def shown (m : Machine) (v : Value) : String :=
  match v with
  | .str s | .markup s => s
  | .ref id =>
    match m.heap.getD id default with
    | .error e => e.shown m
    | _ => written m v
  | _ => written m v

/-! ## §3. Truth. -/

/-- Whether a value counts as true: what is absent, zero or empty does not. -/
def truthy (m : Machine) : Value → Bool
  | .none => false
  | .bool b => b
  | .int i => i != 0
  | .str s | .markup s => !s.isEmpty
  | .tuple items => !items.isEmpty
  | .ref id =>
    match m.heap.getD id default with
    | .list items | .set items => !items.isEmpty
    | .dict entries => !entries.isEmpty
    | .range start stop step => !(rangeNumbers start stop step).isEmpty
    | .view source _ =>
      match m.heap.getD source default with
      | .dict entries => !entries.isEmpty
      | _ => true
    | _ => true
  | _ => true

/-! ## §4. Sameness and equality. -/

/-- The number that a value stands for. -/
def number? : Value → Option Int
  | .bool b => some (if b then 1 else 0)
  | .int i => some i
  | _ => none

/-- The text that a value is. -/
def text? : Value → Option String
  | .str s | .markup s => some s
  | _ => none

/-- Whether two values are one and the same. -/
def same : Nat → Value → Value → Bool
  | 0, _, _ => false
  | fuel + 1, v, w =>
    match v, w with
    | .none, .none => true
    | .bool a, .bool b => a == b
    | .int a, .int b => a == b
    | .str a, .str b | .markup a, .markup b => a == b
    | .ellipsis, .ellipsis => true
    | .tuple as, .tuple bs =>
      as.length == bs.length && (as.zip bs).all fun (a, b) => same fuel a b
    | .ref a, .ref b => a == b
    | .builtin a, .builtin b => a == b
    | .errorClass a, .errorClass b => a == b
    | .method v a, .method w b => a == b && same fuel v w
    | .primitive a, .primitive b => a == b
    | .lent a _, .lent b _ => a == b
    | .environment a, .environment b => a == b
    | _, _ => false

/-- Whether two values are equal; `fuel` bounds the depth. -/
def equalIn (m : Machine) : Nat → Value → Value → Bool
  | 0, _, _ => false
  | fuel + 1, v, w =>
    let all (as bs : List Value) : Bool :=
      as.length == bs.length && (as.zip bs).all fun (a, b) => equalIn m fuel a b
    match number? v, number? w, text? v, text? w with
    | some a, some b, _, _ => a == b
    | _, _, some a, some b => a == b
    | _, _, _, _ =>
      match v, w with
      | .tuple as, .tuple bs => all as bs
      | .ref a, .ref b =>
        if a == b then true
        else
          match m.heap.getD a default, m.heap.getD b default with
          | .list as, .list bs => all as.toList bs.toList
          | .set as, .set bs =>
            as.size == bs.size && as.all fun x => bs.any (equalIn m fuel x)
          | .dict as, .dict bs =>
            as.size == bs.size && as.all fun (k, x) =>
              match bs.find? fun (l, _) => equalIn m fuel k l with
              | some (_, y) => equalIn m fuel x y
              | none => false
          | _, _ => false
      | _, _ => same depthLimit v w

/-- Whether two values are equal. -/
def equal (m : Machine) (v w : Value) : Bool := equalIn m depthLimit v w

end TagTemplate.Machine
