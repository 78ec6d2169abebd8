/-
  TagTemplate.Machine.Method
  ────────────────────────────────
  **METHODS.**

  What the methods of texts, lists, tuples and mappings do.
-/
import TagTemplate.Machine.Member
import TagTemplate.Text.Upper

namespace TagTemplate.Machine

open Text

/-- What a script can ask the machine to do from anywhere. -/
structure Powers where
  /-- Call a value. -/
  call : Value → List Value → List (String × Value) → Eval Value
  /-- Wait for a value. -/
  wait : Value → Eval Value

instance : Inhabited Powers :=
  ⟨⟨fun _ _ _ => fail "RecursionError" "maximum recursion depth exceeded",
    fun _ => fail "RecursionError" "maximum recursion depth exceeded"⟩⟩

/-! ## §1. Arguments. -/

/-- Raise the error of a function that takes no arguments. -/
def noArguments (name : String) (count : Nat) : Eval α :=
  fail "TypeError" (name ++ "() takes no arguments (" ++ toString count ++ " given)")

/-- Raise the error of a function that takes one argument. -/
def oneArgument (name : String) (count : Nat) : Eval α :=
  fail "TypeError" (name ++ "() takes exactly one argument (" ++ toString count ++ " given)")

/-- Raise the error of a function with too few or too many arguments. -/
def expected (name : String) (least most count : Nat) : Eval α :=
  let plural (n : Nat) := if n == 1 then " argument" else " arguments"
  if count < least then
    fail "TypeError"
      (name ++ " expected at least " ++ toString least ++ plural least ++ ", got "
        ++ toString count)
  else
    fail "TypeError"
      (name ++ " expected at most " ++ toString most ++ plural most ++ ", got " ++ toString count)

/-- The text that an argument has to be. -/
def textArgument (before : String) (v : Value) (after : String) : Eval String :=
  match text? v with
  | some s => return s
  | none => typeFail before v after

/-! ## §2. Texts. -/

/-- Texts with another between them; every element has to be a text. -/
def joinTexts (sep : String) (items : List Value) : Eval Value := do
  let pieces ← items.zipIdx.mapM fun (v, i) => do
    match text? v with
    | some s => return s
    | none =>
      typeFail ("sequence item " ++ toString i ++ ": expected str instance, ") v " found"
  return .str (sep.intercalate pieces)

/-- The texts between blanks. -/
def words (s : List Char) : List String :=
  let (all, last) := s.foldl (fun (done, word) c =>
    if isBlank c then (if word.isEmpty then done else word.reverse :: done, []) else (done, c :: word))
    (([] : List (List Char)), ([] : List Char))
  ((if last.isEmpty then all else last.reverse :: all).reverse).map String.ofList

/-- The texts between occurrences of another; `fuel` bounds their number. -/
def splitAtText (sep : List Char) : Nat → List Char → List String
  | 0, s => [String.ofList s]
  | fuel + 1, s =>
    match indexOf? sep s with
    | some i => String.ofList (s.take i) :: splitAtText sep fuel (s.drop (i + sep.length))
    | none => [String.ofList s]

/-- How often a text occurs in another; `fuel` bounds the number. -/
def occurrences (needle : List Char) : Nat → List Char → Nat
  | 0, _ => 0
  | fuel + 1, s =>
    match indexOf? needle s with
    | some i => 1 + occurrences needle fuel (s.drop (i + max 1 needle.length))
    | none => 0

/-- A method of a text. -/
def textMethod (s name : String) (args : List Value) : Eval Value := do
  let cs := s.toList
  let both (f : List Char → List Char) : Value := .str (String.ofList (f cs))
  match name, args with
  | "upper", [] => return .str (upper s)
  | "upper", as => noArguments "str.upper" as.length
  | "__html__", _ => return .markup s
  | "join", [v] =>
    match ← walkOf? v with
    | some w => joinTexts s (← w.drain)
    | none => fail "TypeError" "can only join an iterable"
  | "join", as => oneArgument "str.join" as.length
  | "strip", [] => return both strip
  | "lstrip", [] => return both stripStart
  | "rstrip", [] => return both stripEnd
  | "split", [] | "split", [.none] => newList ((words cs).map .str)
  | "split", [v] =>
    let sep ← textArgument "must be str or None, not " v ""
    if sep.isEmpty then fail "ValueError" "empty separator"
    else newList ((splitAtText sep.toList cs.length cs).map .str)
  | "splitlines", [] => newList ((lines s).map .str)
  | "replace", [old, new] =>
    let old ← textArgument "replace() argument 1 must be str, not " old ""
    let new ← textArgument "replace() argument 2 must be str, not " new ""
    return .str (replaced s old new)
  | "startswith", [v] =>
    let start ← textArgument
      "startswith first arg must be str or a tuple of str, not " v ""
    return .bool (startsWith start.toList cs)
  | "endswith", [v] =>
    let stop ← textArgument "endswith first arg must be str or a tuple of str, not " v ""
    return .bool (startsWith stop.toList.reverse cs.reverse)
  | "find", [v] =>
    let needle ← textArgument "must be str, not " v ""
    return .int (match indexOf? needle.toList cs with
      | some i => i
      | none => -1)
  | "index", [v] =>
    let needle ← textArgument "must be str, not " v ""
    match indexOf? needle.toList cs with
    | some i => return .int i
    | none => fail "ValueError" "substring not found"
  | "count", [v] =>
    let needle ← textArgument "must be str, not " v ""
    return .int
      (if needle.isEmpty then cs.length + 1 else occurrences needle.toList cs.length cs)
  | "isspace", [] => return .bool (isBlankText s)
  | _, _ => unsupported ("str." ++ name)

/-! ## §3. Lists and tuples. -/

/-- The position of an element. -/
def positionOf (items : List Value) (v : Value) : Eval (Option Nat) := do
  let m ← get
  return items.findIdx? (equal m v)

/-- How many elements are equal to a value. -/
def countOf (items : List Value) (v : Value) : Eval Value := do
  let m ← get
  return .int (items.countP (equal m v))

/-- The key of each element with the element. -/
def keyed (p : Powers) (key : Value) (items : List Value) : Eval (List (Value × Value)) :=
  items.mapM fun v => do
    match key with
    | .none => return (v, v)
    | _ => return (← p.call key [v] [], v)

/-- Elements in the order of their keys. -/
def sortedElements (p : Powers) (items : List Value) (keywords : List (String × Value)) :
    Eval (List Value) := do
  let down := truthy (← get) ((keywords.lookup "reverse").getD (.bool false))
  let pairs ← keyed p ((keywords.lookup "key").getD .none) items
  let tuples := pairs.map fun (k, v) => Value.tuple [k, v]
  let keyOf : Value → Value
    | .tuple [k, _] => k
    | v => v
  let sorted ← sortedBy (fun v w => ordered .lt (keyOf v) (keyOf w))
    (if down then tuples.reverse else tuples)
  let values := sorted.map fun
    | .tuple [_, v] => v
    | v => v
  return if down then values.reverse else values

/-- A method of a list. -/
def listMethod (p : Powers) (id : Nat) (name : String) (args : List Value)
    (keywords : List (String × Value)) : Eval Value := do
  let items ← match ← cell id with
    | .list items => pure items
    | _ => pure #[]
  let become (news : List Value) : Eval Unit := setCell id fun _ => .list news.toArray
  match name, args with
  | "append", [v] =>
    setCell id fun
      | .list items => .list (items.push v)
      | c => c
    return .none
  | "append", as => oneArgument "list.append" as.length
  | "extend", [v] =>
    become (items.toList ++ (← elements v))
    return .none
  | "insert", [i, v] =>
    match number? i with
    | some n =>
      let size : Int := items.size
      let place := (max 0 (min size (if n < 0 then n + size else n))).toNat
      become (items.toList.take place ++ v :: items.toList.drop place)
      return .none
    | none => typeFail "'" i "' object cannot be interpreted as an integer"
  | "pop", _ :: _ :: _ => expected "pop" 0 1 args.length
  | "pop", as =>
    let place := match as with
      | [] => some (-1)
      | v :: _ => number? v
    match place with
    | none => typeFail "'" (as.headD .none) "' object cannot be interpreted as an integer"
    | some n =>
      if items.isEmpty then fail "IndexError" "pop from empty list"
      else
        match (placeOf? items.size n).bind fun i => items[i]?.map fun v => (i, v) with
        | some (i, v) =>
          become (items.toList.eraseIdx i)
          return v
        | none => fail "IndexError" "pop index out of range"
  | "remove", [v] =>
    match ← positionOf items.toList v with
    | some i =>
      become (items.toList.eraseIdx i)
      return .none
    | none => fail "ValueError" "list.remove(x): x not in list"
  | "clear", [] =>
    become []
    return .none
  | "copy", [] => newList items.toList
  | "index", v :: _ =>
    match ← positionOf items.toList v with
    | some i => return .int i
    | none => fail "ValueError" (written (← get) v ++ " is not in list")
  | "count", [v] => countOf items.toList v
  | "reverse", [] =>
    become items.toList.reverse
    return .none
  | "sort", [] =>
    become (← sortedElements p items.toList keywords)
    return .none
  | _, _ => unsupported ("list." ++ name)

/-- A method of a tuple. -/
def tupleMethod (items : List Value) (name : String) (args : List Value) : Eval Value := do
  match name, args with
  | "index", v :: _ =>
    match ← positionOf items v with
    | some i => return .int i
    | none => fail "ValueError" "tuple.index(x): x not in tuple"
  | "count", [v] => countOf items v
  | _, _ => unsupported ("tuple." ++ name)

/-! ## §4. Mappings. -/

/-- The pairs that a mapping is updated with. -/
def pairsOf (v : Value) : Eval (List (Value × Value)) := do
  match ← entriesOf? v with
  | some entries => return entries
  | none => (← elements v).mapM fun pair => do
    match ← elements pair with
    | [k, w] => return (k, w)
    | other =>
      fail "ValueError"
        ("dictionary update sequence element has length " ++ toString other.length
          ++ "; 2 is required")

/-- A method of a mapping. -/
def dictMethod (id : Nat) (name : String) (args : List Value)
    (keywords : List (String × Value)) : Eval Value := do
  let entries ← match ← cell id with
    | .dict entries => pure entries.toList
    | _ => pure []
  match name, args with
  | "get", [k] => return (← lookup? id k).getD .none
  | "get", [k, dflt] => return (← lookup? id k).getD dflt
  | "get", as => expected "get" 1 2 as.length
  | "items", [] => new (.view id .items)
  | "keys", [] => new (.view id .keys)
  | "values", [] => new (.view id .values)
  | "items", as => noArguments "dict.items" as.length
  | "keys", as => noArguments "dict.keys" as.length
  | "values", as => noArguments "dict.values" as.length
  | "setdefault", k :: rest =>
    match ← lookup? id k with
    | some v => return v
    | none =>
      let v := rest.headD .none
      setEntry id k v
      return v
  | "pop", [] | "pop", _ :: _ :: _ :: _ => expected "pop" 1 2 args.length
  | "pop", k :: rest =>
    match ← lookup? id k, rest with
    | some v, _ =>
      removeItem (.ref id) k
      return v
    | none, dflt :: _ => return dflt
    | none, [] => raise { className := "KeyError", args := [k] }
  | "update", as =>
    for v in as do
      for (k, w) in ← pairsOf v do setEntry id k w
    for (k, w) in keywords do setEntry id (.str k) w
    return .none
  | "copy", [] => newDict entries
  | "clear", [] =>
    setCell id fun _ => .dict #[]
    return .none
  | _, _ => unsupported ("dict." ++ name)

end TagTemplate.Machine
