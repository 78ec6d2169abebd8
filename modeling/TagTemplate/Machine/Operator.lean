/-
  TagTemplate.Machine.Operator
  ────────────────────────────────
  **ARITHMETIC AND ORDER.**

  Truth values count as the numbers zero and one.  Texts, lists and tuples
  can be joined, repeated and ordered; a list that comes of it is a new one.
  Whole numbers divide toward the floor, so that the remainder has the sign of
  the divisor.
-/
import TagTemplate.Machine.Show
import TagTemplate.Script.Printer

namespace TagTemplate.Machine

open Script

/-! ## §1. Operands. -/

/-- The name of the type of a value on the machine as it is. -/
def typeNameOf (v : Value) : Eval String := return typeName (← get) v

/-- Raise an error about the type of a value. -/
def typeFail (before : String) (v : Value) (after : String) : Eval α := do
  fail "TypeError" (before ++ (← typeNameOf v) ++ after)

/-- What a value holds in its cell, if it has one. -/
def cellOf? (v : Value) : Eval (Option Cell) := do
  match v with
  | .ref id => return some (← cell id)
  | _ => return none

/-- The elements of a list. -/
def listOf? (v : Value) : Eval (Option (List Value)) := do
  match ← cellOf? v with
  | some (.list items) => return some items.toList
  | _ => return none

/-- The sign of an operator in a report. -/
def operatorText (op : BinaryOp) (inPlace : Bool) : String :=
  if inPlace then Printer.binaryText op ++ "="
  else if op == .pow then "** or pow()"
  else Printer.binaryText op

/-- Raise the error of two operands that an operator does not take. -/
def badOperands (op : BinaryOp) (inPlace : Bool) (v w : Value) : Eval α := do
  fail "TypeError"
    ("unsupported operand type(s) for " ++ operatorText op inPlace ++ ": '" ++ (← typeNameOf v)
      ++ "' and '" ++ (← typeNameOf w) ++ "'")

/-! ## §2. Operators. -/

/-- A list some number of times over. -/
def repeated (n : Int) (items : List α) : List α := (List.replicate n.toNat items).flatten

/-- Join two values. -/
def add (inPlace : Bool) (v w : Value) : Eval Value := do
  match number? v, number? w with
  | some a, some b => return .int (a + b)
  | _, _ =>
    let refuse (what : String) : Eval Value :=
      typeFail ("can only concatenate " ++ what ++ " (not \"") w ("\") to " ++ what)
    match text? v with
    | some s =>
      match text? w with
      | some t => return .str (s ++ t)
      | none => refuse "str"
    | none =>
      match v, w with
      | .tuple as, .tuple bs => return .tuple (as ++ bs)
      | .tuple _, _ => refuse "tuple"
      | _, _ =>
        match ← listOf? v, ← listOf? w with
        | some as, some bs => newList (as ++ bs)
        | some _, none => refuse "list"
        | none, _ => badOperands .add inPlace v w

/-- A text, a list or a tuple some number of times over, if the value is one. -/
def repeatValue? (v : Value) (n : Int) : Eval (Option Value) := do
  match text? v with
  | some s => return some (.str (String.ofList (repeated n s.toList)))
  | none =>
    match v with
    | .tuple items => return some (.tuple (repeated n items))
    | _ =>
      match ← listOf? v with
      | some items => return some (← newList (repeated n items))
      | none => return none

/-- Whether a value can be repeated. -/
def isSequence (v : Value) : Eval Bool := do
  match v with
  | .str _ | .markup _ | .tuple _ => return true
  | _ => return (← listOf? v).isSome

/-- Multiply two values. -/
def multiply (inPlace : Bool) (v w : Value) : Eval Value := do
  match number? v, number? w with
  | some a, some b => return .int (a * b)
  | _, _ =>
    let several (s n : Value) : Eval Value := do
      match number? n with
      | some i => return (← repeatValue? s i).getD .none
      | none => typeFail "can't multiply sequence by non-int of type '" n "'"
    if ← isSequence v then several v w
    else if ← isSequence w then several w v
    else badOperands .mul inPlace v w

/-- Bring two mappings together; the second one's values win. -/
def mergedEntries (m : Machine) (as bs : Array (Value × Value)) : Array (Value × Value) :=
  bs.foldl (fun all (k, v) =>
    match all.findIdx? fun (l, _) => equal m k l with
    | some i => all.modify i fun (l, _) => (l, v)
    | none => all.push (k, v)) as

/-- An operator on two numbers. -/
def arithmetic (op : BinaryOp) (inPlace : Bool) (v w : Value) (a b : Int) : Eval Value := do
  let zero (text : String) : Eval Value := fail "ZeroDivisionError" text
  let bitwise (f : Nat → Nat → Nat) (g : Bool → Bool → Bool) : Eval Value :=
    match v, w with
    | .bool p, .bool q => return .bool (g p q)
    | _, _ =>
      if a < 0 || b < 0 then unsupported "bits of a negative number"
      else return .int (f a.toNat b.toNat)
  let shift (f : Int → Nat → Int) : Eval Value :=
    if b < 0 then fail "ValueError" "negative shift count" else return .int (f a b.toNat)
  match op with
  | .add => return .int (a + b)
  | .sub => return .int (a - b)
  | .mul => return .int (a * b)
  | .floorDiv =>
    if b == 0 then zero "integer division or modulo by zero" else return .int (a.fdiv b)
  | .mod => if b == 0 then zero "integer modulo by zero" else return .int (a.fmod b)
  | .div => if b == 0 then zero "division by zero" else unsupported "a number with a fraction"
  | .pow => if b < 0 then unsupported "a number with a fraction" else return .int (a.pow b.toNat)
  | .bitAnd => bitwise (· &&& ·) (· && ·)
  | .bitOr => bitwise (· ||| ·) (· || ·)
  | .bitXor => bitwise (· ^^^ ·) xor
  | .shiftLeft => shift fun i n => i * Int.pow 2 n
  | .shiftRight => shift fun i n => i.fdiv (Int.pow 2 n)
  | .matMul => badOperands op inPlace v w

/-- An operator between two values. -/
def binary (op : BinaryOp) (inPlace : Bool) (v w : Value) : Eval Value := do
  match op with
  | .add => add inPlace v w
  | .mul => multiply inPlace v w
  | _ =>
    match number? v, number? w with
    | some a, some b => arithmetic op inPlace v w a b
    | _, _ =>
      match op, text? v with
      | .mod, some _ => unsupported "a text as a format"
      | _, _ =>
        match op, ← cellOf? v, ← cellOf? w with
        | .bitOr, some (.dict as), some (.dict bs) => new (.dict (mergedEntries (← get) as bs))
        | _, _, _ => badOperands op inPlace v w

/-- An operator before a value. -/
def unary (op : UnaryOp) (v : Value) : Eval Value := do
  let number (sign : String) (f : Int → Int) : Eval Value := do
    match number? v with
    | some i => return .int (f i)
    | none => typeFail ("bad operand type for unary " ++ sign ++ ": '") v "'"
  match op with
  | .not => return .bool (!truthy (← get) v)
  | .minus => number "-" fun i => -i
  | .plus => number "+" id
  | .invert => number "~" fun i => -i - 1

/-! ## §3. Order. -/

/-- One of the four orders. -/
inductive Order where
  /-- Less. -/
  | lt
  /-- Less or equal. -/
  | le
  /-- Greater. -/
  | gt
  /-- Greater or equal. -/
  | ge
  deriving DecidableEq, Repr

/-- The sign of an order. -/
def Order.text : Order → String
  | .lt => "<"
  | .le => "<="
  | .gt => ">"
  | .ge => ">="

/-- Whether an outcome of a comparison agrees with an order. -/
def Order.holds : Order → Ordering → Bool
  | .lt, o => o == .lt
  | .le, o => o != .gt
  | .gt, o => o == .gt
  | .ge, o => o != .lt

/-- The first two unequal elements side by side. -/
def firstUnequal (m : Machine) : List Value → List Value → Option (Value × Value)
  | a :: as, b :: bs => if equal m a b then firstUnequal m as bs else some (a, b)
  | _, _ => none

/-- Whether two values stand in an order; `fuel` bounds the depth. -/
def orderedIn : Nat → Order → Value → Value → Eval Bool
  | 0, _, _, _ => unsupported "a comparison this deep"
  | fuel + 1, o, v, w => do
    let sequences (as bs : List Value) : Eval Bool := do
      match firstUnequal (← get) as bs with
      | some (a, b) => orderedIn fuel o a b
      | none => return o.holds (compare as.length bs.length)
    match number? v, number? w, text? v, text? w with
    | some a, some b, _, _ => return o.holds (compare a b)
    | _, _, some a, some b => return o.holds (compare a b)
    | _, _, _, _ =>
      match v, w with
      | .tuple as, .tuple bs => sequences as bs
      | _, _ =>
        match ← listOf? v, ← listOf? w with
        | some as, some bs => sequences as bs
        | _, _ =>
          fail "TypeError"
            ("'" ++ o.text ++ "' not supported between instances of '" ++ (← typeNameOf v)
              ++ "' and '" ++ (← typeNameOf w) ++ "'")

/-- Whether two values stand in an order. -/
def ordered (o : Order) (v w : Value) : Eval Bool := orderedIn depthLimit o v w

/-- The place of a new element behind all that are not greater, found by halving; `n` bounds the
number of halvings. -/
def placeFor (less : Value → Value → Eval Bool) (items : Array Value) (v : Value) :
    Nat → Nat → Nat → Eval Nat
  | 0, lo, _ => return lo
  | n + 1, lo, hi => do
    if lo ≥ hi then return lo
    else
      let mid := (lo + hi) / 2
      if ← less v (items.getD mid .none) then placeFor less items v n lo mid
      else placeFor less items v n (mid + 1) hi

/-- The length of the run at the start of some elements that is in order, and whether it descends. -/
def firstRun (less : Value → Value → Eval Bool) : List Value → Eval (Nat × Bool)
  | a :: b :: rest => do
    let down ← less b a
    return (2 + (← go down b rest), down)
  | items => return (items.length, false)
where
  /-- How many further elements continue the run. -/
  go (down : Bool) (last : Value) : List Value → Eval Nat
    | [] => return 0
    | c :: rest => do
      if (← less c last) == down then return 1 + (← go down c rest) else return 0

/-- Elements in ascending order; equal ones keep their places. -/
def sortedBy (less : Value → Value → Eval Bool) (items : List Value) : Eval (List Value) := do
  let (n, down) ← firstRun less items
  let start := items.take n
  let start := if down then start.reverse else start
  let all ← (items.drop n).foldlM (fun (done : Array Value) v => do
    let i ← placeFor less done v (done.size + 1) 0 done.size
    return (done.toList.take i ++ v :: done.toList.drop i).toArray) start.toArray
  return all.toList

end TagTemplate.Machine
