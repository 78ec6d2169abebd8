/-
  TagTemplate.Machine.Elements
  ────────────────────────────────
  **ELEMENTS OF VALUES.**

  A walk goes through the elements of a value one by one.  A walk through a
  list sees what is appended meanwhile; a walk through a mapping insists on
  its size.  Elements are also found by position, by a range of positions, or
  by key.
-/
import TagTemplate.Machine.Operator

namespace TagTemplate.Machine

/-! ## §1. Walks. -/

/-- How many steps a loop may take. -/
def stepLimit : Nat := 100000000

/-- The walk through a value, if it has elements. -/
def walkOf? (v : Value) : Eval (Option Walk) := do
  match text? v with
  | some s => return some (.items (s.toList.map fun c => .str (String.singleton c)))
  | none =>
    match v with
    | .tuple items => return some (.items items)
    | .ref id =>
      let size (c : Cell) : Nat := match c with
        | .dict entries => entries.size
        | _ => 0
      match ← cell id with
      | .list _ => return some (.list id 0)
      | .set items => return some (.items items.toList)
      | .range start stop step =>
        return some (.items ((rangeNumbers start stop step).map .int))
      | .dict entries => return some (.dict id .keys 0 entries.size)
      | .view source side => return some (.dict source side 0 (size (← cell source)))
      | .walk _ _ => return some (.shared id)
      | _ => return none
    | _ => return none

/-- The walk through a value. -/
def walkOf (v : Value) : Eval Walk := do
  match ← walkOf? v with
  | some w => return w
  | none => typeFail "'" v "' object is not iterable"

/-- What a walk through a mapping sees of an entry. -/
def Side.seen (side : Side) (k v : Value) : Value :=
  match side with
  | .keys => k
  | .values => v
  | .items => .tuple [k, v]

/-- Raise the error of a mapping that does not have the size it had. -/
def sizeChanged : Eval α := fail "RuntimeError" "dictionary changed size during iteration"

/-- The next element of a walk and the walk behind it; `fuel` bounds how deeply walks share. -/
def next : Nat → Walk → Eval (Option (Value × Walk))
  | 0, _ => unsupported "walks this deep"
  | fuel + 1, w => do
    match w with
    | .items [] => return none
    | .items (v :: rest) => return some (v, .items rest)
    | .list id i =>
      match ← cell id with
      | .list items => return items[i]?.map fun v => (v, .list id (i + 1))
      | _ => return none
    | .dict id side i size =>
      match ← cell id with
      | .dict entries =>
        if entries.size != size then sizeChanged
        else return entries[i]?.map fun (k, v) => (side.seen k v, .dict id side (i + 1) size)
      | _ => return none
    | .numbered inner n =>
      match ← next fuel inner with
      | some (v, rest) => return some (.tuple [.int n, v], .numbered rest (n + 1))
      | none => return none
    | .shared id =>
      match ← cell id with
      | .walk name inner =>
        match ← next fuel inner with
        | some (v, rest) =>
          setCell id fun _ => .walk name rest
          return some (v, .shared id)
        | none =>
          setCell id fun _ => .walk name (.items [])
          return none
      | _ => return none

/-- The next element of a walk and the walk behind it. -/
def Walk.next (w : Walk) : Eval (Option (Value × Walk)) := Machine.next depthLimit w

/-- All elements that are left of a walk; `fuel` bounds how deeply walks share. -/
def drainIn : Nat → Walk → Eval (List Value)
  | 0, _ => unsupported "walks this deep"
  | fuel + 1, w => do
    match w with
    | .items rest => return rest
    | .list id i =>
      match ← cell id with
      | .list items => return items.toList.drop i
      | _ => return []
    | .dict id side i size =>
      match ← cell id with
      | .dict entries =>
        if entries.size != size then sizeChanged
        else return (entries.toList.drop i).map fun (k, v) => side.seen k v
      | _ => return []
    | .numbered inner n =>
      let vs ← drainIn fuel inner
      return vs.zipIdx.map fun (v, i) => .tuple [.int (n + i), v]
    | .shared id =>
      match ← cell id with
      | .walk name inner =>
        let vs ← drainIn fuel inner
        setCell id fun _ => .walk name (.items [])
        return vs
      | _ => return []

/-- All elements that are left of a walk. -/
def Walk.drain (w : Walk) : Eval (List Value) := drainIn depthLimit w

/-- The elements of a value. -/
def elements (v : Value) : Eval (List Value) := do (← walkOf v).drain

/-! ## §2. Taking apart. -/

/-- The error of a value with too few elements. -/
def tooFew (expected : String) (got : Nat) : Eval α :=
  fail "ValueError"
    ("not enough values to unpack (expected " ++ expected ++ ", got " ++ toString got ++ ")")

/-- The first elements of a walk, as many as are wanted, and the walk behind them. -/
def takeFrom : Nat → Walk → Eval (List Value × Walk)
  | 0, w => return ([], w)
  | n + 1, w => do
    match ← w.next with
    | some (v, rest) =>
      let (vs, rest) ← takeFrom n rest
      return (v :: vs, rest)
    | none => return ([], w)

/-- A value as exactly `n` elements; or as `before`, a list of the others, and `behind`. -/
def unpack (v : Value) (before : Nat) (behind : Option Nat) : Eval (List Value) := do
  match ← walkOf? v with
  | none => typeFail "cannot unpack non-iterable " v " object"
  | some w =>
    match behind with
    | none =>
      let (vs, rest) ← takeFrom before w
      if vs.length < before then tooFew (toString before) vs.length
      else if (← rest.next).isSome then
        fail "ValueError" ("too many values to unpack (expected " ++ toString before ++ ")")
      else return vs
    | some behind =>
      let vs ← w.drain
      if vs.length < before + behind then
        tooFew ("at least " ++ toString (before + behind)) vs.length
      else
        let middle ← newList ((vs.drop before).take (vs.length - before - behind))
        return vs.take before ++ middle :: vs.drop (vs.length - behind)

/-! ## §3. Keys. -/

/-- Refuse a value that cannot be a key, because it may change. -/
def checkKey : Nat → Value → Eval Unit
  | 0, _ => unsupported "a key this deep"
  | fuel + 1, v => do
    match v with
    | .tuple items => items.forM (checkKey fuel)
    | _ =>
      match ← cellOf? v with
      | some (.list _) | some (.dict _) | some (.set _) => typeFail "unhashable type: '" v "'"
      | _ => return ()

/-- The position of a key among entries. -/
def keyIndex? (m : Machine) (entries : Array (Value × Value)) (k : Value) : Option Nat :=
  entries.findIdx? fun (l, _) => equal m k l

/-- The value of a key in a mapping. -/
def lookup? (id : Nat) (k : Value) : Eval (Option Value) := do
  checkKey depthLimit k
  match ← cell id with
  | .dict entries =>
    return (keyIndex? (← get) entries k).bind fun i => entries[i]?.map (·.2)
  | _ => return none

/-- Entries with a key set: an old key keeps its place. -/
def withEntry (m : Machine) (entries : Array (Value × Value)) (k v : Value) :
    Array (Value × Value) :=
  match keyIndex? m entries k with
  | some i => entries.modify i fun (l, _) => (l, v)
  | none => entries.push (k, v)

/-- Set a key of a mapping. -/
def setEntry (id : Nat) (k v : Value) : Eval Unit := do
  checkKey depthLimit k
  let m ← get
  match ← cell id with
  | .dict entries => setCell id fun _ => .dict (withEntry m entries k v)
  | _ => return ()

/-- A new mapping of some keys and values, in which later ones win. -/
def dictOf (pairs : List (Value × Value)) : Eval Value := do
  let entries ← pairs.foldlM (fun entries (k, v) => do
    checkKey depthLimit k
    return withEntry (← get) entries k v) #[]
  new (.dict entries)

/-- The entries of a mapping. -/
def entriesOf? (v : Value) : Eval (Option (List (Value × Value))) := do
  match ← cellOf? v with
  | some (.dict entries) => return some entries.toList
  | _ => return none

/-! ## §4. Positions. -/

/-- The place among `n` that a position means: a negative one counts from the end. -/
def placeOf? (n : Nat) (i : Int) : Option Nat :=
  let i := if i < 0 then i + n else i
  if 0 ≤ i && i < n then some i.toNat else none

/-- A bound of a range of positions. -/
def bound? (v : Value) : Eval (Option Int) := do
  match v with
  | .none => return none
  | _ =>
    match number? v with
    | some i => return some i
    | none =>
      fail "TypeError" "slice indices must be integers or None or have an __index__ method"

/-- The places among `n` that a range of positions means. -/
def placesOf (n : Nat) (lower upper step : Option Int) : List Nat :=
  let step := step.getD 1
  let size : Int := n
  let low : Int := if step < 0 then -1 else 0
  let high : Int := if step < 0 then size - 1 else size
  let clamp (i : Int) : Int :=
    let i := if i < 0 then i + size else i
    max low (min high i)
  let start := match lower with
    | some i => clamp i
    | none => if step < 0 then high else low
  let stop := match upper with
    | some i => clamp i
    | none => if step < 0 then low else high
  (rangeNumbers start stop step).map (·.toNat)

/-- A range of positions that a script asks for. -/
structure Slice where
  /-- The first position. -/
  lower : Value
  /-- The position that is no longer in it. -/
  upper : Value
  /-- The distance of positions. -/
  step : Value

/-- The places among `n` that a range means. -/
def Slice.places (s : Slice) (n : Nat) : Eval (List Nat) := do
  let step ← bound? s.step
  if step == some 0 then fail "ValueError" "slice step cannot be zero"
  else return placesOf n (← bound? s.lower) (← bound? s.upper) step

/-- The elements among some in a range of positions. -/
def Slice.pick {α : Type} (s : Slice) (items : List α) : Eval (List α) := do
  let all := items.toArray
  return (← s.places all.size).filterMap fun i => all[i]?

/-- The elements of a value in a range of positions. -/
def slice (v : Value) (s : Slice) : Eval Value := do
  match text? v with
  | some t => return .str (String.ofList (← s.pick t.toList))
  | none =>
    match v with
    | .tuple items => return .tuple (← s.pick items)
    | _ =>
      match ← cellOf? v with
      | some (.list items) => newList (← s.pick items.toList)
      | some (.dict _) => fail "TypeError" "unhashable type: 'slice'"
      | _ => typeFail "'" v "' object is not subscriptable"

/-- Put elements in the place of a range of a list. -/
def setSlice (v : Value) (s : Slice) (w : Value) : Eval Unit := do
  match v, ← cellOf? v with
  | .ref id, some (.list items) =>
    match ← walkOf? w with
    | none => fail "TypeError" "can only assign an iterable"
    | some walk =>
      let news ← walk.drain
      match ← bound? s.step with
      | none | some 1 =>
        let size : Int := items.size
        let clamp (i : Int) : Nat :=
          let i := if i < 0 then i + size else i
          (max 0 (min size i)).toNat
        let start := ((← bound? s.lower).map clamp).getD 0
        let stop := max start (((← bound? s.upper).map clamp).getD items.size)
        let all := items.toList
        setCell id fun _ => .list (all.take start ++ news ++ all.drop stop).toArray
      | some _ => unsupported "setting a range with gaps"
  | _, _ => typeFail "'" v "' object does not support item assignment"

/-- The element of a value at a position or under a key. -/
def item (v i : Value) : Eval Value := do
  let pick (what : String) (items : Array Value) (badIndex : Eval Value) : Eval Value := do
    match number? i with
    | some n =>
      match (placeOf? items.size n).bind (items[·]?) with
      | some x => return x
      | none => fail "IndexError" (what ++ " index out of range")
    | none => badIndex
  let indices (what : String) : Eval Value :=
    typeFail (what ++ " indices must be integers or slices, not ") i ""
  match text? v with
  | some s =>
    pick "string" (s.toList.map fun c => Value.str (String.singleton c)).toArray
      (typeFail "string indices must be integers, not '" i "'")
  | none =>
    match v with
    | .tuple items => pick "tuple" items.toArray (indices "tuple")
    | .ref id =>
      match ← cell id with
      | .list items => pick "list" items (indices "list")
      | .range start stop step =>
        pick "range object" ((rangeNumbers start stop step).map Value.int).toArray
          (typeFail "range indices must be integers or slices, not " i "")
      | .dict _ =>
        match ← lookup? id i with
        | some x => return x
        | none => raise { className := "KeyError", args := [i] }
      | _ => typeFail "'" v "' object is not subscriptable"
    | .errorClass name => fail "TypeError" ("type '" ++ name ++ "' is not subscriptable")
    | _ => typeFail "'" v "' object is not subscriptable"

/-- Set the element of a value at a position or under a key. -/
def setItem (v i w : Value) : Eval Unit := do
  match v, ← cellOf? v with
  | .ref id, some (.dict _) => setEntry id i w
  | .ref id, some (.list items) =>
    match number? i with
    | some n =>
      match placeOf? items.size n with
      | some place => setCell id fun _ => .list (items.set! place w)
      | none => fail "IndexError" "list assignment index out of range"
    | none => typeFail "list indices must be integers or slices, not " i ""
  | _, _ => typeFail "'" v "' object does not support item assignment"

/-- Whether elements of a value that never changes are known by position. -/
def isIndexed (v : Value) : Eval Bool := do
  match v, ← cellOf? v with
  | .str _, _ | .markup _, _ | .tuple _, _ => return true
  | _, some (.range _ _ _) | _, some (.view _ _) | _, some (.set _) => return true
  | _, _ => return false

/-- Remove the element of a value at a position or under a key. -/
def removeItem (v i : Value) : Eval Unit := do
  match v, ← cellOf? v with
  | .ref id, some (.dict entries) =>
    checkKey depthLimit i
    match keyIndex? (← get) entries i with
    | some place => setCell id fun _ => .dict (entries.eraseIdxIfInBounds place)
    | none => raise { className := "KeyError", args := [i] }
  | .ref id, some (.list items) =>
    match number? i with
    | some n =>
      match placeOf? items.size n with
      | some place => setCell id fun _ => .list (items.eraseIdxIfInBounds place)
      | none => fail "IndexError" "list assignment index out of range"
    | none => typeFail "list indices must be integers or slices, not " i ""
  | _, _ =>
    let sequence ← isIndexed v
    let negation := if sequence && (number? i).isSome then "doesn't" else "does not"
    typeFail "'" v ("' object " ++ negation ++ " support item deletion")

/-! ## §5. Membership. -/

/-- Whether an element is met on a walk; `fuel` bounds the number of steps. -/
def metOn (v : Value) : Nat → Walk → Eval Bool
  | 0, _ => unsupported "a walk this long"
  | fuel + 1, w => do
    match ← w.next with
    | some (x, rest) => if equal (← get) v x then return true else metOn v fuel rest
    | none => return false

/-- Whether a value is an element of another. -/
def member (v within : Value) : Eval Bool := do
  match text? within with
  | some s =>
    match text? v with
    | some t => return (Text.indexOf? t.toList s.toList).isSome
    | none => typeFail "'in <string>' requires string as left operand, not " v ""
  | none =>
    match within, ← cellOf? within with
    | .ref id, some (.dict _) => return (← lookup? id v).isSome
    | _, _ =>
      match ← walkOf? within with
      | some w => metOn v stepLimit w
      | none => typeFail "argument of type '" within "' is not iterable"

end TagTemplate.Machine
