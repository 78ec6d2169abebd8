/-
  TagTemplate.Script.Parse.Operator
  ────────────────────────────────
  **OPERATORS.**

  The binary operators bind at six levels, products most tightly.  Operands
  of one level are grouped from the left.
-/
import TagTemplate.Script.Parse.Rules

namespace TagTemplate.Script

namespace Parse

/-! ## §1. Marks that are operators. -/

/-- The operator that a mark stands for at a level of binding: products bind most tightly. -/
def operatorAt : Nat → String → Option BinaryOp
  | 1, "*" => some .mul
  | 1, "/" => some .div
  | 1, "//" => some .floorDiv
  | 1, "%" => some .mod
  | 1, "@" => some .matMul
  | 2, "+" => some .add
  | 2, "-" => some .sub
  | 3, "<<" => some .shiftLeft
  | 3, ">>" => some .shiftRight
  | 4, "&" => some .bitAnd
  | 5, "^" => some .bitXor
  | 6, "|" => some .bitOr
  | _, _ => none

/-- The operator at a level that is next, read over. -/
def operator (level : Nat) : Parse BinaryOp := do
  let t ← peek
  if t.kind == .mark then
    match operatorAt level t.text with
    | some op =>
      advance
      return op
    | none => reject
  else reject

/-- The operator before an operand. -/
def signOf : String → Option UnaryOp
  | "+" => some .plus
  | "-" => some .minus
  | "~" => some .invert
  | _ => none

/-- A sign, read over. -/
def sign : Parse UnaryOp := do
  let t ← peek
  if t.kind == .mark then
    match signOf t.text with
    | some op =>
      advance
      return op
    | none => reject
  else reject

/-- A comparison operator, read over. -/
def comparison : Parse CompareOp := do
  let t ← peek
  if t.kind == .mark then
    match t.text with
    | "==" => advance; return .eq
    | "!=" => advance; return .ne
    | "<" => advance; return .lt
    | "<=" => advance; return .le
    | ">" => advance; return .gt
    | ">=" => advance; return .ge
    | _ => reject
  else if t.kind == .keyword then
    match t.text with
    | "in" => advance; return .member
    | "not" => do
      advance
      word "in"
      return .notMember
    | "is" => do
      advance
      if ← tryWord "not" then return .notSame else return .same
    | _ => reject
  else reject

/-! ## §2. Levels of binding. -/

/-- The operators of a level and all that bind more tightly. -/
def binaryAt (r : Rules) : Nat → Parse Expr
  | 0 => r.factor
  | level + 1 => do
    let left ← binaryAt r level
    loop (fun left => do
      let op ← operator (level + 1)
      return .binary op left (← binaryAt r level)) left

/-- An expression without comparisons, choices or words between its operands. -/
def bitwiseOr (r : Rules) : Parse Expr := binaryAt r 6

end Parse

end TagTemplate.Script
