/-
  TagTemplate.Script.Parse.Sequence
  ────────────────────────────────
  **ONE EXPRESSION OR SEVERAL.**

  Where several expressions may stand with commas between them, they make a
  tuple.  Some places admit the elements of a value, some an expression that
  binds its value to a name.
-/
import TagTemplate.Script.Parse.Operator

namespace TagTemplate.Script

namespace Parse

/-! ## §1. Expressions that bind a name. -/

/-- Two names next to each other that a colon and an equals sign join. -/
def isNamed : Parse Bool := do
  let t ← peek
  if t.kind == .name then
    let u ← peekAt 1
    return u.kind == .mark && u.text == ":="
  else return false

/-- An expression, or one that binds its value to a name. -/
def assignmentOr (r : Rules) : Parse Expr := do
  if ← isNamed then
    let target ← name
    advance
    return .named target (← r.expression)
  else
    let e ← r.expression
    if ← nextIs ":=" then reject else return e

/-- In the second run: a single equals sign behind an expression that is no assignment.  The
expression starts at the given place and ends before the next token. -/
def strayEquals (r : Rules) (start : Nat) (e : Expr) : Parse Unit := do
  if ← nextIs "=" then
    let here ← place
    let complete ← aheadFrom start (do
      let _ ← bitwiseOr r
      place)
    let fixed ← aheadFrom start (do
      let t ← peek
      if t.kind == .mark && (t.text == "(" || t.text == "[") then
        let e ← r.atom
        match e with
        | .list _ | .tuple _ | .comp .generator _ _ _ => isProper start e
        | _ => return false
      else return t.kind == .keyword && (t.text == "True" || t.text == "False" || t.text == "None"))
    if complete == some here && fixed != some true then
      let lone ← aheadFrom (here + 1) (do
        let _ ← bitwiseOr r
        return !((← nextIs "=") || (← nextIs ":=")))
      if lone == some true then
        haltAt (← beginning start e) "cannot assign here; a comparison has two equals signs"

/-- An expression, or one that binds its value to a name, where an assignment may be meant. -/
def namedExpression (r : Rules) : Parse Expr := do
  if ← diagnosing then
    if ← isNamed then assignmentOr r
    else
      let start ← place
      let e ← r.expression
      if ← nextIs ":=" then
        let bound ← ahead (do
          advance
          let _ ← r.expression)
        if bound.isSome then haltAt (← beginning start e) "cannot bind a value to this"
        else reject
      else
        strayEquals r start e
        return e
  else assignmentOr r

/-! ## §2. Sequences. -/

/-- The elements of a value among arguments. -/
def starredExpression (r : Rules) : Parse Expr := do
  let line ← lineHere
  mark "*"
  match ← optional r.expression with
  | some e => return .starred e line
  | none => haltHere "Invalid star expression"

/-- The elements of a value. -/
def starredOperand (r : Rules) : Parse Expr := do
  let line ← lineHere
  mark "*"
  return .starred (← bitwiseOr r) line

/-- An expression or the elements of a value. -/
def starExpression (r : Rules) : Parse Expr := do
  if ← nextIs "*" then starredOperand r else r.expression

/-- One or several of them; several make a tuple. -/
def starExpressions (r : Rules) : Parse Expr := do
  let (items, trailing) ← commaList (starExpression r)
  match items with
  | [e] => if trailing then return .tuple items else return e
  | _ => return .tuple items

/-- An expression that may bind a name, or the elements of a value. -/
def starNamed (r : Rules) : Parse Expr := do
  if ← nextIs "*" then starredOperand r else namedExpression r

/-- A value that is handed out. -/
def yieldExpression (r : Rules) : Parse Expr := do
  let line ← lineHere
  word "yield"
  if ← tryWord "from" then return .yieldFrom (← r.expression) line
  else return .yield (← optional (starExpressions r)) line

/-- What may stand on the right of an assignment. -/
def assignedValue (r : Rules) : Parse Expr := do
  if ← nextIsWord "yield" then yieldExpression r else starExpressions r

end Parse

end TagTemplate.Script
