/-
  TagTemplate.Script.Parse.Expr
  ────────────────────────────────
  **THE GRAMMAR OF EXPRESSIONS.**

  From a chain of comparisons up to a choice between two values.  A rule that
  reads several ways is tried in the order in which the ways are listed.

  In the second run an expression also looks for what is wrong behind it: a
  second expression beside the first, a choice without its other side, a
  statement of former times that is written without parentheses.
-/
import TagTemplate.Script.Parse.Call
import TagTemplate.Script.Parse.Param

namespace TagTemplate.Script

namespace Parse

/-! ## §1. Operands. -/

/-- A chain of comparisons. -/
def comparisons (r : Rules) : Parse Expr := do
  let left ← bitwiseOr r
  let rest ← many (do
    let op ← comparison
    return Comparison.mk op (← bitwiseOr r))
  match rest with
  | [] => return left
  | _ => return .compare left rest

/-- A comparison behind any number of `not`. -/
def inversion (r : Rules) : Parse Expr := do
  let nots ← many (word "not")
  let e ← comparisons r
  return nots.foldl (fun e _ => .unary .not e) e

/-- Operands between a word. -/
def wordChain (w : String) (op : BoolOp) (p : Parse Expr) : Parse Expr := do
  let first ← p
  let rest ← many (do word w; p)
  match rest with
  | [] => return first
  | _ => return .boolOp op (first :: rest)

/-- Operands between `or`. -/
def disjunction (r : Rules) : Parse Expr := wordChain "or" .disj (wordChain "and" .conj (inversion r))

/-- An atom with its members, elements and calls. -/
def primary (r : Rules) : Parse Expr := do
  let e ← atom r
  loop (suffix r) e

/-- An atom with its members, elements and calls, perhaps waited for. -/
def awaited (r : Rules) : Parse Expr := do
  if ← nextIsWord "await" then
    let line ← lineHere
    advance
    return .await (← primary r) line
  else primary r

/-- A power behind any number of signs. -/
def factor (r : Rules) : Parse Expr := do
  let signs ← many sign
  let base ← awaited r
  let exponent ← optional (do
    mark "**"
    r.factor)
  let e := match exponent with
    | some exponent => Expr.binary .pow base exponent
    | none => base
  return signs.foldr (fun op e => .unary op e) e

/-! ## §2. Expressions. -/

/-- A function without a name. -/
def lambda (r : Rules) : Parse Expr := do
  word "lambda"
  let ps ← params r false ":"
  mark ":"
  return .lambda ps (← r.expression)

/-- An expression whose start is already known to be no function. -/
def choice (r : Rules) (a : Expr) : Parse Expr := do
  let chosen ← optional (do
    word "if"
    let test ← disjunction r
    word "else"
    return Expr.ifElse test a (← r.expression))
  return chosen.getD a

/-- An expression without a look at mistakes. -/
def plainExpression (r : Rules) : Parse Expr :=
  plainly (do
    if ← nextIsWord "lambda" then lambda r
    else
      let a ← disjunction r
      choice r a)

/-! ## §3. Mistakes beside an expression. -/

/-- The names that were statements of their own once. -/
def isFormerStatement : Expr → Bool
  | .name id _ => id == "print" || id == "exec"
  | _ => false

/-- In the second run: two expressions side by side inside brackets, or a choice without its
other side. -/
def adjacent (r : Rules) (start : Nat) (exempt : Bool) (a : Expr) : Parse Unit := do
  if ← diagnosing then
    let line ← beginning start a
    if !exempt then
      let beside ← ahead (do
        let _ ← plainExpression r
        previous)
      match beside with
      | some t =>
        if t.depth != 0 && !isFormerStatement a then
          haltAt line "invalid syntax. Perhaps you forgot a comma?"
      | none => pure ()
    let oneSided ← looks (do
      word "if"
      let _ ← disjunction r
      if (← nextIsWord "else") || (← nextIs ":") then reject else return ())
    if oneSided then haltAt line "expected 'else' after 'if' expression"

/-- Whether a name may be the beginning of a word that is one in some places only. -/
def maySoften (name : String) : Bool :=
  name == "_" || "match".startsWith name || "case".startsWith name

/-- Whether the start of an expression looks like a string with strange letters before it, or like a
word that is one in some places only. -/
def exemptStart : Parse Bool := do
  let t ← peek
  if t.kind == .name then
    if maySoften t.text then return true
    else return (← peekAt 1).kind == .string
  else return false

/-- What stands beside a name.  Where it has been read once without a look at mistakes, only those
between its operands still come to light. -/
def besideName (r : Rules) (again : Bool) : Parse Unit := do
  if ← nextIs "(" then reject
  else if again && !(← nextIs "*") && !(← nextIsWord "lambda") then
    let exempt ← exemptStart
    let start ← place
    let a ← plainly (disjunction r)
    adjacent r start exempt a
    let _ ← choice r a
    if ← tryMark "," then
      let _ ← optional (commaList (starExpression r))
  else
    let _ ← starExpressions r

/-- In the second run: a former statement that is written without parentheses, from a place on.  What
stands beside any name is read, so that mistakes in it come to light. -/
def formerStatement (r : Rules) (start : Nat) (exempt : Bool) : Parse Unit := do
  if ← diagnosing then
    match ← aheadFrom start peek with
    | some t =>
      if t.kind == .name then
        let found ← aheadFrom (start + 1) (besideName r (!exempt))
        if found.isSome && (t.text == "print" || t.text == "exec") then
          haltAt t.line "missing parentheses"
    | none => pure ()

/-- An expression. -/
def expression (r : Rules) : Parse Expr := do
  if ← nextIsWord "lambda" then lambda r
  else
    let exempt ← if ← diagnosing then exemptStart else pure true
    let start ← place
    let a ← disjunction r
    adjacent r start exempt a
    formerStatement r start exempt
    choice r a

end Parse

end TagTemplate.Script
