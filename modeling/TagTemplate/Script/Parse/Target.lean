/-
  TagTemplate.Script.Parse.Target
  ────────────────────────────────
  **WHAT IS BOUND.**

  What is bound (the target of an assignment or of a loop) is first read as
  an expression and then turned into a target, if it is one (`asTarget`).
-/
import TagTemplate.Script.Parse.Sequence

namespace TagTemplate.Script

/-! ## §1. Expressions as targets. -/

mutual

/-- An expression as a target of the given use, if it can be one. -/
def asTarget (use : Use) : Expr → Option Expr
  | .name id _ => some (.name id use)
  | .attribute value name => some (.attribute value name)
  | .subscript value index => some (.subscript value index)
  | .starred value line =>
    if use == .delete then none else (asTarget use value).map (.starred · line)
  | .tuple items => (asTargets use items).map .tuple
  | .list items => (asTargets use items).map .list
  | _ => none

/-- Several expressions as targets. -/
def asTargets (use : Use) : List Expr → Option (List Expr)
  | [] => some []
  | e :: rest => do
    let e ← asTarget use e
    return e :: (← asTargets use rest)

end

/-- Whether an expression is a single place: a name, a member or an element. -/
def isPlace : Expr → Bool
  | .name _ _ | .attribute _ _ | .subscript _ _ => true
  | _ => false

/-- Whether an expression stands for the elements of a value. -/
def isStarred : Expr → Bool
  | .starred _ _ => true
  | _ => false

/-! ## §2. The targets of a loop. -/

namespace Parse

/-- One target of a loop. -/
def target (r : Rules) (use : Use) : Parse Expr := do
  if ← nextIs "*" then
    let line ← lineHere
    advance
    let e ← r.primary
    return .starred (← ofOption (asTarget use e)) line
  else
    let e ← r.primary
    ofOption (asTarget use e)

/-- The targets of a loop; several make a tuple. -/
def targets (r : Rules) : Parse Expr := do
  let (items, trailing) ← commaList (target r .store)
  match items with
  | [e] => if trailing then return .tuple items else return e
  | _ => return .tuple items

/-- In the second run: an expression from a place on that is no target. -/
def badTarget (r : Rules) (purpose : Source.Purpose) (start : Nat) : Parse Unit := do
  if ← diagnosing then
    let found ← aheadFrom start (do wrongTarget purpose start (← starExpressions r))
    match found.join with
    | some line => haltAt line "cannot assign here"
    | none => pure ()

/-- The targets of a loop with the word behind them. -/
def loopTargets (r : Rules) : Parse Expr := do
  let start ← place
  match ← optional (do
    let goal ← targets r
    word "in"
    return goal) with
  | some goal => return goal
  | none =>
    badTarget r .loop start
    reject

end Parse

end TagTemplate.Script
