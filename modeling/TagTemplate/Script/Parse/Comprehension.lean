/-
  TagTemplate.Script.Parse.Comprehension
  ────────────────────────────────
  **COMPREHENSIONS.**

  The clauses that follow an element, and what is wrong with an element that
  cannot be followed by one.
-/
import TagTemplate.Script.Parse.Target

namespace TagTemplate.Script

namespace Parse

/-! ## §1. Clauses. -/

/-- A clause of a comprehension. -/
def clause (r : Rules) : Parse Clause := do
  let isAsync ← tryWord "async"
  word "for"
  let goal ← loopTargets r
  let iter ← r.disjunction
  let conditions ← many (do word "if"; r.disjunction)
  return .mk isAsync goal iter conditions

/-- The clauses of a comprehension, at least one. -/
def clauses (r : Rules) : Parse (List Clause) := do
  let first ← clause r
  return first :: (← many (clause r))

/-- Whether a clause of a comprehension is next. -/
def clauseNext : Parse Bool := do
  if ← nextIsWord "for" then return true
  else if ← nextIsWord "async" then
    let t ← peekAt 1
    return t.kind == .keyword && t.text == "for"
  else return false

/-- Whether a clause of a comprehension is next behind what it may follow; nothing is looked at
behind starred elements. -/
def clauseBehind (e : Expr) : Parse Bool := if isStarred e then pure false else clauseNext

/-! ## §2. Mistakes. -/

/-- In the second run, before an opening bracket: a comprehension over starred elements, or over
elements with commas between them. -/
def badComprehension (r : Rules) : Parse Unit := do
  if ← diagnosing then
    let t ← peek
    let starred ← ahead (do
      advance
      let line ← lineHere
      let _ ← starredExpression r
      let _ ← clauses r
      return line)
    match starred with
    | some line => haltAt line "iterable unpacking cannot be used in comprehension"
    | none => pure ()
    if t.text != "(" then
      let listed ← ahead (do
        advance
        let start ← place
        let line ← beginning start (← starNamed r)
        mark ","
        let _ ← optional (commaList (starNamed r))
        let _ ← clauses r
        return line)
      match listed with
      | some line => haltAt line "did you forget parentheses around the comprehension target?"
      | none => pure ()

end Parse

end TagTemplate.Script
