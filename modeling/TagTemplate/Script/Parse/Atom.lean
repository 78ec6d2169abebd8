/-
  TagTemplate.Script.Parse.Atom
  ────────────────────────────────
  **ATOMS.**

  Names, constants, strings, and what stands between brackets: groups,
  tuples, lists, sets, mappings and the comprehensions that make them.
-/
import TagTemplate.Script.Parse.Comprehension
import TagTemplate.Script.Parse.Strings

namespace TagTemplate.Script

namespace Parse

/-- In the second run, before an opening parenthesis: a lone starred expression. -/
def badGroup (r : Rules) : Parse Unit := do
  if ← diagnosing then
    let found ← ahead (do
      advance
      let line ← lineHere
      if ← nextIs "*" then
        let _ ← starredExpression r
      else
        mark "**"
        let _ ← r.expression
      mark ")"
      return line)
    match found with
    | some line => haltAt line "cannot use starred expression here"
    | none => pure ()

/-- A tuple, a generator, or an expression between parentheses. -/
def grouped (r : Rules) : Parse Expr := do
  let line ← lineHere
  mark "("
  if ← tryMark ")" then return .tuple []
  else if ← nextIsWord "yield" then
    let e ← yieldExpression r
    mark ")"
    return e
  else
    let first ← starNamed r
    if ← clauseBehind first then
      let cs ← clauses r
      mark ")"
      return .comp .generator first cs line
    else if ← tryMark "," then
      let rest ← optional (commaList (starNamed r))
      mark ")"
      return .tuple (first :: (rest.map (·.1)).getD [])
    else
      mark ")"
      if isStarred first then reject else return first

/-- What stands between parentheses. -/
def parenthesized (r : Rules) : Parse Expr :=
  grouped r <|> (do
    badGroup r
    badComprehension r
    reject)

/-- A list, or a comprehension that makes one. -/
def listed (r : Rules) : Parse Expr := do
  let line ← lineHere
  mark "["
  if ← tryMark "]" then return .list []
  else
    let first ← starNamed r
    if ← clauseBehind first then
      let cs ← clauses r
      mark "]"
      return .comp .list first cs line
    else
      let rest ← if ← tryMark "," then optional (commaList (starNamed r)) else pure none
      mark "]"
      return .list (first :: (rest.map (·.1)).getD [])

/-- What stands between square brackets. -/
def bracketed (r : Rules) : Parse Expr :=
  listed r <|> (do
    badComprehension r
    reject)

/-- Behind a colon on the given line: no value, or a starred one. -/
def badValue (r : Rules) (line : Nat) : Parse Unit := do
  if (← nextIs "\x7d") || (← nextIs ",") then haltAt line "expression expected after ':'"
  else if ← nextIs "*" then
    let star ← lineHere
    let found ← ahead (do
      advance
      let _ ← bitwiseOr r)
    if found.isSome then haltAt star "cannot use a starred expression in a dictionary value"

/-- A colon and the value behind it. -/
def entryValue (r : Rules) : Parse Expr := do
  let line ← lineHere
  mark ":"
  badValue r line
  r.expression

/-- An entry of a mapping behind others. -/
def entry (r : Rules) : Parse Entry := do
  if ← tryMark "**" then return .spread (← bitwiseOr r)
  else
    let start ← place
    let key ← r.expression
    if !(← nextIs ":") then
      haltAt (← beginning start key) "':' expected after dictionary key"
    return .item key (← entryValue r)

/-- The entries of a mapping behind the first one, and the brace. -/
def entries (r : Rules) (first : Entry) : Parse Expr := do
  let rest ← if ← tryMark "," then optional (commaList (entry r)) else pure none
  mark "\x7d"
  return .dict (first :: (rest.map (·.1)).getD [])

/-- The elements of a set behind the first one, and the brace. -/
def members (r : Rules) (first : Expr) : Parse Expr := do
  let rest ← if ← tryMark "," then optional (commaList (starNamed r)) else pure none
  mark "\x7d"
  return .set (first :: (rest.map (·.1)).getD [])

/-- In the second run, behind an opening brace on the given line: a comprehension over the entries of
a mapping. -/
def badEntries (r : Rules) (line : Nat) : Parse Unit := do
  if ← diagnosing then
    let found ← ahead (do
      mark "**"
      let _ ← bitwiseOr r
      clauses r)
    if found.isSome then haltAt line "dict unpacking cannot be used in dict comprehension"

/-- A mapping, a set, or a comprehension that makes one. -/
def collected (r : Rules) : Parse Expr := do
  let line ← lineHere
  mark "\x7b"
  if ← tryMark "\x7d" then return .dict []
  else if ← nextIs "**" then
    badEntries r (← lineHere)
    advance
    entries r (.spread (← bitwiseOr r))
  else
    let named ← isNamed
    let first ← starNamed r
    if ← nextIs ":" then
      if isStarred first || named then reject
      else
        let value ← entryValue r
        if ← clauseNext then
          let cs ← clauses r
          mark "\x7d"
          return .dictComp first value cs line
        else entries r (.item first value)
    else if ← clauseBehind first then
      let cs ← clauses r
      mark "\x7d"
      return .comp .set first cs line
    else members r first

/-- What stands between braces. -/
def braced (r : Rules) : Parse Expr :=
  collected r <|> (do
    badComprehension r
    reject)

/-- An atom. -/
def atom (r : Rules) : Parse Expr := do
  let t ← peek
  match t.kind with
  | .name =>
    advance
    return .name (Text.normalForm t.text) .load
  | .number =>
    advance
    return .constant (numberValue t.text)
  | .string => strings (parenthesized r)
  | .keyword =>
    match t.text with
    | "True" => advance; return .constant (.bool true)
    | "False" => advance; return .constant (.bool false)
    | "None" => advance; return .constant .none
    | _ => reject
  | .mark =>
    match t.text with
    | "(" => parenthesized r
    | "[" => bracketed r
    | "\x7b" => braced r
    | "..." => advance; return .constant .ellipsis
    | _ => reject
  | _ => reject

end Parse

end TagTemplate.Script
