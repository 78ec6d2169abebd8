/-
  TagTemplate.Script.Parse.Call
  ────────────────────────────────
  **ARGUMENTS, ELEMENTS AND MEMBERS.**

  What may follow an atom any number of times.  Positional arguments come
  before those with a name, and a generator needs no parentheses of its own
  if it is the only argument.
-/
import TagTemplate.Script.Parse.Atom

namespace TagTemplate.Script

namespace Parse

/-! ## §1. Arguments. -/

/-- The arguments of a call so far, newest first. -/
structure Arguments where
  /-- By position. -/
  args : List Expr := []
  /-- By name. -/
  keywords : List Keyword := []
  /-- A mapping of named ones has come. -/
  spread : Bool := false
  /-- An argument without a name has come behind one with a name. -/
  late : Bool := false

/-- Whether a named argument is next. -/
def keywordNext : Parse Bool := do
  if (← peek).kind == .name then
    let t ← peekAt 1
    return t.kind == .mark && t.text == "="
  else return false

/-- A sign of equality behind an argument that cannot be the name of a parameter is a mistake. -/
def wrongAssignment (r : Rules) : Parse Unit := do
  if ← diagnosing then
    let start ← place
    let found ← ahead (do
      let line ← beginning start (← r.expression)
      mark "="
      return line)
    match found with
    | some line => haltAt line "expression cannot contain assignment"
    | none => pure ()

/-- An argument with a name. -/
def namedArgument (r : Rules) (a : Arguments) : Parse Arguments := do
  let line ← lineHere
  let n ← name
  advance
  let e ← r.expression
  if ← diagnosing then
    if ← clauseNext then
      if (← ahead (clauses r)).isSome then haltAt line "'=' in place of '=='"
  return { a with keywords := .mk (some n) e line :: a.keywords }

/-- A generator that goes without parentheses; it has to be the only argument. -/
def loneGenerator (r : Rules) (start : Nat) (e : Expr) (others : Bool) : Parse Arguments := do
  let line ← beginning start e
  let opening ← (fun s c => .ok (s.tokens.getD (start - 1) default).line c)
  let cs ← clauses r
  if others then
    if ← diagnosing then haltAt line "Generator expression must be parenthesized" else reject
  else if ← nextIs ")" then return { args := [.comp .generator e cs opening] }
  else if (← nextIs ",") && (← diagnosing) then
    haltAt line "Generator expression must be parenthesized"
  else reject

/-- One argument; `first` is the line of the first one. -/
def argument (r : Rules) (first : Nat) (a : Arguments) : Parse Arguments := do
  if ← nextIs "*" then
    if a.spread then
      if ← diagnosing then
        haltAt first "iterable argument unpacking follows keyword argument unpacking"
      else reject
    else return { a with args := (← starredExpression r) :: a.args }
  else
    let line ← lineHere
    if ← tryMark "**" then
      return { a with keywords := .mk none (← r.expression) line :: a.keywords, spread := true }
    else if ← keywordNext then namedArgument r a
    else if !a.keywords.isEmpty && !(← diagnosing) then reject
    else
      wrongAssignment r
      let start ← place
      let e ← assignmentOr r
      if ← nextIs "=" then reject
      else if !a.keywords.isEmpty then return { a with late := true }
      else
        let lone := a.args.isEmpty
        if ← (if lone then clauseNext else do if ← diagnosing then clauseNext else pure false) then
          loneGenerator r start e (!lone)
        else return { a with args := e :: a.args }

/-- The arguments of a call behind its parenthesis. -/
def arguments (r : Rules) : Parse (List Expr × List Keyword) := do
  if ← nextIs ")" then return ([], [])
  else
    let first ← lineHere
    let a ← argument r first {}
    let a ← loop (fun a => do
      mark ","
      if ← nextIs ")" then reject else argument r first a) a
    if a.late then
      if ← diagnosing then haltHere "positional argument follows keyword argument" else reject
    else
      let _ ← tryMark ","
      return (a.args.reverse, a.keywords.reverse)

/-! ## §2. Elements and members. -/

/-- A position or a range of positions. -/
def sliceItem (r : Rules) : Parse Expr := do
  if ← nextIs "*" then starredExpression r
  else
    let named ← isNamed
    let lower ← if ← nextIs ":" then pure none else some <$> namedExpression r
    if ← (if named then pure false else tryMark ":") then
      let upper ← optional r.expression
      let step ← if ← tryMark ":" then optional r.expression else pure none
      return .slice lower upper step
    else ofOption lower

/-- What stands between the brackets of an element. -/
def subscripts (r : Rules) : Parse Expr := do
  let (items, trailing) ← commaList (sliceItem r)
  match items with
  | [e] => if trailing || isStarred e then return .tuple items else return e
  | _ => return .tuple items

/-- A member, an element or a call of what came before. -/
def suffix (r : Rules) (e : Expr) : Parse Expr := do
  let t ← peek
  if t.kind == .mark then
    match t.text with
    | "." => do
      advance
      return .attribute e (← name)
    | "(" => do
      badComprehension r
      advance
      let (args, keywords) ← arguments r
      mark ")"
      return .call e args keywords
    | "\x7b" => do
      badComprehension r
      reject
    | "[" => do
      badComprehension r
      advance
      let index ← subscripts r
      mark "]"
      return .subscript e index
    | _ => reject
  else reject

end Parse

end TagTemplate.Script
