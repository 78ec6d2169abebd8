/-
  TagTemplate.Script.Parse.Pattern
  ────────────────────────────────
  **THE GRAMMAR OF PATTERNS.**

  A bare name binds whatever it meets, a dotted name is compared with, and an
  underscore takes anything.  A sequence may have one starred part, a mapping
  may keep its other entries under a name.
-/
import TagTemplate.Script.Parse.Expr

namespace TagTemplate.Script.Parse

/-! ## §1. Literals and names. -/

/-- A number, perhaps negative, perhaps with an imaginary part behind it. -/
def signedNumber : Parse Expr := do
  let negative ← tryMark "-"
  let number : Parse Expr := do
    let t ← peek
    if t.kind == .number then
      advance
      return .constant (numberValue t.text)
    else reject
  let first ← number
  let first := if negative then Expr.unary .minus first else first
  if ← nextIs "+" then
    advance
    return .binary .add first (← number)
  else if ← nextIs "-" then
    advance
    return .binary .sub first (← number)
  else return first

/-- Strings in a row. -/
def textLiteral (r : Rules) : Parse Expr := do
  if (← peek).kind == .string then strings (parenthesized r) else reject

/-- A dotted name; at least one dot if asked for. -/
def dotted (dots : Bool) : Parse Expr := do
  let first ← name
  let e ← loop (fun e => do
    mark "."
    return Expr.attribute e (← name)) (Expr.name first .load)
  match e with
  | .name _ _ => if dots then reject else return e
  | _ => return e

/-- A name that a pattern binds; the underscore is none. -/
def captured : Parse String := do
  let t ← peek
  if t.text == "_" then reject
  else
    let n ← name
    if (← nextIs ".") || (← nextIs "(") || (← nextIs "=") then reject else return n

/-- The underscore. -/
def wildcard : Parse Unit := softWord "_"

/-! ## §2. Sequences and mappings. -/

/-- The starred part of a sequence. -/
def starPattern : Parse Pattern := do
  mark "*"
  (do return .star (some (← captured))) <|> (do wildcard; return .star none)

/-- A part of a sequence. -/
def sequencePart (r : Rules) : Parse Pattern := starPattern <|> r.pattern

/-- Parts with commas between them; a lone part needs its comma. -/
def openSequence (r : Rules) : Parse Pattern := do
  let (items, trailing) ← commaList (sequencePart r)
  match items with
  | [_] => if trailing then return .sequence items else reject
  | _ => return .sequence items

/-- A sequence between brackets or parentheses, or a pattern between parentheses. -/
def enclosed (r : Rules) : Parse Pattern := do
  if ← tryMark "[" then
    let items ← optional (commaList (sequencePart r))
    mark "]"
    return .sequence ((items.map (·.1)).getD [])
  else
    mark "("
    if ← tryMark ")" then return .sequence []
    else
      let (items, trailing) ← commaList (sequencePart r)
      mark ")"
      match items with
      | [.star n] => if trailing then return .sequence [.star n] else reject
      | [p] => if trailing then return .sequence [p] else return p
      | _ => return .sequence items

/-- A key of a mapping: a literal or a dotted name. -/
def mappingKey (r : Rules) : Parse Expr := do
  let t ← peek
  match t.kind with
  | .string => textLiteral r
  | .keyword =>
    match t.text with
    | "True" => advance; return .constant (.bool true)
    | "False" => advance; return .constant (.bool false)
    | "None" => advance; return .constant .none
    | _ => reject
  | .name => dotted true
  | _ => signedNumber

/-- A part of a mapping: a key with its pattern, or the name for the rest. -/
def mappingPart (r : Rules) : Parse (Sum (Expr × Pattern) String) := do
  if ← tryMark "**" then return .inr (← captured)
  else
    let key ← mappingKey r
    mark ":"
    return .inl (key, ← r.pattern)

/-- The parts of a mapping, of which only the last may be the rest. -/
def splitParts : List (Sum (Expr × Pattern) String) → Option (List (Expr × Pattern) × Option String)
  | [] => some ([], none)
  | [.inr n] => some ([], some n)
  | .inl p :: more => (splitParts more).map fun (ps, n) => (p :: ps, n)
  | .inr _ :: _ => none

/-- A mapping. -/
def mappingPattern (r : Rules) : Parse Pattern := do
  mark "\x7b"
  let parts ← optional (commaList (mappingPart r))
  mark "\x7d"
  let (pairs, rest) ← ofOption (splitParts ((parts.map (·.1)).getD []))
  return .mapping (pairs.map (·.1)) (pairs.map (·.2)) rest

/-! ## §3. Classes. -/

/-- A part of an object, by position or by name. -/
def objectPart (r : Rules) : Parse (Option String × Pattern) := do
  let named ← optional (do
    let n ← name
    mark "="
    return n)
  return (named, ← r.pattern)

/-- An object of a class. -/
def objectPattern (r : Rules) : Parse Pattern := do
  let cls ← dotted false
  mark "("
  let parts ← optional (commaList (objectPart r))
  mark ")"
  let parts := (parts.map (·.1)).getD []
  let items := parts.takeWhile (·.1.isNone)
  let named := parts.drop items.length
  if named.any (·.1.isNone) then reject
  else return .object cls (items.map (·.2)) (named.filterMap (·.1)) (named.map (·.2))

/-! ## §4. Patterns. -/

/-- A pattern that is closed in itself. -/
def closedPattern (r : Rules) : Parse Pattern := do
  let t ← peek
  match t.kind with
  | .number => return .value (← signedNumber)
  | .string => return .value (← textLiteral r)
  | .keyword =>
    match t.text with
    | "None" => advance; return .singleton .none
    | "True" => advance; return .singleton (.bool true)
    | "False" => advance; return .singleton (.bool false)
    | _ => reject
  | .name =>
    (do return .capture none (some (← captured)))
      <|> (do
        wildcard
        if (← nextIs ".") || (← nextIs "(") then reject else return .capture none none)
      <|> (do
        let e ← dotted true
        if ← nextIs "(" then reject else return .value e)
      <|> objectPattern r
  | .mark =>
    match t.text with
    | "-" => return .value (← signedNumber)
    | "(" | "[" => enclosed r
    | "\x7b" => mappingPattern r
    | _ => reject
  | _ => reject

/-- A pattern: choices between bars, and perhaps a name for what matched. -/
def pattern (r : Rules) : Parse Pattern := do
  let first ← closedPattern r
  let rest ← many (do mark "|"; closedPattern r)
  let p := match rest with
    | [] => first
    | _ => .either (first :: rest)
  if ← tryWord "as" then
    let t ← peek
    if t.text == "_" then
      if ← diagnosing then haltAt t.line "cannot use '_' as a target" else reject
    else return .capture (some p) (some (← captured))
  else return p

/-- The pattern of a case: a sequence may go without brackets. -/
def casePattern (r : Rules) : Parse Pattern := openSequence r <|> pattern r

end TagTemplate.Script.Parse
