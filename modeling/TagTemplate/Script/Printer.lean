/-
  TagTemplate.Script.Printer
  ────────────────────────────────
  **FROM TREES TO CODE.**

  Writes a tree as code that parses to the same tree.  Every expression is
  written at a level of binding (`Level`): where it binds less tightly than
  its place asks for, it goes between parentheses.

  Inside the braces of a string no backslash may stand.  A text that cannot
  be written without one makes the whole result unsound (`Doc.sound`).
-/
import TagTemplate.Script.Tree
import TagTemplate.Text.Lines
import TagTemplate.Text.Quoted

namespace TagTemplate.Script.Printer

open Text

/-! ## §1. Documents. -/

/-- Code under construction. -/
structure Doc where
  /-- The characters. -/
  text : String
  /-- Everything could be written. -/
  sound : Bool := true
  deriving Inhabited

instance : Append Doc := ⟨fun a b => ⟨a.text ++ b.text, a.sound && b.sound⟩⟩

instance : Coe String Doc := ⟨fun s => ⟨s, true⟩⟩

/-- Pieces with a separator between them. -/
def Doc.join (sep : String) (ds : List Doc) : Doc :=
  ⟨sep.intercalate (ds.map (·.text)), ds.all (·.sound)⟩

/-- Pieces between commas; a lone one is followed by a comma. -/
def Doc.items : List Doc → Doc
  | [d] => d ++ ↑","
  | ds => Doc.join ", " ds

/-- Pieces one after the other. -/
def Doc.concat (ds : List Doc) : Doc := Doc.join "" ds

/-- Between parentheses, if asked for. -/
def Doc.parens (needed : Bool) (d : Doc) : Doc := if needed then (↑"(" : Doc) ++ d ++ ↑")" else d

/-! ## §2. Levels of binding. -/

/-- How tightly something binds, from loose to tight. -/
abbrev Level := Nat

namespace Level

/-- A bound value. -/
def named : Level := 1
/-- A tuple. -/
def tuple : Level := 2
/-- A value handed out. -/
def yield : Level := 3
/-- A choice or a function. -/
def test : Level := 4
/-- Operands of `or`. -/
def disj : Level := 5
/-- Operands of `and`. -/
def conj : Level := 6
/-- Operands of `not`. -/
def not : Level := 7
/-- Comparisons. -/
def compare : Level := 8
/-- Operands of comparisons. -/
def operand : Level := 9
/-- Signs. -/
def factor : Level := 15
/-- Powers. -/
def power : Level := 16
/-- Waiting. -/
def await : Level := 17
/-- Atoms. -/
def atom : Level := 18

/-- The next tighter level. -/
def next (l : Level) : Level := min (l + 1) atom

/-- The level of an operator between operands. -/
def ofBinary : BinaryOp → Level
  | .bitOr => 9
  | .bitXor => 10
  | .bitAnd => 11
  | .shiftLeft | .shiftRight => 12
  | .add | .sub => 13
  | .mul | .matMul | .div | .mod | .floorDiv => 14
  | .pow => power

/-- The level of an operator before its operand. -/
def ofUnary : UnaryOp → Level
  | .not => not
  | _ => factor

end Level

/-! ## §3. Operators. -/

/-- The mark of an operator between operands. -/
def binaryText : BinaryOp → String
  | .add => "+"
  | .sub => "-"
  | .mul => "*"
  | .matMul => "@"
  | .div => "/"
  | .mod => "%"
  | .shiftLeft => "<<"
  | .shiftRight => ">>"
  | .bitOr => "|"
  | .bitXor => "^"
  | .bitAnd => "&"
  | .floorDiv => "//"
  | .pow => "**"

/-- The mark of an operator before its operand, with the space a word needs. -/
def unaryText : UnaryOp → String
  | .invert => "~"
  | .not => "not "
  | .plus => "+"
  | .minus => "-"

/-- The mark of a comparison. -/
def compareText : CompareOp → String
  | .eq => "=="
  | .ne => "!="
  | .lt => "<"
  | .le => "<="
  | .gt => ">"
  | .ge => ">="
  | .same => "is"
  | .notSame => "is not"
  | .member => "in"
  | .notMember => "not in"

/-! ## §4. Literals. -/

/-- The quotes a string may stand between. -/
def allQuotes : List String := ["'", "\"", "\"\"\"", "'''"]

/-- The quotes of long strings. -/
def longQuotes : List String := ["\"\"\"", "'''"]

/-- A character in the middle of a string whose quotes are not known yet. -/
def innerChar (all : Bool) (c : Char) : List Char :=
  if !all && (c == '\n' || c == '\t') then [c]
  else if c == '\\' then ['\\', '\\']
  else if c == '\n' then ['\\', 'n']
  else if c == '\r' then ['\\', 'r']
  else if c == '\t' then ['\\', 't']
  else if isPrintable c then [c]
  else escapeCode c

/-- Whether a text occurs in another. -/
def occursIn (needle : String) (s : List Char) : Bool := (indexOf? needle.toList s).isSome

/-- Escape the last character if it is the quote that closes the string. -/
def guardEnd (quote : String) (s : List Char) : List Char :=
  match s.reverse with
  | c :: rest => if quote.toList.head? == some c then (c :: '\\' :: rest).reverse else s
  | [] => s

/-- The characters of a string with as few escapes as possible, and the quotes that fit.  `all` escapes
line ends and tabs too. -/
def fewEscapes (s : String) (quotes : List String) (all : Bool) : List Char × List String :=
  let body := s.toList.flatMap (innerChar all)
  let fits := if body.contains '\n' then quotes.filter (·.length == 3) else quotes
  match fits.filter fun q => !occursIn q body with
  | [] =>
    let inner := quotedChars s.toList
    let quote := inner.headD '\''
    let chosen := (quotes.find? (·.toList.contains quote)).getD (String.singleton quote)
    (inner.drop 1 |>.dropLast, [chosen])
  | possible =>
    match body.getLast? with
    | none => (body, possible)
    | some last =>
      let clashes (q : String) : Bool := q.toList.head? == some last
      let sorted := possible.filter (!clashes ·) ++ possible.filter clashes
      (guardEnd (sorted.headD "'") body, sorted)

/-- A string with as few escapes as possible. -/
def sparingly (s : String) (quotes : List String) : String :=
  let (body, fits) := fewEscapes s quotes false
  let q := fits.headD "'"
  q ++ String.ofList body ++ q

/-- A byte in a sequence of bytes. -/
def byteText (quote : Char) (b : Nat) : List Char :=
  let c := Char.ofNat b
  if c == quote || c == '\\' then ['\\', c]
  else if c == '\t' then ['\\', 't']
  else if c == '\n' then ['\\', 'n']
  else if c == '\r' then ['\\', 'r']
  else if 32 ≤ b && b < 127 then [c]
  else '\\' :: 'x' :: hexText 2 b

/-- A sequence of bytes. -/
def bytesText (bs : List Nat) : String :=
  let quote := if bs.contains 39 && !bs.contains 34 then '"' else '\''
  String.ofList ('b' :: quote :: bs.flatMap (byteText quote) ++ [quote])

/-- A literal; `tight` avoids backslashes. -/
def constantText (tight : Bool) : Constant → String
  | .none => "None"
  | .bool b => if b then "True" else "False"
  | .ellipsis => "..."
  | .int n => toString n
  | .decimal text => text
  | .str s marked =>
    (if marked then "u" else "") ++ (if tight then sparingly s allQuotes else quoted s)
  | .bytes bs => bytesText bs

/-- A number needs a space before the dot of a member. -/
def needsSpace : Expr → Bool
  | .constant (.int _) | .constant (.bool _) => true
  | _ => false

/-! ## §5. Strings with expressions in them. -/

/-- Braces of plain text are doubled. -/
def doubledBraces (s : String) : String :=
  String.ofList (s.toList.flatMap fun c => if c == '\x7b' || c == '\x7d' then [c, c] else [c])

/-- An expression between braces. -/
def braceDoc (value : Doc) (conversion : Option Char) (spec : Option Doc) : Doc :=
  let value : Doc := ⟨value.text, value.sound && !value.text.toList.contains '\\'⟩
  let gap := if value.text.startsWith "\x7b" then " " else ""
  let conversion := match conversion with
    | some c => "!" ++ String.singleton c
    | none => ""
  (↑("\x7b" ++ gap) : Doc) ++ value ++ ↑conversion
    ++ (match spec with
      | some d => (↑":" : Doc) ++ d
      | none => (↑"" : Doc))
    ++ ↑"\x7d"

/-- A piece of a string with expressions, and whether it is plain text. -/
abbrev Piece := Doc × Bool

/-- The pieces with as few escapes as possible, while the quotes left fit each of them. -/
def fitPieces : List Piece → List String → Option (List Char × List String)
  | [], quotes => some ([], quotes)
  | (d, plain) :: rest, quotes =>
    let (body, fits) := fewEscapes d.text quotes plain
    if fits.any quotes.contains then
      (fitPieces rest fits).map fun (more, last) => (body ++ more, last)
    else none

/-- A string with expressions. -/
def joinedDoc (pieces : List Piece) : Doc :=
  let sound := pieces.all (·.1.sound)
  match fitPieces pieces allQuotes with
  | some (body, quotes) =>
    let q := quotes.headD "'"
    ⟨"f" ++ q ++ String.ofList body ++ q, sound⟩
  | none =>
    let body := pieces.flatMap fun (d, _) => d.text.toList.flatMap (escapeChar '\'')
    ⟨"f'''" ++ String.ofList body ++ "'''", sound⟩

/-! ## §6. Expressions. -/

/-- Parameters, from their texts with what they stand for: a slash follows the positional ones, and a
star precedes the named ones unless another has come. -/
def paramsDoc (ps : List (ParamKind × Doc)) : Doc :=
  let kinds := ps.map (·.1)
  let slash := (ps.filter (·.1 == .positional)).map (·.2)
  let ordinary := (ps.filter (·.1 == .ordinary)).map (·.2)
  let gathered := (ps.filter (·.1 == .gather)).map fun p => (↑"*" : Doc) ++ p.2
  let named := (ps.filter (·.1 == .named)).map (·.2)
  let rest := (ps.filter (·.1 == .gatherNamed)).map fun p => (↑"**" : Doc) ++ p.2
  Doc.join ", "
    (slash ++ (if slash.isEmpty then [] else [(↑"/" : Doc)]) ++ ordinary
      ++ (if gathered.isEmpty && kinds.contains .named then [(↑"*" : Doc)] else gathered)
      ++ named ++ rest)

/-- The brackets of a comprehension. -/
def compBrackets : CompKind → String × String
  | .list => ("[", "]")
  | .set => ("\x7b", "\x7d")
  | .generator => ("(", ")")

mutual

/-- An expression at a level; `tight` avoids backslashes. -/
def expr (tight : Bool) (level : Level) : Expr → Doc
  | .boolOp op values =>
    let (text, own) := match op with
      | .conj => (" and ", Level.conj)
      | .disj => (" or ", Level.disj)
    (Doc.join text (rising tight own values)).parens (level > own)
  | .named target value =>
    ((↑(target ++ " := ") : Doc) ++ expr tight .atom value).parens (level > Level.named)
  | .binary op left right =>
    let own := Level.ofBinary op
    let (l, r) := if op == .pow then (own.next, own) else (own, own.next)
    (expr tight l left ++ ↑(" " ++ binaryText op ++ " ") ++ expr tight r right).parens (level > own)
  | .unary op operand =>
    let own := Level.ofUnary op
    ((↑(unaryText op) : Doc) ++ expr tight own operand).parens (level > own)
  | .lambda ps body =>
    let ps := paramsDoc (params tight ps)
    let head : Doc := if ps.text.isEmpty then ↑"lambda" else (↑"lambda " : Doc) ++ ps
    (head ++ ↑": " ++ expr tight .test body).parens (level > Level.test)
  | .ifElse test body orElse =>
    (expr tight Level.test.next body ++ ↑" if " ++ expr tight Level.test.next test ++ ↑" else "
      ++ expr tight .test orElse).parens (level > Level.test)
  | .dict entries => (↑"\x7b" : Doc) ++ Doc.join ", " (entryDocs tight entries) ++ ↑"\x7d"
  | .set items =>
    if items.isEmpty then ↑"\x7b*()\x7d"
    else (↑"\x7b" : Doc) ++ Doc.join ", " (exprs tight items) ++ ↑"\x7d"
  | .comp kind item clauses _ =>
    let (opening, closing) := compBrackets kind
    (↑opening : Doc) ++ expr tight .test item ++ Doc.concat (clauseDocs tight clauses) ++ ↑closing
  | .dictComp key value clauses _ =>
    (↑"\x7b" : Doc) ++ expr tight .test key ++ ↑": " ++ expr tight .test value
      ++ Doc.concat (clauseDocs tight clauses) ++ ↑"\x7d"
  | .await value _ => ((↑"await " : Doc) ++ expr tight .atom value).parens (level > Level.await)
  | .yield none _ => (↑"yield" : Doc).parens (level > Level.yield)
  | .yield (some value) _ =>
    ((↑"yield " : Doc) ++ expr tight .atom value).parens (level > Level.yield)
  | .yieldFrom value _ =>
    ((↑"yield from " : Doc) ++ expr tight .atom value).parens (level > Level.yield)
  | .compare left rest =>
    (expr tight Level.compare.next left ++ Doc.concat (comparisonDocs tight rest)).parens
      (level > Level.compare)
  | .call func args keywords =>
    expr tight .atom func ++ ↑"("
      ++ Doc.join ", " (exprs tight args ++ keywordDocs tight keywords) ++ ↑")"
  | .joined pieces =>
    if tight then
      let inner := Doc.concat ((pieceDocs pieces).map (·.1))
      ⟨"f" ++ sparingly inner.text allQuotes, inner.sound⟩
    else joinedDoc (pieceDocs pieces)
  | .formatted value conversion none =>
    braceDoc (expr true Level.test.next value) conversion none
  | .formatted value conversion (some pieces) =>
    braceDoc (expr true Level.test.next value) conversion
      (some (Doc.concat ((pieceDocs pieces).map (·.1))))
  | .constant c => ↑(constantText tight c)
  | .attribute value name =>
    expr tight .atom value ++ ↑((if needsSpace value then " ." else ".") ++ name)
  | .subscript value (.tuple (item :: items)) =>
    expr tight .atom value ++ ↑"[" ++ Doc.items (expr tight .test item :: exprs tight items) ++ ↑"]"
  | .subscript value index => expr tight .atom value ++ ↑"[" ++ expr tight .test index ++ ↑"]"
  | .starred value _ => (↑"*" : Doc) ++ expr tight .operand value
  | .name id _ => ↑id
  | .list items => (↑"[" : Doc) ++ Doc.join ", " (exprs tight items) ++ ↑"]"
  | .tuple items =>
    (Doc.items (exprs tight items)).parens (items.isEmpty || level > Level.tuple)
  | .slice lower upper step =>
    optional tight "" lower ++ ↑":" ++ optional tight "" upper ++ optional tight ":" step

/-- An expression that may be absent, behind a mark. -/
def optional (tight : Bool) (before : String) : Option Expr → Doc
  | none => ↑""
  | some e => (↑before : Doc) ++ expr tight .test e

/-- Expressions that stand for themselves. -/
def exprs (tight : Bool) : List Expr → List Doc
  | [] => []
  | e :: rest => expr tight .test e :: exprs tight rest

/-- Operands, each at a tighter level than the one before. -/
def rising (tight : Bool) (level : Level) : List Expr → List Doc
  | [] => []
  | e :: rest => expr tight level.next e :: rising tight level.next rest

/-- The entries of a mapping. -/
def entryDocs (tight : Bool) : List Entry → List Doc
  | [] => []
  | .item key value :: rest =>
    (expr tight .test key ++ ↑": " ++ expr tight .test value) :: entryDocs tight rest
  | .spread value :: rest => ((↑"**" : Doc) ++ expr tight .operand value) :: entryDocs tight rest

/-- The steps of a chain of comparisons. -/
def comparisonDocs (tight : Bool) : List Comparison → List Doc
  | [] => []
  | .mk op right :: rest =>
    ((↑(" " ++ compareText op ++ " ") : Doc) ++ expr tight Level.compare.next right)
      :: comparisonDocs tight rest

/-- Named arguments. -/
def keywordDocs (tight : Bool) : List Keyword → List Doc
  | [] => []
  | .mk name value _ :: rest =>
    ((↑(match name with
      | some n => n ++ "="
      | none => "**") : Doc) ++ expr tight .test value) :: keywordDocs tight rest

/-- The clauses of a comprehension. -/
def clauseDocs (tight : Bool) : List Clause → List Doc
  | [] => []
  | .mk isAsync target iter conditions :: rest =>
    ((↑(if isAsync then " async for " else " for ") : Doc) ++ expr tight .tuple target ++ ↑" in "
      ++ expr tight Level.test.next iter ++ Doc.concat (conditionDocs tight conditions))
      :: clauseDocs tight rest

/-- The conditions of a clause. -/
def conditionDocs (tight : Bool) : List Expr → List Doc
  | [] => []
  | e :: rest => ((↑" if " : Doc) ++ expr tight Level.test.next e) :: conditionDocs tight rest

/-- Parameters with their types and default values. -/
def params (tight : Bool) : List Param → List (ParamKind × Doc)
  | [] => []
  | .mk kind name type dflt :: rest =>
    (kind, (↑name : Doc) ++ optional tight ": " type ++ optional tight "=" dflt)
      :: params tight rest

/-- The pieces of a string with expressions. -/
def pieceDocs : List Expr → List Piece
  | [] => []
  | .constant (.str s _) :: rest => (↑(doubledBraces s), true) :: pieceDocs rest
  | e :: rest => (expr true .test e, false) :: pieceDocs rest

end

/-! ## §7. Patterns. -/

mutual

/-- A pattern at a level. -/
def pattern (level : Level) : Pattern → Doc
  | .value e => expr false .test e
  | .singleton c => ↑(constantText false c)
  | .sequence items => (↑"[" : Doc) ++ Doc.join ", " (patterns .test items) ++ ↑"]"
  | .star name => ↑("*" ++ name.getD "_")
  | .mapping keys items rest =>
    let rest := rest.toList.map fun n => (↑("**" ++ n) : Doc)
    (↑"\x7b" : Doc) ++ Doc.join ", " (pairDocs (exprs false keys) (patterns .test items) ++ rest)
      ++ ↑"\x7d"
  | .object cls items names named =>
    expr false .atom cls ++ ↑"("
      ++ Doc.join ", " (patterns .test items ++ namedDocs names (patterns .test named)) ++ ↑")"
  | .capture none none => ↑"_"
  | .capture none (some name) => ↑name
  | .capture (some _) none => ↑"_"
  | .capture (some inner) (some name) =>
    (pattern .operand inner ++ ↑(" as " ++ name)).parens (level > Level.test)
  | .either choices =>
    (Doc.join " | " (patterns Level.operand.next choices)).parens (level > Level.operand)

/-- Patterns at a level. -/
def patterns (level : Level) : List Pattern → List Doc
  | [] => []
  | p :: rest => pattern level p :: patterns level rest

/-- Keys with their patterns. -/
def pairDocs : List Doc → List Doc → List Doc
  | k :: ks, p :: ps => (k ++ ↑": " ++ p) :: pairDocs ks ps
  | _, _ => []

/-- Names with their patterns. -/
def namedDocs : List String → List Doc → List Doc
  | n :: ns, p :: ps => ((↑(n ++ "=") : Doc) ++ p) :: namedDocs ns ps
  | _, _ => []

end

end TagTemplate.Script.Printer
