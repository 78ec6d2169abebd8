/-
  TagTemplate.Script.Lexer
  ────────────────────────────────
  **FROM CHARACTERS TO TOKENS.**

  Lines are joined by open brackets and by a backslash at their end.  At the
  start of every other line the indentation is measured twice, with tabs that
  reach to the next multiple of eight and with tabs as wide as a space: a
  line whose place among the open indentations differs between the two
  measures mixes tabs and spaces.

  The lexer reads a whole text at once.  `Lexer.step` takes in one piece and
  either emits a token or moves on; every step shortens the text or empties
  the queue of indentation tokens, so the fuel of `tokensOf` always suffices.
-/
import TagTemplate.Script.Token
import TagTemplate.Settings.Generating

namespace TagTemplate.Script

open Text

/-! ## §1. Numbers. -/

/-- A decimal digit. -/
def isDigit (c : Char) : Bool := '0' ≤ c && c ≤ '9'

/-- A digit of a base up to sixteen. -/
def isDigitOf (base : Nat) (c : Char) : Bool :=
  match hexDigitValue c with
  | some v => v < base
  | none => false
where
  /-- The value of a hexadecimal digit. -/
  hexDigitValue (c : Char) : Option Nat :=
    if '0' ≤ c ∧ c ≤ '9' then some (c.toNat - 48)
    else if 'a' ≤ c ∧ c ≤ 'f' then some (c.toNat - 87)
    else if 'A' ≤ c ∧ c ≤ 'F' then some (c.toNat - 55)
    else none

/-- A character that may be inside a name, before the whole name is checked. -/
def isNameLike (c : Char) : Bool := isAsciiWord c || c.toNat ≥ 128

/-- A character that may start a name, before the whole name is checked. -/
def isNameStartLike (c : Char) : Bool := isAsciiLetter c || c.toNat ≥ 128

/-- The rest behind digits, where single underscores may separate them; nothing if an underscore has
no digit behind it. -/
def digitsTail (ok : Char → Bool) : List Char → Option (List Char)
  | [] => some []
  | c :: rest =>
    if ok c then digitsTail ok rest
    else if c == '_' then
      match rest with
      | d :: _ => if ok d then digitsTail ok rest else none
      | [] => none
    else some (c :: rest)

/-- The words that may follow a number without a blank, whatever comes behind their letters. -/
def openWordsBehindNumbers : List (List Char) := ["if", "in", "is"].map String.toList

/-- The words that may follow a number without a blank. -/
def wordsBehindNumbers : List (List Char) :=
  ["and", "else", "for", "or", "not"].map String.toList

/-- Whether a number may end before this text. -/
def endsNumber (s : List Char) : Bool :=
  match s with
  | c :: _ =>
    !isNameLike c || c.toNat ≥ 128 || openWordsBehindNumbers.any (startsWith · s)
      || wordsBehindNumbers.any fun w =>
        match dropStart? w s with
        | some rest => !(rest.head?.map isNameLike).getD false
        | none => false
  | [] => true

/-- The rest behind a number, if it ends properly there. -/
def closeNumber (kind : String) (s : List Char) : Except String (List Char) :=
  if endsNumber s then .ok s else .error ("invalid " ++ kind ++ " literal")

/-- What is said about digits that do not go on as they should. -/
def invalidDecimal : String := "invalid decimal literal"

/-- The rest behind the letter of an imaginary number or behind a plain number. -/
def imaginaryEnd (s : List Char) : Except String (List Char) :=
  match s with
  | c :: rest =>
    if c == 'j' || c == 'J' then closeNumber "imaginary" rest else closeNumber "decimal" s
  | [] => .ok []

/-- The rest behind an exponent, which may be absent. -/
def exponentEnd (s : List Char) : Except String (List Char) :=
  match s with
  | e :: rest =>
    if e == 'e' || e == 'E' then
      let (signed, digits) := match rest with
        | c :: more => if c == '+' || c == '-' then (true, more) else (false, rest)
        | [] => (false, rest)
      match digits with
      | d :: _ =>
        if isDigit d then
          match digitsTail isDigit digits with
          | some after => imaginaryEnd after
          | none => .error invalidDecimal
        else if signed then .error invalidDecimal
        else closeNumber "decimal" s
      | [] => if signed then .error invalidDecimal else closeNumber "decimal" s
    else imaginaryEnd s
  | [] => .ok []

/-- The rest behind the digits after a point. -/
def fractionEnd (s : List Char) : Except String (List Char) :=
  match s with
  | d :: _ =>
    if isDigit d then
      match digitsTail isDigit s with
      | some after => exponentEnd after
      | none => .error invalidDecimal
    else exponentEnd s
  | [] => .ok []

/-- The rest behind the digits of a number whose base is written. -/
def basedEnd (kind : String) (base : Nat) (s : List Char) : Except String (List Char) :=
  let invalid := .error ("invalid " ++ kind ++ " literal")
  let digits := match s with
    | '_' :: rest => rest
    | _ => s
  match digits with
  | d :: _ =>
    if isDigitOf base d then
      match digitsTail (isDigitOf base) digits with
      | some after =>
        if (after.head?.map isDigit).getD false then invalid else closeNumber kind after
      | none => invalid
    else invalid
  | [] => invalid

/-- The rest behind a number that starts with a zero. -/
def zeroEnd (s : List Char) : Except String (List Char) :=
  match digitsTail (· == '0') s with
  | none =>
    -- an underscore with another digit behind it
    match digitsTail isDigit s with
    | some after => leadingZero after
    | none => .error invalidDecimal
  | some after =>
    match after with
    | c :: _ =>
      if isDigit c then
        match digitsTail isDigit after with
        | some more => leadingZero more
        | none => .error invalidDecimal
      else plain after
    | [] => .ok []
where
  /-- A point, an exponent or an imaginary part may follow; then the zeros do no harm. -/
  plain (s : List Char) : Except String (List Char) :=
    match s with
    | '.' :: rest => fractionEnd rest
    | _ => exponentEnd s
  /-- Digits other than zero came behind a zero. -/
  leadingZero (s : List Char) : Except String (List Char) :=
    match s with
    | c :: _ =>
      if c == '.' || c == 'e' || c == 'E' || c == 'j' || c == 'J' then plain s
      else .error "leading zeros in decimal integer literals are not permitted"
    | [] => .error "leading zeros in decimal integer literals are not permitted"

/-- The rest behind a number that starts with a digit. -/
def numberEnd (s : List Char) : Except String (List Char) :=
  match s with
  | '0' :: b :: rest =>
    if b == 'x' || b == 'X' then basedEnd "hexadecimal" 16 rest
    else if b == 'o' || b == 'O' then basedEnd "octal" 8 rest
    else if b == 'b' || b == 'B' then basedEnd "binary" 2 rest
    else zeroEnd (b :: rest)
  | _ =>
    match digitsTail isDigit s with
    | some ('.' :: rest) => fractionEnd rest
    | some after => exponentEnd after
    | none => .error invalidDecimal

/-! ## §2. Strings. -/

/-- Whether letters before a quote, in lower case, belong to a string. -/
def isStringMark (letters : List Char) : Bool :=
  ["", "b", "r", "u", "f", "br", "rb", "fr", "rf"].any (·.toList == letters)

/-- The letters before a quote and the text from the quote on, if a string starts here. -/
def stringStart? (s : List Char) : Option (List Char × List Char) :=
  [0, 1, 2].findSome? fun n =>
    match s.drop n with
    | c :: rest =>
      let letters := (s.take n).map (·.toLower)
      if (c == '\'' || c == '"') && isStringMark letters then some (letters, c :: rest) else none
    | [] => none

/-- The rest behind a string between single quotes, with the number of line ends in it. -/
def shortString (quote : Char) : List Char → Nat → Option (List Char × Nat)
  | '\\' :: c :: rest, n => shortString quote rest (if c == '\n' then n + 1 else n)
  | c :: rest, n =>
    if c == quote then some (rest, n)
    else if c == '\n' then none
    else shortString quote rest n
  | [], _ => none

/-- The rest behind a string between triple quotes, with the number of line ends in it. -/
def longString (quote : Char) : List Char → Nat → Option (List Char × Nat)
  | '\\' :: c :: rest, n => longString quote rest (if c == '\n' then n + 1 else n)
  | a :: rest, n =>
    match rest with
    | b :: c :: more =>
      if a == quote && b == quote && c == quote then some (more, n)
      else longString quote rest (if a == '\n' then n + 1 else n)
    | _ => longString quote rest (if a == '\n' then n + 1 else n)
  | [], _ => none

/-- The rest behind a string that starts with its quote. -/
def stringEnd (s : List Char) : Option (List Char × Nat) :=
  match s with
  | a :: b :: c :: rest =>
    if a == b && b == c then longString a rest 0
    else if a == b then some (c :: rest, 0)
    else shortString a (b :: c :: rest) 0
  | [a, b] => if a == b then some ([], 0) else none
  | _ => none

/-! ## §3. Marks. -/

/-- The marks of several characters, longer ones first. -/
def longMarks : List (List Char) :=
  ["**=", "//=", ">>=", "<<=", "...", "!=", "%=", "&=", "**", "*=", "+=", "-=", "->", "//", "/=",
    ":=", "<<", "<=", "<>", "==", ">=", ">>", "@=", "^=", "|="].map String.toList

/-- The mark at the start of a text. -/
def markOf (s : List Char) : List Char :=
  match longMarks.find? (startsWith · s) with
  | some m => m
  | none => s.take 1

/-- Whether a bracket closes another. -/
def bracketsMatch (opening closing : Char) : Bool :=
  (opening == '(' && closing == ')') || (opening == '[' && closing == ']')
    || (opening == '\x7b' && closing == '\x7d')

/-! ## §4. The state. -/

/-- What has been read so far. -/
structure Lexer where
  /-- The characters to come. -/
  rest : List Char
  /-- The number of line ends read, plus one. -/
  line : Nat := 1
  /-- The first of the lines read as one with this one. -/
  shownFrom : Nat := 1
  /-- At the start of a line. -/
  fresh : Bool := true
  /-- On a line without code. -/
  blank : Bool := false
  /-- The open indentations in both measures, innermost first. -/
  indents : List (Nat × Nat) := []
  /-- Indentation tokens to emit. -/
  queue : List TokenKind := []
  /-- The open brackets with their lines, innermost first. -/
  brackets : List (Char × Nat) := []

namespace Lexer

/-- The deepest indentation. -/
def maxIndents : Nat := 100

/-- The deepest nesting of brackets. -/
def maxBrackets : Nat := 200

/-- The line that is being read; behind the last line end it is still the last line. -/
def here (l : Lexer) : Nat := if l.rest.isEmpty then l.line - 1 else l.line

/-- The ending for a flaw on a given line. -/
def flawAt (l : Lexer) (flaw : Flaw) (line : Nat) : Ending :=
  ⟨some flaw, line, l.here, l.shownFrom, l.brackets.head?.map (·.2)⟩

/-- The ending for a flaw on the line that is being read. -/
def flaw (l : Lexer) (flaw : Flaw) : Ending := l.flawAt flaw l.here

/-- A token of the given kind and text that ends where `after` is. -/
def emit (l after : Lexer) (kind : TokenKind) (text : List Char) : Token :=
  ⟨kind, String.ofList text, l.here, after.here, after.shownFrom, after.brackets.length⟩

/-- Read over a line end. -/
def newLine (l : Lexer) (rest : List Char) : Lexer :=
  { l with
    rest, line := l.line + 1, fresh := true, blank := false
    shownFrom := if rest.isEmpty then l.shownFrom else l.line + 1 }

/-! ## §5. Indentation. -/

/-- A line's indentation. -/
structure Margin where
  /-- With tabs to multiples of eight. -/
  wide : Nat := 0
  /-- With tabs as wide as a space. -/
  narrow : Nat := 0
  /-- The first indentation that a backslash ended, or zero. -/
  fixed : Nat := 0

/-- Measure the indentation and read over it. -/
def measure (l : Lexer) : List Char → Nat → Margin → Except Ending (Lexer × Margin)
  | ' ' :: rest, line, m => measure l rest line { m with wide := m.wide + 1, narrow := m.narrow + 1 }
  | '\t' :: rest, line, m =>
    measure l rest line { m with wide := (m.wide / 8 + 1) * 8, narrow := m.narrow + 1 }
  | '\x0c' :: rest, line, m => measure l rest line { m with wide := 0, narrow := 0 }
  | '\\' :: '\n' :: rest, line, m =>
    let next := { l with rest, line := line + 1, shownFrom := line + 1 }
    if rest.isEmpty then .error ({ next with shownFrom := line }.flaw .overEarly)
    else measure l rest (line + 1) { m with fixed := if m.fixed == 0 then m.wide else m.fixed }
  | '\\' :: rest, line, _ => .error ({ l with rest := '\\' :: rest, line, shownFrom := line }.flaw .continuation)
  | rest, line, m =>
    .ok ({ l with
      rest, line, fresh := false, shownFrom := if rest.isEmpty then l.shownFrom else line }, m)

/-- Leave every indentation that is wider; count them. -/
def leave (wide : Nat) : List (Nat × Nat) → List (Nat × Nat) × Nat
  | (w, n) :: rest =>
    if wide < w then
      let (kept, count) := leave wide rest
      (kept, count + 1)
    else ((w, n) :: rest, 0)
  | [] => ([], 0)

/-- Place a line among the open indentations. -/
def place (l : Lexer) (m : Margin) : Except Ending Lexer :=
  let wide := if m.fixed == 0 then m.wide else m.fixed
  let narrow := if m.fixed == 0 then m.narrow else m.fixed
  let (topWide, topNarrow) := l.indents.headD (0, 0)
  if wide == topWide then
    if narrow == topNarrow then .ok l else .error (l.flaw .tabs)
  else if wide > topWide then
    if l.indents.length + 1 ≥ maxIndents then .error (l.flaw .tooDeep)
    else if narrow ≤ topNarrow then .error (l.flaw .tabs)
    else .ok { l with indents := (wide, narrow) :: l.indents, queue := [.indent] }
  else
    let (indents, count) := leave wide l.indents
    let (topWide, topNarrow) := indents.headD (0, 0)
    if wide != topWide then .error (l.flaw .unindent)
    else if narrow != topNarrow then .error (l.flaw .tabs)
    else .ok { l with indents, queue := List.replicate count .dedent }

/-- Begin a line. -/
def beginLine (l : Lexer) : Except Ending Lexer := do
  let (l, m) ← measure l l.rest l.line {}
  let blank := match l.rest with
    | c :: _ => c == '#' || c == '\n'
    | [] => false
  let l := { l with blank }
  if blank || !l.brackets.isEmpty then return l else place l m

/-! ## §6. One step. -/

/-- What a step yields. -/
inductive Outcome where
  /-- A token. -/
  | token (t : Token) (next : Lexer)
  /-- Nothing yet. -/
  | again (next : Lexer)
  /-- The tokens are over. -/
  | done (ending : Ending)

/-- Take in a name or a reserved word. -/
def nameStep (l : Lexer) : Outcome :=
  let word := l.rest.takeWhile isNameLike
  let text := String.ofList word
  let next := { l with rest := l.rest.dropWhile isNameLike }
  if word.all (·.toNat < 128) || isIdentifier text then
    .token (l.emit next (if isKeyword text then .keyword else .name) word) next
  else .done (l.flaw (.malformed "invalid character"))

/-- Take in a number. -/
def numberStep (l : Lexer) (result : Except String (List Char)) : Outcome :=
  match result with
  | .ok rest =>
    let next := { l with rest }
    .token (l.emit next .number (l.rest.take (l.rest.length - rest.length))) next
  | .error text => .done (l.flaw (.malformed text))

/-- Take in a string that starts behind some letters. -/
def stringStep (l : Lexer) (body : List Char) : Outcome :=
  match stringEnd body with
  | some (rest, lines) =>
    let next := { l with rest, line := l.line + lines }
    .token (l.emit next .string (l.rest.take (l.rest.length - rest.length))) next
  | none => .done (l.flaw (.malformed "unterminated string literal"))

/-- Take in a bracket or another mark. -/
def markStep (l : Lexer) (mark : List Char) : Outcome :=
  let next := { l with rest := l.rest.drop mark.length }
  match mark with
  | [c] =>
    if c == '(' || c == '[' || c == '\x7b' then
      if l.brackets.length ≥ maxBrackets then .done (l.flaw (.malformed "too many nested parentheses"))
      else
        let next := { next with brackets := (c, l.line) :: l.brackets }
        .token (l.emit next .mark mark) next
    else if c == ')' || c == ']' || c == '\x7d' then
      match l.brackets with
      | (opening, _) :: rest =>
        if bracketsMatch opening c then
          let next := { next with brackets := rest }
          .token (l.emit next .mark mark) next
        else .done (l.flaw (.malformed "closing parenthesis does not match"))
      | [] => .done (l.flaw (.malformed "unmatched parenthesis"))
    else if isPrintable c then .token (l.emit next .mark mark) next
    else .done (l.flaw (.malformed "invalid non-printable character"))
  | _ => .token (l.emit next .mark mark) next

/-- Take in a backslash outside of strings. -/
def continueStep (l : Lexer) : Outcome :=
  match l.rest.drop 1 with
  | '\n' :: rest =>
    let next := { l with rest, line := l.line + 1 }
    if rest.isEmpty then .done (next.flaw .overEarly) else .again next
  | _ => .done (l.flaw .continuation)

/-- Whether a number starts here with its point. -/
def startsWithPoint (s : List Char) : Bool :=
  match s with
  | '.' :: d :: _ => isDigit d
  | _ => false

/-- Take in the next token of a line. -/
def lineStep (l : Lexer) : Outcome :=
  let isGap (c : Char) : Bool := c == ' ' || c == '\t' || c == '\x0c'
  let l := { l with rest := l.rest.dropWhile isGap }
  let l := if l.rest.head? == some '#' then { l with rest := l.rest.dropWhile (· != '\n') } else l
  match l.rest with
  | [] =>
    if l.brackets.isEmpty then
      .token (l.emit l .finish []) { l with fresh := false, queue := [.finish] }
    else .done (l.flaw .overEarly)
  | '\n' :: rest =>
    let next := l.newLine rest
    if l.blank || !l.brackets.isEmpty then .again next
    else .token ⟨.newline, "", l.line, l.line, l.shownFrom, 0⟩ next
  | '\\' :: _ => l.continueStep
  | c :: _ =>
    match stringStart? l.rest with
    | some (_, body) => l.stringStep body
    | none =>
      if isNameStartLike c then l.nameStep
      else if isDigit c then l.numberStep (numberEnd l.rest)
      else if startsWithPoint l.rest then l.numberStep (fractionEnd (l.rest.drop 1))
      else l.markStep (markOf l.rest)

/-- One step. -/
def step (l : Lexer) : Outcome :=
  match l.queue with
  | .finish :: _ => .done { line := l.here, lastLine := l.here, shownFrom := l.shownFrom }
  | kind :: queue =>
    let next := { l with queue }
    .token (l.emit next kind []) next
  | [] =>
    if l.fresh then
      match l.beginLine with
      | .ok next => .again next
      | .error e => .done e
    else l.lineStep

/-- All steps. -/
def run : Nat → Lexer → Array Token → Array Token × Ending
  | 0, l, tokens => (tokens, l.flaw .overEarly)
  | fuel + 1, l, tokens =>
    match l.step with
    | .token t next => run fuel next (tokens.push t)
    | .again next => run fuel next tokens
    | .done ending => (tokens, ending)

end Lexer

/-! ## §7. A whole text. -/

/-- A text with single newlines for line ends and one at its very end. -/
def preparedText (s : List Char) : List Char :=
  let s := unifyNewlines s
  if s.getLast? == some '\n' then s else s ++ ['\n']

/-- The tokens of a prepared text whose first line has the given number. -/
def tokensOf (s : List Char) (firstLine : Nat) : Array Token × Ending :=
  (Lexer.run (4 * s.length + 16) { rest := s, line := firstLine, shownFrom := firstLine } #[])

end TagTemplate.Script
