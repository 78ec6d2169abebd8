/-
  TagTemplate.Block.Opener
  ────────────────────────────────
  **DOES A STATEMENT OPEN A BLOCK?**

  A statement opens a block when its last significant token is a colon.  The
  text is cut into tokens line by line: names, numbers, strings, operators;
  comments and line ends do not count, and a character that fits nowhere is a
  token of its own.  A text that ends inside a bracket or a string, or whose
  indentation cannot be matched, has no last token; then its last character
  decides.

  The tokens are told apart only as far as the question needs: a lone colon,
  or anything else.
-/
import TagTemplate.Text.Lines
import TagTemplate.Text.Classes

namespace TagTemplate.Block

open Text

/-! ## §1. Numbers. -/

/-- The rest behind digits that single underscores may separate; the first digit has been read. -/
def digitsRest (ok : Char → Bool) : List Char → List Char
  | '_' :: c :: rest => if ok c then digitsRest ok rest else '_' :: c :: rest
  | c :: rest => if ok c then digitsRest ok rest else c :: rest
  | [] => []

/-- The rest behind at least one digit. -/
def digits? (ok : Char → Bool) : List Char → Option (List Char)
  | c :: rest => if ok c then some (digitsRest ok rest) else none
  | [] => none

/-- The rest behind digits after a base letter, each of which an underscore may precede. -/
def basedDigits? (ok : Char → Bool) : List Char → Option (List Char)
  | '_' :: c :: rest => if ok c then some (digitsRest ok rest) else none
  | s => digits? ok s

/-- A decimal digit. -/
def isDigit (c : Char) : Bool := '0' ≤ c && c ≤ '9'

/-- A hexadecimal digit. -/
def isHexDigit (c : Char) : Bool :=
  isDigit c || ('a' ≤ c && c ≤ 'f') || ('A' ≤ c && c ≤ 'F')

/-- The rest behind an exponent, or the same text. -/
def exponentRest? : List Char → Option (List Char)
  | e :: rest =>
    if e == 'e' || e == 'E' then
      match rest with
      | s :: more => if s == '+' || s == '-' then digits? isDigit more else digits? isDigit rest
      | [] => none
    else none
  | [] => none

/-- The rest behind a number with a fraction or an exponent. -/
def floatRest? (s : List Char) : Option (List Char) :=
  let point := match digits? isDigit s with
    | some ('.' :: rest) => some ((digits? isDigit rest).getD rest)
    | some _ => none
    | none =>
      match s with
      | '.' :: rest => digits? isDigit rest
      | _ => none
  match point with
  | some rest => some ((exponentRest? rest).getD rest)
  | none => (digits? isDigit s).bind exponentRest?

/-- The rest behind the letter of an imaginary number. -/
def imaginaryRest? : List Char → Option (List Char)
  | c :: rest => if c == 'j' || c == 'J' then some rest else none
  | [] => none

/-- The rest behind a whole number. -/
def wholeRest? (s : List Char) : Option (List Char) :=
  let based := match s with
    | '0' :: b :: rest =>
      if b == 'x' || b == 'X' then basedDigits? isHexDigit rest
      else if b == 'b' || b == 'B' then basedDigits? (fun c => c == '0' || c == '1') rest
      else if b == 'o' || b == 'O' then basedDigits? (fun c => '0' ≤ c && c ≤ '7') rest
      else none
    | _ => none
  match based with
  | some rest => some rest
  | none =>
    match s with
    | '0' :: rest => some (digitsRest (· == '0') rest)
    | _ => digits? isDigit s

/-- The rest behind a number. -/
def numberRest? (s : List Char) : Option (List Char) :=
  match (digits? isDigit s).bind imaginaryRest? with
  | some rest => some rest
  | none =>
    match floatRest? s with
    | some rest => some ((imaginaryRest? rest).getD rest)
    | none => wholeRest? s

/-! ## §2. Operators and strings. -/

/-- The operators, longer ones before their beginnings. -/
def operators : List (List Char) :=
  ["**=", "//=", ">>=", "<<=", "...", "!=", "%=", "&=", "**", "*=", "+=", "-=", "->", "//", "/=",
    ":=", "<<", "<=", "==", ">=", ">>", "@=", "^=", "|=", "%", "&", "(", ")", "*", "+", ",", "-",
    ".", "/", ":", ";", "<", "=", ">", "@", "[", "]", "^", "\x7b", "|", "\x7d", "~"].map String.toList

/-- The operator at the start of a text, with the rest. -/
def operator? (s : List Char) : Option (List Char × List Char) :=
  operators.findSome? fun op => (dropStart? op s).map fun rest => (op, rest)

/-- The letters that may stand before a quote, in small letters. -/
def stringMarks : List (List Char) :=
  ["", "b", "r", "u", "f", "br", "rb", "fr", "rf"].map String.toList

/-- The quote a string starts with and the text behind it, if a string starts here. -/
def stringStart? (s : List Char) : Option (Char × List Char) :=
  [0, 1, 2].findSome? fun n =>
    match s.drop n with
    | q :: rest =>
      if (q == '\'' || q == '"') && stringMarks.contains ((s.take n).map Char.toLower) then
        some (q, rest)
      else none
    | [] => none

/-- How the text behind an opening quote goes on. -/
inductive StringRest where
  /-- The string ends; the rest follows. -/
  | closed (rest : List Char)
  /-- The line ends in a backslash. -/
  | continued
  /-- Neither. -/
  | broken

/-- Read a string of one quote up to its end or the end of its line. -/
def shortString (quote : Char) : List Char → StringRest
  | '\\' :: '\n' :: _ => .continued
  | '\\' :: '\r' :: '\n' :: _ => .continued
  | '\\' :: _ :: rest => shortString quote rest
  | '\\' :: [] => .broken
  | c :: rest =>
    if c == quote then .closed rest else if c == '\n' then .broken else shortString quote rest
  | [] => .broken

/-- The rest behind the end of a string, if it ends in this line: `closing` is its closing quotes; a
backslash takes the next character with it. -/
def stringEnd? (closing : List Char) : List Char → Option (List Char)
  | '\\' :: c :: rest => if c == '\n' then none else stringEnd? closing rest
  | '\\' :: [] => none
  | c :: rest =>
    match dropStart? closing (c :: rest) with
    | some after => some after
    | none => stringEnd? closing rest
  | [] => none

/-! ## §3. The tokens of a line. -/

/-- What is known between two lines. -/
structure LineState where
  /-- Brackets opened and not yet closed; below zero after a stray closing one. -/
  depth : Int := 0
  /-- The line before ended in a backslash. -/
  continued : Bool := false
  /-- The columns of the open indentations, innermost first. -/
  indents : List Nat := [0]
  /-- The closing quotes of the string that goes on. -/
  text : Option (List Char) := none
  /-- Whether every line of such a string has to end in a backslash; a string that broke off because
  one did not leaves this to the next. -/
  strict : Bool := false
  /-- Whether the last significant token is a colon; none before the first one. -/
  last : Option Bool := none

/-- Drop spaces, tabs and form feeds. -/
def skipSpace (s : List Char) : List Char :=
  s.dropWhile fun c => c == ' ' || c == '\t' || c == Char.ofNat 12

/-- Take in an operator. -/
def LineState.takeOperator (st : LineState) (op : List Char) : LineState :=
  let depth := match op with
    | ['('] | ['['] => st.depth + 1
    | [')'] | [']'] => st.depth - 1
    | [c] => if c.toNat == 0x7b then st.depth + 1 else if c.toNat == 0x7d then st.depth - 1 else st.depth
    | _ => st.depth
  { st with depth, last := some (op == [':']) }

/-- Take in a token that is no operator. -/
def LineState.takeOther (st : LineState) : LineState := { st with last := some false }

/-- One token from a text that starts with no space: the state behind it and the rest of the line;
an empty rest ends the line. -/
def tokenStep (st : LineState) (s : List Char) : Option (LineState × List Char) :=
  match s with
  | [] => none
  | '\\' :: '\n' :: _ | '\\' :: '\r' :: '\n' :: _ => some ({ st with continued := true }, [])
  | '\n' :: rest => some (st, rest)
  | '\r' :: '\n' :: rest => some (st, rest)
  | c :: rest =>
    if c == '#' then some (st, rest.dropWhile fun x => x != '\r' && x != '\n')
    else
      let triple := match stringStart? s with
        | some (q, after) => (dropStart? [q, q] after).map fun body => (q, body)
        | none => none
      match triple with
      | some (q, body) =>
        match stringEnd? [q, q, q] body with
        | some after => some (st.takeOther, after)
        | none => some ({ st with text := some [q, q, q] }, [])
      | none =>
        match numberRest? s with
        | some after => some (st.takeOther, after)
        | none =>
          match operator? s with
          | some (op, after) => some (st.takeOperator op, after)
          | none =>
            match (stringStart? s).map fun (q, body) => (q, shortString q body) with
            | some (_, .closed after) => some (st.takeOther, after)
            | some (q, .continued) => some ({ st with text := some [q], strict := true }, [])
            | _ => if isWordChar c then some (st.takeOther, rest.dropWhile isWordChar) else none

/-- The tokens of a line; `fuel` bounds their number. -/
def lineTokens : Nat → LineState → List Char → LineState
  | 0, st, _ => st
  | _ + 1, st, [] => st
  | fuel + 1, st, s =>
    let t := skipSpace s
    if t.isEmpty then st
    else
      match tokenStep st t with
      | some (st, rest) => lineTokens fuel st rest
      | none => lineTokens fuel st.takeOther (s.drop 1)

/-! ## §4. Lines. -/

/-- The column of the first character that is no space, with the text from there on. -/
def columnOf : Nat → List Char → Nat × List Char
  | col, ' ' :: rest => columnOf (col + 1) rest
  | col, '\t' :: rest => columnOf ((col / 8 + 1) * 8) rest
  | col, c :: rest => if c == Char.ofNat 12 then columnOf 0 rest else (col, c :: rest)
  | col, [] => (col, [])

/-- Close indentations down to a column; none if it matches no open one. -/
def closeIndents (col : Nat) : List Nat → Option (List Nat)
  | i :: rest => if col < i then closeIndents col rest else if col == i then some (i :: rest) else none
  | [] => none

/-- How reading a line ends. -/
inductive LineResult where
  /-- More lines may follow. -/
  | next (st : LineState)
  /-- The text is over. -/
  | stop (st : LineState)
  /-- The text cannot be cut into tokens. -/
  | fail

/-- Read one line (with its newline). -/
def readLine (st : LineState) (line : List Char) : LineResult :=
  let size := line.length
  match st.text with
  | some closing =>
    match stringEnd? closing line with
    | some rest => .next (lineTokens (size + 1) { st with text := none, strict := false }.takeOther rest)
    | none =>
      let goesOn := match line.reverse with
        | '\n' :: '\\' :: _ | '\n' :: '\r' :: '\\' :: _ => true
        | _ => false
      if st.strict && !goesOn then .next { st with text := none }.takeOther
      else .next st
  | none =>
    if st.depth == 0 && !st.continued then
      let (col, rest) := columnOf 0 line
      match rest with
      | [] => .stop st
      | c :: _ =>
        if c == '#' || c == '\r' || c == '\n' then .next st
        else
          let indents :=
            if col > st.indents.headD 0 then some (col :: st.indents) else closeIndents col st.indents
          match indents with
          | some indents => .next (lineTokens (size + 1) { st with indents } rest)
          | none => .fail
    else .next (lineTokens (size + 1) { st with continued := false } line)

/-- Read all lines; the result is the last significant token, or none where the text cannot be cut
into tokens. -/
def readLines (st : LineState) : List (List Char) → Option (Option Bool)
  | [] => if st.text.isSome || st.depth != 0 || st.continued then none else some st.last
  | line :: rest =>
    match readLine st line with
    | .next st => readLines st rest
    | .stop st => some st.last
    | .fail => none

/-- The lines of a text with their newlines. -/
def linesOf : List Char → List (List Char)
  | [] => []
  | '\n' :: rest => ['\n'] :: linesOf rest
  | c :: rest =>
    match linesOf rest with
    | [] => [[c]]
    | line :: lines => (c :: line) :: lines

/-- Whether the last significant token of a text is a colon. -/
def opensBlock (s : List Char) : Bool :=
  match readLines {} (linesOf s) with
  | some last => last == some true
  | none => (stripEnd s).getLast? == some ':'

end TagTemplate.Block
