/-
  TagTemplate.Text.Lines
  ────────────────────────────────
  **LINES.**

  Three readings of "line" occur in a template compiler, and each has its own
  function here: `splitOn` cuts at one given character, `splitLines` cuts at
  every Unicode line boundary (a carriage return followed by a newline is one
  boundary), and `unifyNewlines` turns the three ASCII conventions into a
  single newline, as reading a text file does.

  `dedent` removes the longest run of tabs and spaces that starts every line.
-/
import TagTemplate.Text.Blank

namespace TagTemplate.Text

/-! ## §1. Cutting at one character. -/

/-- The pieces of a text between the occurrences of a character. -/
def splitOn (sep : Char) : List Char → List (List Char)
  | [] => [[]]
  | c :: rest =>
    if c == sep then [] :: splitOn sep rest
    else
      match splitOn sep rest with
      | [] => [[c]]
      | piece :: pieces => (c :: piece) :: pieces

/-- The pieces put together again with a separator between them. -/
def joinWith (sep : List Char) : List (List Char) → List Char
  | [] => []
  | [piece] => piece
  | piece :: pieces => piece ++ sep ++ joinWith sep pieces

/-- The text before the first occurrence of a character, and the text after it. -/
def cutAt (sep : Char) (s : List Char) : List Char × List Char :=
  (s.takeWhile (· != sep), (s.dropWhile (· != sep)).drop 1)

/-! ## §2. Unicode line boundaries. -/

/-- The characters that end a line for `splitLines`. -/
def isLineEnd (c : Char) : Bool :=
  let n := c.toNat
  (10 ≤ n && n ≤ 13) || (28 ≤ n && n ≤ 30) || n == 0x85 || n == 0x2028 || n == 0x2029

/-- The lines of a text, cut at every Unicode line boundary; a boundary at the very end opens no
further line. -/
def splitLines : List Char → List (List Char)
  | [] => []
  | '\r' :: '\n' :: rest => [] :: splitLines rest
  | c :: rest =>
    if isLineEnd c then [] :: splitLines rest
    else
      match splitLines rest with
      | [] => [[c]]
      | line :: lines => (c :: line) :: lines

/-- Every `\r\n` and every lone `\r` becomes `\n`. -/
def unifyNewlines : List Char → List Char
  | [] => []
  | '\r' :: '\n' :: rest => '\n' :: unifyNewlines rest
  | c :: rest => (if c == '\r' then '\n' else c) :: unifyNewlines rest

/-! ## §3. Common indentation. -/

/-- The tabs and spaces a line starts with. -/
def margin (line : List Char) : List Char :=
  line.takeWhile fun c => c == ' ' || c == '\t'

/-- The longest list that both lists start with. -/
def commonStart : List Char → List Char → List Char
  | a :: as, b :: bs => if a == b then a :: commonStart as bs else []
  | _, _ => []

/-- The longest run of tabs and spaces that every line starts with. -/
def commonMargin : List (List Char) → List Char
  | [] => []
  | [line] => margin line
  | line :: lines => commonStart (margin line) (commonMargin lines)

/-- The lines without the margin they have in common. -/
def dedent (lines : List (List Char)) : List (List Char) :=
  lines.map (·.drop (commonMargin lines).length)

/-! ## §4. Searching and replacing. -/

/-- The rest of a text after a given start, if it has that start. -/
def dropStart? : List Char → List Char → Option (List Char)
  | [], s => some s
  | _ :: _, [] => none
  | p :: ps, c :: cs => if p == c then dropStart? ps cs else none

/-- Whether a text starts with another. -/
def startsWith (start s : List Char) : Bool := (dropStart? start s).isSome

/-- The position of the first occurrence of a text in another. -/
def indexOf? (needle : List Char) : List Char → Option Nat
  | [] => if needle.isEmpty then some 0 else none
  | c :: rest =>
    if startsWith needle (c :: rest) then some 0
    else (indexOf? needle rest).map (· + 1)

/-- Every occurrence of a text replaced, from left to right, without overlaps; `fuel` bounds the
number of steps and `s.length + 1` always suffices. -/
def replaceAllGo (old new : List Char) : Nat → List Char → List Char
  | 0, s => s
  | _ + 1, [] => []
  | fuel + 1, c :: rest =>
    match dropStart? old (c :: rest) with
    | some after => new ++ replaceAllGo old new fuel after
    | none => c :: replaceAllGo old new fuel rest

/-- Every occurrence of `old` replaced by `new`; an empty `old` stands before every character and
at the end. -/
def replaceAll (old new s : List Char) : List Char :=
  if old.isEmpty then new ++ s.flatMap (· :: new)
  else replaceAllGo old new (s.length + 1) s

/-! ## §5. The same on strings. -/

/-- The lines of a string, cut at every Unicode line boundary. -/
def lines (s : String) : List String := (splitLines s.toList).map String.ofList

/-- Strings joined with a separator. -/
def join (sep : String) (pieces : List String) : String := sep.intercalate pieces

/-- The number of newline characters in a string. -/
def newlineCount (s : String) : Nat := s.toList.count '\n'

/-- A string with every occurrence of `old` replaced. -/
def replaced (s old new : String) : String :=
  String.ofList (replaceAll old.toList new.toList s.toList)

end TagTemplate.Text
