/-
  TagTemplate.Script.Literal
  ────────────────────────────────
  **THE VALUES OF NUMBERS AND STRINGS.**

  What the characters of a literal stand for: digits in four bases with
  underscores between them, and strings with their escapes.  A backslash
  before a character that needs no escape stays in the text.
-/
import TagTemplate.Script.Lexer
import TagTemplate.Script.Tree
import TagTemplate.Text.Quoted

namespace TagTemplate.Script

open Text

/-! ## §1. Numbers. -/

/-- The value of digits in a base. -/
def digitsValue (base : Nat) (digits : List Char) : Nat :=
  digits.foldl (fun n c => n * base + (hexValue? c).getD 0) 0

/-- The value of a number. -/
def numberValue (text : String) : Constant :=
  let digits := text.toList.filter (· != '_')
  match digits with
  | '0' :: b :: rest =>
    if b == 'x' || b == 'X' then .int (digitsValue 16 rest)
    else if b == 'o' || b == 'O' then .int (digitsValue 8 rest)
    else if b == 'b' || b == 'B' then .int (digitsValue 2 rest)
    else plain digits
  | _ => plain digits
where
  /-- A number without a written base. -/
  plain (digits : List Char) : Constant :=
    if digits.all isDigit then .int (digitsValue 10 digits)
    else .decimal (String.ofList digits)

/-! ## §2. Escapes. -/

/-- A code point with which no character goes stands for the replacement character. -/
def charOfCode (n : Nat) : Char := if n.isValidChar then Char.ofNat n else Char.ofNat 0xFFFD

/-- The value of exactly `count` hexadecimal digits, and the rest. -/
def hexDigits? : Nat → Nat → List Char → Option (Nat × List Char)
  | 0, n, s => some (n, s)
  | count + 1, n, c :: rest => (hexValue? c).bind fun v => hexDigits? count (n * 16 + v) rest
  | _ + 1, _, [] => none

/-- The value of at most `count` octal digits, and the rest. -/
def octalDigits : Nat → Nat → List Char → Nat × List Char
  | count + 1, n, c :: rest =>
    if '0' ≤ c ∧ c ≤ '7' then octalDigits count (n * 8 + (c.toNat - 48)) rest else (n, c :: rest)
  | _, n, s => (n, s)

/-- The character that a letter behind a backslash stands for. -/
def letterEscape? (c : Char) : Option Char :=
  if c == '\\' || c == '\'' || c == '"' then some c
  else if c == 'a' then some '\x07'
  else if c == 'b' then some '\x08'
  else if c == 'f' then some '\x0c'
  else if c == 'n' then some '\n'
  else if c == 'r' then some '\r'
  else if c == 't' then some '\t'
  else if c == 'v' then some '\x0b'
  else none

/-- How many hexadecimal digits a letter behind a backslash asks for. -/
def hexEscape? (wide : Bool) (c : Char) : Option Nat :=
  if c == 'x' then some 2
  else if wide && c == 'u' then some 4
  else if wide && c == 'U' then some 8
  else none

/-- What is wrong with an escape. -/
def badEscape : String := "(unicode error) 'unicodeescape' codec can't decode bytes"

/-- The characters behind escapes; `wide` strings know the escapes of code points too.  Fuel bounds
the number of steps, one more than the number of characters suffices. -/
def unescapeGo (wide : Bool) : Nat → List Char → Except String (List Char)
  | 0, _ => .ok []
  | fuel + 1, '\\' :: c :: rest =>
    if c == '\n' then unescapeGo wide fuel rest
    else if let some d := letterEscape? c then (d :: ·) <$> unescapeGo wide fuel rest
    else if '0' ≤ c ∧ c ≤ '7' then
      let (n, rest) := octalDigits 3 0 (c :: rest)
      (charOfCode (if wide then n else n % 256) :: ·) <$> unescapeGo wide fuel rest
    else if let some count := hexEscape? wide c then
      match hexDigits? count 0 rest with
      | some (n, rest) =>
        if n ≤ 0x10FFFF then (charOfCode n :: ·) <$> unescapeGo wide fuel rest
        else .error badEscape
      | none => .error badEscape
    else if wide && c == 'N' then .error badEscape
    else (fun more => '\\' :: c :: more) <$> unescapeGo wide fuel rest
  | fuel + 1, c :: rest => (c :: ·) <$> unescapeGo wide fuel rest
  | _ + 1, [] => .ok []

/-- The characters behind escapes. -/
def unescaped (wide : Bool) (s : List Char) : Except String (List Char) :=
  unescapeGo wide (s.length + 1) s

/-! ## §3. Strings. -/

/-- A string token taken apart. -/
structure StringParts where
  /-- It is a sequence of bytes. -/
  isBytes : Bool
  /-- Backslashes are plain characters. -/
  isRaw : Bool
  /-- It holds expressions. -/
  isFormat : Bool
  /-- It was written with a small `u` first. -/
  isMarked : Bool
  /-- The characters between the quotes. -/
  body : List Char
  /-- How many characters stand before the body. -/
  offset : Nat

/-- Take a string token apart. -/
def stringParts (text : String) : StringParts :=
  let s := text.toList
  match stringStart? s with
  | some (letters, rest) =>
    let long := match rest with
      | a :: b :: c :: _ :: _ :: _ :: _ => a == b && b == c
      | _ => false
    let width := if long then 3 else 1
    let inner := rest.drop width
    { isBytes := letters.contains 'b'
      isRaw := letters.contains 'r'
      isFormat := letters.contains 'f'
      isMarked := s.head? == some 'u'
      body := inner.take (inner.length - width)
      offset := letters.length + width }
  | none => ⟨false, false, false, false, s, 0⟩

end TagTemplate.Script
