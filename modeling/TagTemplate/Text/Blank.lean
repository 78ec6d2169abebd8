/-
  TagTemplate.Text.Blank
  ────────────────────────────────
  **BLANK CHARACTERS AND TRIMMING.**

  One set of blank characters serves the whole library: trimming a literal,
  skipping the blanks around a tag body, refusing a blank prefix character
  and measuring an execute line all use `isBlank`.  The set is the Unicode
  one (bidirectional classes WS, B, S and category Zs), so it holds the four
  information separators and the ideographic space beside the ASCII blanks.

  Trimming is stated on `List Char`; the `String` versions wrap it.
-/

namespace TagTemplate.Text

/-! ## §1. The blank characters. -/

/-- The Unicode blank characters. -/
def isBlank (c : Char) : Bool :=
  let n := c.toNat
  (9 ≤ n && n ≤ 13) || (28 ≤ n && n ≤ 32) || n == 0x85 || n == 0xA0 || n == 0x1680
    || (0x2000 ≤ n && n ≤ 0x200A) || n == 0x2028 || n == 0x2029 || n == 0x202F
    || n == 0x205F || n == 0x3000

/-! ## §2. Trimming lists of characters. -/

/-- Drop the blank characters at the start. -/
def stripStart (s : List Char) : List Char := s.dropWhile isBlank

/-- Drop the blank characters at the end. -/
def stripEnd (s : List Char) : List Char := (s.reverse.dropWhile isBlank).reverse

/-- Drop the blank characters at both ends. -/
def strip (s : List Char) : List Char := stripEnd (stripStart s)

/-- Nothing but blank characters (the empty text included). -/
def allBlank (s : List Char) : Bool := s.all isBlank

/-! ## §3. The same on strings. -/

/-- A string without the blank characters at its ends. -/
def trimmed (s : String) : String := String.ofList (strip s.toList)

/-- A non-empty string of blank characters only. -/
def isBlankText (s : String) : Bool := !s.isEmpty && allBlank s.toList

end TagTemplate.Text
