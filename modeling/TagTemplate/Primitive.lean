/-
  TagTemplate.Primitive
  ────────────────────────────────
  **HOW OUTPUT BECOMES TEXT.**

  An environment brings two primitives: one that escapes what interpolate
  tags write, and one that filters the value of a tag first.  This is the
  stock to choose from.
-/

namespace TagTemplate

/-- A primitive for output. -/
inductive Primitive where
  /-- Escapes the characters of markup, unless the value brings its own markup. -/
  | html
  /-- Writes a digit in the place of a letter. -/
  | digits
  /-- Puts brackets around the text. -/
  | brackets
  /-- The number of elements. -/
  | length
  /-- The plain form. -/
  | plain
  /-- The written form. -/
  | written
  /-- A dash in the place of everything empty. -/
  | dash
  /-- Puts angle brackets around the text. -/
  | angle
  /-- The name of the type. -/
  | typeName
  /-- Twice the value. -/
  | double
  deriving DecidableEq, Repr

/-- The primitive that escapes by a given name. -/
def Primitive.ofEscape? : String → Option Primitive
  | "html" => some .html
  | "a4" => some .digits
  | "brackets" => some .brackets
  | "len" => some .length
  | _ => none

/-- The primitive that filters by a given name. -/
def Primitive.ofFilter? : String → Option Primitive
  | "str" => some .plain
  | "repr" => some .written
  | "dash" => some .dash
  | "angle" => some .angle
  | "type" => some .typeName
  | "double" => some .double
  | _ => none

end TagTemplate
