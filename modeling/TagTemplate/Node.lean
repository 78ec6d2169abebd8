/-
  TagTemplate.Node
  ────────────────────────────────
  **THE NODES OF A TEMPLATE.**

  A template is a flat sequence of literals and tags.  A literal carries its
  text escaped, so that it can be placed between single quotes as it is;
  `Literal.escape` and `Literal.breaks` escape (before and after trimming),
  `Literal.text` undoes both.
-/
import TagTemplate.Datum

namespace TagTemplate

/-! ## §1. Literals. -/

namespace Literal

/-- Escape backslashes and single quotes. -/
def escape (s : List Char) : List Char :=
  s.flatMap fun c => if c == '\\' || c == '\'' then ['\\', c] else [c]

/-- Escape line breaks and the null character. -/
def breaks (s : List Char) : List Char :=
  s.flatMap fun c =>
    if c == '\n' then ['\\', 'n']
    else if c == '\r' then ['\\', 'r']
    else if c.toNat == 0 then ['\\', 'x', '0', '0']
    else [c]

/-- Undo the escapes; any other backslash stays. -/
def unescape : List Char → List Char
  | '\\' :: '\\' :: rest => '\\' :: unescape rest
  | '\\' :: '\'' :: rest => '\'' :: unescape rest
  | '\\' :: 'n' :: rest => '\n' :: unescape rest
  | '\\' :: 'r' :: rest => '\r' :: unescape rest
  | '\\' :: 'x' :: '0' :: '0' :: rest => Char.ofNat 0 :: unescape rest
  | c :: rest => c :: unescape rest
  | [] => []

/-- The characters that the value of a literal stands for. -/
def text (value : String) : String := String.ofList (unescape value.toList)

end Literal

/-! ## §2. Nodes. -/

/-- A node of a template. -/
inductive Node where
  /-- Text between tags, escaped. -/
  | literal (value : String)
  /-- A tag, with the line it opens on if lines are recorded. -/
  | tag (kind : TagKind) (body : String) (lineno : Option Int)
  /-- Something else that a plugin put there. -/
  | foreign (value : Datum)

end TagTemplate
