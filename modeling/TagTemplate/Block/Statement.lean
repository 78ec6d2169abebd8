/-
  TagTemplate.Block.Statement
  ────────────────────────────────
  **THE LINES OF AN EXECUTE BODY.**

  The first line of a body stands at the tag, so its own indentation says
  nothing.  The lines below it are taken relative to the tag when the first
  line opens a block or one of them starts at the margin; otherwise they are
  freed of the margin they have in common.
-/
import TagTemplate.Block.Opener

namespace TagTemplate.Block

open Text

/-- The lines below the first one: blank ones dropped, the others without blanks at their end. -/
def tailLines (rest : List Char) : List (List Char) :=
  ((splitLines rest).filter (!allBlank ·)).map stripEnd

/-- Whether a line starts at the margin. -/
def atMargin (line : List Char) : Bool :=
  match line with
  | c :: _ => !isBlank c
  | [] => false

/-- The lines of a body, indented relative to its first line. -/
def statementLines (code : List Char) : List (List Char) :=
  let (first, rest) := cutAt '\n' (strip code)
  let first := strip first
  let tail := tailLines rest
  if tail.isEmpty then [first]
  else if opensBlock first || tail.any atMargin then first :: tail
  else first :: dedent tail

end TagTemplate.Block
