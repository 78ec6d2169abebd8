/-
  TagTemplate.Code.Builder
  ────────────────────────────────
  **LINES OF CODE UNDER CONSTRUCTION.**

  The builder collects lines, each behind as many spaces as the current
  level says; a level below zero indents nothing.
-/

namespace TagTemplate

/-- Lines and the level at which the next one is put. -/
structure Builder where
  /-- The lines, newest first. -/
  rev : List String := []
  /-- The number of spaces before the next line. -/
  level : Int := 0

namespace Builder

/-- The number of spaces of one step. -/
def step : Int := 4

/-- The lines in their order. -/
def lines (b : Builder) : List String := b.rev.reverse

/-- A line behind the spaces of a level. -/
def indented (level : Int) (line : String) : String :=
  String.ofList (List.replicate level.toNat ' ') ++ line

/-- Add a line at the current level. -/
def add (b : Builder) (line : String) : Builder :=
  { b with rev := indented b.level line :: b.rev }

/-- Add several lines. -/
def addAll (b : Builder) (lines : List String) : Builder := lines.foldl add b

/-- Go one step to the right. -/
def indent (b : Builder) : Builder := { b with level := b.level + step }

/-- Go one step to the left. -/
def dedent (b : Builder) : Builder := { b with level := b.level - step }

/-- The text of the lines. -/
def text (b : Builder) : String := "\n".intercalate b.lines ++ "\n"

end Builder

end TagTemplate
