/-
  TagTemplate.Code.Instruction
  ────────────────────────────────
  **FROM NODES TO INSTRUCTIONS.**

  The instructions say what the render function does, one after the other.
  Lowering settles every policy (escaping, filtering, line tracking), so that
  writing code has nothing left to decide.
-/
import TagTemplate.Settings.Generating

namespace TagTemplate

/-- One step of a render function. -/
inductive Instruction where
  /-- Append a literal, already escaped. -/
  | appendLiteral (value : String)
  /-- Append the value of an expression. -/
  | appendExpression (expr : String) (filtered escaped : Bool)
  /-- Run statements. -/
  | executeStatement (code : String)
  /-- Record the line of the tag about to run. -/
  | setLine (lineno : Int)
  /-- Render the layout that was asked for around the output so far. -/
  | checkLayout (asyncMode : Bool)
  deriving DecidableEq, Repr

/-- The line record before a tag, if lines are tracked. -/
def lineMark (settings : CodeSettings) (lineno : Option Int) : List Instruction :=
  if settings.debug then lineno.toList.map .setLine else []

/-- The instruction of a tag. -/
def tagInstruction (settings : CodeSettings) (kind : TagKind) (body : String) : Instruction :=
  match kind with
  | .execute => .executeStatement body
  | .raw => .appendExpression body settings.autoFilter false
  | .interpolate => .appendExpression body settings.autoFilter settings.autoEscape

/-- The instructions of one node; a foreign node has none. -/
def instructionsOf (settings : CodeSettings) : Node → Except Fault (List Instruction)
  | .literal value => .ok [.appendLiteral value]
  | .tag kind body lineno => .ok (lineMark settings lineno ++ [tagInstruction settings kind body])
  | .foreign value =>
    .error (.script "TypeError"
      ("Cannot compile " ++ value.typeName ++ " node: " ++ value.written))

/-- The instructions of a template. -/
def lower (settings : CodeSettings) (nodes : List Node) : Except Fault (List Instruction) := do
  let steps ← nodes.mapM (instructionsOf settings)
  return steps.flatten ++ [.checkLayout settings.asyncMode]

end TagTemplate
