/-
  TagTemplate.Script.Parse.Rules
  ────────────────────────────────
  **THE RULES THAT RECURSION GOES THROUGH.**

  The grammar is recursive in a few rules only.  Each other rule is a plain
  definition over `Rules`, a record of those few; the record of depth `n + 1`
  is made from that of depth `n`, so no rule calls itself.
-/
import TagTemplate.Script.Parse.Place

namespace TagTemplate.Script

/-- The rules that recursion goes through. -/
structure Rules where
  /-- An expression. -/
  expression : Parse Expr
  /-- Operands between `or`. -/
  disjunction : Parse Expr
  /-- An operand of the arithmetic operators. -/
  factor : Parse Expr
  /-- An atom with its members, elements and calls. -/
  primary : Parse Expr
  /-- An atom. -/
  atom : Parse Expr
  /-- An indented block, or statements behind the colon. -/
  block : Parse (List Line)
  /-- A pattern. -/
  pattern : Parse Pattern

instance : Inhabited Rules :=
  ⟨⟨Parse.reject, Parse.reject, Parse.reject, Parse.reject, Parse.reject, Parse.reject, Parse.reject⟩⟩

namespace Parse

/-- An optional value, or reject. -/
def ofOption (o : Option α) : Parse α :=
  match o with
  | some a => pure a
  | none => reject

end Parse

end TagTemplate.Script
