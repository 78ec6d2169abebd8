/-
  TagTemplate.Script.Parse.Param
  ────────────────────────────────
  **PARAMETERS.**

  Parameters come in an order: those before the slash are given by position
  alone, those behind the star by name alone, and a parameter without a
  default value may not follow one that has it.
-/
import TagTemplate.Script.Parse.Sequence

namespace TagTemplate.Script

namespace Parse

/-- Where a list of parameters is. -/
structure ParamState where
  /-- The parameters so far, newest first. -/
  done : List Param := []
  /-- Behind the star. -/
  named : Bool := false
  /-- The star stood alone and nothing has come behind it. -/
  bare : Bool := false
  /-- A slash has come. -/
  slashed : Bool := false
  /-- A default value has come. -/
  defaulted : Bool := false
  /-- Nothing may follow. -/
  closed : Bool := false

/-- A type behind a colon, where types may stand. -/
def typeNote (r : Rules) (typed starred : Bool) : Parse (Option Expr) := do
  if typed then
    if ← tryMark ":" then
      let note ← if starred then starExpression r else r.expression
      return some note
    else return none
  else return none

/-- One parameter, or one of the marks between them. -/
def param (r : Rules) (typed : Bool) (s : ParamState) : Parse ParamState := do
  if s.closed then reject
  else if ← tryMark "/" then
    if s.slashed || s.named || s.done.isEmpty then reject
    else
      let done := s.done.map fun
        | .mk _ n t d => Param.mk .positional n t d
      return { s with done, slashed := true }
  else if ← tryMark "*" then
    if s.named then reject
    else
      match ← optional name with
      | some n =>
        let note ← typeNote r typed true
        return { s with done := .mk .gather n note none :: s.done, named := true }
      | none => return { s with named := true, bare := true }
  else if ← tryMark "**" then
    if s.bare then reject
    else
      let n ← name
      let note ← typeNote r typed false
      return { s with done := .mk .gatherNamed n note none :: s.done, closed := true }
  else
    let n ← name
    let note ← typeNote r typed false
    let dflt ← if ← tryMark "=" then some <$> r.expression else pure none
    if s.named then
      return { s with done := .mk .named n note dflt :: s.done, bare := false }
    else if dflt.isNone && s.defaulted then reject
    else
      return { s with
        done := .mk .ordinary n note dflt :: s.done, defaulted := s.defaulted || dflt.isSome }

/-- Parameters up to a closing mark, which is not read. -/
def params (r : Rules) (typed : Bool) (closing : String) : Parse (List Param) := do
  if ← nextIs closing then return []
  else
    let s ← param r typed {}
    let s ← loop (fun s => do
      mark ","
      if ← nextIs closing then reject else param r typed s) s
    let trailing ← tryMark ","
    if s.bare || (trailing && !(← nextIs closing)) then reject else return s.done.reverse

end Parse

end TagTemplate.Script
