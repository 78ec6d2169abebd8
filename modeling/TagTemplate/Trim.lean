/-
  TagTemplate.Trim
  ────────────────────────────────
  **TRIMMING LITERALS.**

  A literal stands between two tags.  The tag before it decides how its start
  is trimmed, the tag behind it how its end is: a marker on the tag wins, a
  tag without a marker leaves the global mode, and where there is no tag
  nothing is trimmed.
-/
import TagTemplate.Settings.Scanning
import TagTemplate.Text.Lines

namespace TagTemplate

open Text

/-! ## §1. Edges. -/

/-- What stands at one edge of a literal. -/
inductive Edge where
  /-- No tag. -/
  | free
  /-- A tag without a trim marker. -/
  | plain
  /-- A tag whose marker chooses a mode. -/
  | marked (mode : TrimMode)
  deriving DecidableEq, Repr

/-- The mode of an edge, given the global mode. -/
def Edge.mode (dflt : TrimMode) : Edge → TrimMode
  | .free => .off
  | .plain => dflt
  | .marked m => m

/-- The edge at a tag with the given marker character, if any. -/
def Edge.ofMarker (marker : Option Char) : Edge :=
  match marker.bind TrimMode.ofMarker? with
  | some m => .marked m
  | none => .plain

/-- The edge a marker text stands for; an unknown marker is refused. -/
def Edge.ofText (marker : String) : Except Fault Edge :=
  match marker.toList with
  | [] => .ok .plain
  | [c] =>
    match TrimMode.ofMarker? c with
    | some m => .ok (.marked m)
    | none => .error (.script "KeyError" (quoted marker))
  | _ => .error (.script "KeyError" (quoted marker))

/-! ## §2. Trimming one edge. -/

/-- Drop one line break at the start. -/
def dropLeadingBreak : List Char → List Char
  | '\r' :: '\n' :: rest => rest
  | '\n' :: rest => rest
  | '\r' :: rest => rest
  | s => s

/-- Drop one line break at the end. -/
def dropTrailingBreak (s : List Char) : List Char :=
  match s.reverse with
  | '\n' :: '\r' :: rest => rest.reverse
  | '\n' :: rest => rest.reverse
  | '\r' :: rest => rest.reverse
  | _ => s

/-- Trim the start of a text. -/
def trimStart (mode : TrimMode) (s : List Char) : List Char :=
  match mode with
  | .off => s
  | .newline => dropLeadingBreak s
  | .slurp => stripStart s

/-- Trim the end of a text. -/
def trimEnd (mode : TrimMode) (s : List Char) : List Char :=
  match mode with
  | .off => s
  | .newline => dropTrailingBreak s
  | .slurp => stripEnd s

/-! ## §3. Trimming both edges. -/

/-- Trim a literal between two edges: first its start, then its end. -/
def trim (settings : ScanSettings) (start stop : Edge) (s : List Char) : List Char :=
  match start.mode settings.trimAfter, stop.mode settings.trimBefore with
  | .off, .off => s
  | .slurp, .slurp => strip s
  | a, b => trimEnd b (trimStart a s)

end TagTemplate
