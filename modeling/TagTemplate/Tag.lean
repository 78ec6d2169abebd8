/-
  TagTemplate.Tag
  ────────────────────────────────
  **TAG KINDS AND TRIM MODES.**

  A tag says what happens with its body (`TagKind`), and each edge of a
  literal between tags is trimmed in one of three ways (`TrimMode`).  A
  marker character written just inside a delimiter chooses a mode for the
  literal next to it.
-/

namespace TagTemplate

/-- What a tag does with its body. -/
inductive TagKind where
  /-- Evaluate and append without escaping. -/
  | raw
  /-- Evaluate, escape as configured, and append. -/
  | interpolate
  /-- Run as a statement. -/
  | execute
  deriving DecidableEq, Repr

/-- The name of a kind, in capitals. -/
def TagKind.name : TagKind → String
  | .raw => "RAW"
  | .interpolate => "INTERPOLATE"
  | .execute => "EXECUTE"

/-- The name of a kind inside a sentence. -/
def TagKind.word : TagKind → String
  | .raw => "raw"
  | .interpolate => "interpolate"
  | .execute => "execute"

/-- The letter of a kind. -/
def TagKind.letter : TagKind → String
  | .raw => "r"
  | .interpolate => "i"
  | .execute => "e"

/-- The kind with a given name. -/
def TagKind.ofName? : String → Option TagKind
  | "RAW" => some .raw
  | "INTERPOLATE" => some .interpolate
  | "EXECUTE" => some .execute
  | _ => none

/-- How one edge of a literal is trimmed. -/
inductive TrimMode where
  /-- Not at all. -/
  | off
  /-- One line break. -/
  | newline
  /-- All blank characters. -/
  | slurp
  deriving DecidableEq, Repr

/-- The name of a mode, in capitals. -/
def TrimMode.name : TrimMode → String
  | .off => "OFF"
  | .newline => "NEWLINE"
  | .slurp => "SLURP"

/-- The word a mode is configured by. -/
def TrimMode.word : TrimMode → String
  | .off => "off"
  | .newline => "nl"
  | .slurp => "slurp"

/-- The mode with a given name. -/
def TrimMode.ofName? : String → Option TrimMode
  | "OFF" => some .off
  | "NEWLINE" => some .newline
  | "SLURP" => some .slurp
  | _ => none

/-- The mode configured by a given word. -/
def TrimMode.ofWord? : String → Option TrimMode
  | "off" => some .off
  | "nl" => some .newline
  | "slurp" => some .slurp
  | _ => none

/-- The mode a marker character chooses. -/
def TrimMode.ofMarker? (c : Char) : Option TrimMode :=
  if c == '-' then some .newline else if c == '_' then some .slurp else none

/-- Whether a character is a trim marker. -/
def isMarker (c : Char) : Bool := c == '-' || c == '_'

theorem TrimMode.ofWord?_word (m : TrimMode) : TrimMode.ofWord? m.word = some m := by
  cases m <;> rfl

end TagTemplate
