/-
  TagTemplate.Journal
  ────────────────────────────────
  **WHAT A COMPUTATION REPORTS BESIDE ITS RESULT.**

  Parsing, generating and rendering leave records: warnings and debug
  messages, each with the component it comes from.  Plugins may leave notes
  of their own.  `Traced` is a computation that may fail and keeps its
  journal either way.
-/
import TagTemplate.Error

namespace TagTemplate

/-- How serious a record is. -/
inductive Level where
  /-- For tracing. -/
  | debug
  /-- Worth a look. -/
  | warning
  deriving DecidableEq, Repr

/-- The name of a level. -/
def Level.name : Level → String
  | .debug => "DEBUG"
  | .warning => "WARNING"

/-- The component that leaves a record. -/
inductive Component where
  /-- The scanner. -/
  | scanner
  /-- The writer of code. -/
  | emitter
  /-- The compiler. -/
  | compiler
  /-- The binding of free names. -/
  | ambient
  /-- The environment. -/
  | environment
  deriving DecidableEq, Repr

/-- The name under which a component logs. -/
def Component.name : Component → String
  | .scanner => "kiln.parser.core"
  | .emitter => "kiln.compiler.backend"
  | .compiler => "kiln.compiler.core"
  | .ambient => "kiln.compiler.ambient"
  | .environment => "kiln.environment.core"

/-- A message with its level and component. -/
structure Record where
  /-- How serious it is. -/
  level : Level
  /-- Who left it. -/
  component : Component
  /-- What it says. -/
  text : String
  deriving DecidableEq, Repr

/-- A note of a plugin: the hook that ran, the plugin's label, and a count. -/
structure Note where
  /-- The hook. -/
  hook : String
  /-- The label. -/
  label : String
  /-- The count. -/
  count : Nat
  deriving DecidableEq, Repr

/-- All records and notes, oldest first. -/
structure Journal where
  /-- The records. -/
  records : Array Record := #[]
  /-- The notes. -/
  notes : Array Note := #[]

/-- A computation that may fail and keeps a journal. -/
abbrev Traced := ExceptT Fault (StateM Journal)

/-- Leave a record. -/
def record (level : Level) (component : Component) (text : String) : Traced Unit :=
  modify fun j => { j with records := j.records.push ⟨level, component, text⟩ }

/-- Leave a debug record. -/
def debugRecord (component : Component) (text : String) : Traced Unit :=
  record .debug component text

/-- Leave a warning. -/
def warn (component : Component) (text : String) : Traced Unit :=
  record .warning component text

/-- Leave a note. -/
def leaveNote (note : Note) : Traced Unit :=
  modify fun j => { j with notes := j.notes.push note }

end TagTemplate
