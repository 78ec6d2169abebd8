/-
  TagTemplate.Environment
  ────────────────────────────────
  **ENVIRONMENTS.**

  An environment holds everything that templates share: where they come from,
  how they are scanned and written, which primitives their output goes
  through, and how deeply they may nest.  `Environment.make` accepts options
  or says why it does not; `Environment.configure` makes another environment
  from what the first one was made from and some overrides.
-/
import TagTemplate.Loader
import TagTemplate.Primitive
import TagTemplate.Settings.Generating
import TagTemplate.Settings.Scanning

namespace TagTemplate

/-! ## §1. What an environment is made from. -/

/-- What an environment is made from. -/
structure Blueprint where
  /-- Where templates come from. -/
  loader : Option Loader := none
  /-- What escapes. -/
  escape : Primitive := .html
  /-- What filters. -/
  filter : Primitive := .plain
  /-- How deeply templates may nest. -/
  maxDepth : Datum := .int 50
  /-- Names that every template sees. -/
  globals : List (String × Datum) := []
  /-- The options of the scanner and of the generator. -/
  options : Options := []

/-- What takes the place of parts of a blueprint. -/
structure Overrides where
  /-- Where templates come from. -/
  loader : Option (Option Loader) := none
  /-- What escapes. -/
  escape : Option Primitive := none
  /-- What filters. -/
  filter : Option Primitive := none
  /-- How deeply templates may nest. -/
  maxDepth : Option Datum := none
  /-- Names that every template sees. -/
  globals : Option (List (String × Datum)) := none
  /-- The options of the scanner and of the generator. -/
  options : Options := []

/-- Options with further ones merged in. -/
def Options.merge (all more : Options) : Options :=
  more.foldl (fun all (name, value) => all.insert name value) all

/-- A blueprint with some parts replaced. -/
def Blueprint.override (b : Blueprint) (o : Overrides) : Blueprint where
  loader := o.loader.getD b.loader
  escape := o.escape.getD b.escape
  filter := o.filter.getD b.filter
  maxDepth := o.maxDepth.getD b.maxDepth
  globals := o.globals.getD b.globals
  options := b.options.merge o.options

/-! ## §2. Environments. -/

/-- What templates share. -/
structure Environment where
  /-- What it was made from. -/
  blueprint : Blueprint
  /-- How deeply templates may nest. -/
  maxDepth : Int
  /-- How templates are scanned. -/
  scan : ScanSettings
  /-- How their code is written. -/
  code : CodeSettings

namespace Environment

/-- The names among some options that do not exist, in ascending order. -/
def unknownNames (o : Options) : List String :=
  sortedNames ((o.map (·.1)).filter fun n => !Options.validNames.contains n)

/-- A nesting limit, which has to be a positive number. -/
def checkDepth (d : Datum) : Except Fault Int :=
  let atLeastOne (i : Int) : Except Fault Int :=
    if i < 1 then .error (ConfigCause.badDepthLimit i).fault else .ok i
  match d with
  | .int i => atLeastOne i
  | .bool b => atLeastOne (if b then 1 else 0)
  | _ =>
    .error (.script "TypeError"
      ("'<' not supported between instances of '" ++ d.typeName ++ "' and 'int'"))

/-- The environment of a blueprint. -/
def make (b : Blueprint) : Except Fault Environment := do
  let unknown := unknownNames b.options
  if !unknown.isEmpty then
    throw (ConfigCause.unknownOptions unknown Options.validNames).fault
  let maxDepth ← checkDepth b.maxDepth
  let scan ← ScanSettings.ofOptions b.options
  let code ← CodeSettings.ofOptions b.options
  return { blueprint := b, maxDepth, scan, code }

/-- Another environment, made from the same blueprint with some parts replaced. -/
def configure (e : Environment) (o : Overrides) : Except Fault Environment :=
  make (e.blueprint.override o)

/-- The written form of an environment. -/
def written (e : Environment) : String :=
  let loader := match e.blueprint.loader with
    | some l => l.className
    | none => "None"
  "<Environment loader=" ++ loader ++ " options=" ++ e.blueprint.options.written ++ ">"

end Environment

end TagTemplate
