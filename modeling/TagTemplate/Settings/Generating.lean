/-
  TagTemplate.Settings.Generating
  ────────────────────────────────
  **SETTINGS OF THE GENERATOR.**

  The one thing to check is the name of the context variable: it has to be an
  identifier of the script language, no keyword of it, and none of the names
  that the generated code needs for itself.
-/
import TagTemplate.Settings.Options
import TagTemplate.Text.Classes

namespace TagTemplate

open Text

/-! ## §1. Names of the script language. -/

/-- The reserved words of the script language. -/
def keywords : List String :=
  ["False", "None", "True", "and", "as", "assert", "async", "await", "break", "class", "continue",
    "def", "del", "elif", "else", "except", "finally", "for", "from", "global", "if", "import",
    "in", "is", "lambda", "nonlocal", "not", "or", "pass", "raise", "return", "try", "while",
    "with", "yield"]

/-- Whether a word is reserved. -/
def isKeyword (s : String) : Bool := keywords.contains s

/-- Every name that starts like this belongs to the generated code. -/
def reservedStart : String := "__kiln"

/-- The names that a render function provides. -/
def providedNames : List String := ["include", "include_async", "layout", "options"]

/-! ## §2. The record. -/

/-- Generator settings; `CodeSettings.check` says which are accepted. -/
structure CodeSettings where
  /-- Escape the output of interpolate tags. -/
  autoEscape : Bool := true
  /-- Pass the output of tags through the filter. -/
  autoFilter : Bool := false
  /-- Look bare names up in the context. -/
  useWith : Bool := false
  /-- Generate an asynchronous function. -/
  asyncMode : Bool := false
  /-- Track lines and wrap the body for reports. -/
  debug : Bool := false
  /-- Code at the top of the function. -/
  header : String := ""
  /-- The name of the context variable. -/
  contextName : String := "it"
  /-- Plugins. -/
  plugins : List Plugin := []

/-- Whether a name may be the context variable. -/
def checkVariable (d : Datum) : Except Fault String :=
  match d.text? with
  | some name =>
    if !isIdentifier name || isKeyword name then
      .error (ConfigCause.badVariable d.written).fault
    else if name.startsWith reservedStart || providedNames.contains name then
      .error (ConfigCause.reservedVariable d.written).fault
    else .ok name
  | none => .error (ConfigCause.badVariable d.written).fault

/-- The generator settings of some options. -/
def CodeSettings.ofOptions (o : Options) : Except Fault CodeSettings := do
  let plugins ← o.plugins
  let contextName ← checkVariable (o.datum "var_name" (.str "it"))
  return {
    autoEscape := o.flag "auto_escape" true
    autoFilter := o.flag "auto_filter" false
    useWith := o.flag "use_with" false
    asyncMode := o.flag "async_mode" false
    debug := o.flag "debug" false
    header := (o.datum "function_header" (.str "")).shown
    contextName
    plugins }

end TagTemplate
