/-
  TagTemplate.Error
  ────────────────────────────────
  **ERRORS.**

  An error is a cause; its wording is computed by `message` (the full text)
  and `compact` (the short form for a terminal).  Four families exist beside
  the plain one: a configuration that cannot be used, a template that cannot
  be found, a render function that does not compile, and a failure while
  rendering.  Each family has a searchable code.

  `Fault` adds the errors of the embedded script language, which are known by
  the name of their class and their text.
-/
import TagTemplate.Style
import TagTemplate.Datum
import TagTemplate.Text.Similar

namespace TagTemplate

open Text

/-! ## §1. Codes. -/

/-- The searchable codes. -/
inductive ErrorCode where
  /-- Unusable options. -/
  | invalidConfig
  /-- An undefined name. -/
  | undefinedVariable
  /-- Too deep a nesting of templates. -/
  | includeDepth
  /-- Any other failure while rendering. -/
  | runtimeError
  /-- A missing template. -/
  | templateNotFound
  /-- A render function that does not compile. -/
  | syntaxError
  deriving DecidableEq, Repr

namespace ErrorCode

/-- All codes in their order. -/
def all : List ErrorCode :=
  [.invalidConfig, .undefinedVariable, .includeDepth, .runtimeError, .templateNotFound, .syntaxError]

/-- The name of a code. -/
def name : ErrorCode → String
  | .invalidConfig => "INVALID_CONFIG"
  | .undefinedVariable => "UNDEFINED_VARIABLE"
  | .includeDepth => "INCLUDE_DEPTH"
  | .runtimeError => "RUNTIME_ERROR"
  | .templateNotFound => "TEMPLATE_NOT_FOUND"
  | .syntaxError => "SYNTAX_ERROR"

/-- The code itself. -/
def value : ErrorCode → String
  | .invalidConfig => "K-CFG-001"
  | .undefinedVariable => "K-RUN-001"
  | .includeDepth => "K-RUN-006"
  | .runtimeError => "K-RUN-007"
  | .templateNotFound => "K-TPL-001"
  | .syntaxError => "K-TPL-002"

/-- Where a code is documented. -/
def docsUrl (c : ErrorCode) : String :=
  "https://kiln-templates.readthedocs.io/en/latest/errors/#" ++ c.value.toLower

/-- The family of a code. -/
def category : ErrorCode → String
  | .invalidConfig => "config"
  | .undefinedVariable | .includeDepth | .runtimeError => "runtime"
  | .templateNotFound | .syntaxError => "template"

end ErrorCode

/-! ## §2. Configurations that cannot be used. -/

/-- Why a configuration is refused; offending values are kept in written form. -/
inductive ConfigCause where
  /-- The delimiters are not two non-empty texts. -/
  | badTags (shown : String)
  /-- A prefix character is not a text of at most one character. -/
  | badMark (kind : TagKind) (shown : String)
  /-- A prefix character would be read as blank or as a trim marker. -/
  | blankMark (kind : TagKind) (shown : String)
  /-- Two kinds have the same prefix character. -/
  | sharedMark (kind other : TagKind) (shown : String)
  /-- Several kinds have no prefix character. -/
  | manyUnmarked (kinds : List TagKind)
  /-- The default kind is not the kind without a prefix character. -/
  | kindConflict (given unmarked : TagKind)
  /-- A pair of trim modes has another length. -/
  | badTrimPair
  /-- A value is no trim mode. -/
  | badTrimMode (shown : String)
  /-- The context variable is no identifier. -/
  | badVariable (shown : String)
  /-- The context variable belongs to the generated code. -/
  | reservedVariable (shown : String)
  /-- Options that do not exist. -/
  | unknownOptions (names valid : List String)
  /-- The nesting limit is below one. -/
  | badDepthLimit (limit : Int)
  /-- A message given as it is. -/
  | other (text : String)

/-- The refusal in words. -/
def ConfigCause.message : ConfigCause → String
  | .badTags shown => "tags must be a pair of non-empty strings, got " ++ shown
  | .badMark kind shown =>
    kind.word ++ " prefix must be a single character or '', got " ++ shown
  | .blankMark kind shown =>
    kind.word ++ " prefix " ++ shown ++ " collides with whitespace control"
  | .sharedMark kind rival shown =>
    kind.word ++ " and " ++ rival.word ++ " tags share the prefix " ++ shown
  | .manyUnmarked kinds =>
    " and ".intercalate (kinds.map (·.word)) ++ " tags both have an empty prefix"
  | .kindConflict given unmarked =>
    "default_kind " ++ given.name ++ " conflicts with the empty " ++ unmarked.word ++ " prefix"
  | .badTrimPair => "auto_trim pair must have exactly two entries"
  | .badTrimMode shown =>
    "Invalid trim mode " ++ shown ++ "; expected one of 'off', 'nl', 'slurp'"
  | .badVariable shown => "var_name must be a Python identifier, got " ++ shown
  | .reservedVariable shown => "var_name " ++ shown ++ " is reserved by generated code"
  | .unknownOptions names valid =>
    "Unknown option(s): " ++ ", ".intercalate names ++ ". Valid options: "
      ++ ", ".intercalate valid
  | .badDepthLimit limit => "max_include_depth must be at least 1, got " ++ toString limit
  | .other text => text

/-! ## §3. Templates that cannot be found. -/

/-- What is said about the names that do exist. -/
inductive KnownNames where
  /-- The name was relative and nothing resolved it. -/
  | relative
  /-- One known name is close. -/
  | close (name : String)
  /-- The first of the known names, and how many there are. -/
  | listed (names : List String) (total : Nat)
  /-- No names are known. -/
  | nothing

/-- Why a template cannot be found. -/
inductive Missing where
  /-- There is nothing to load from. -/
  | noLoader (name : String)
  /-- The name leaves the template directories. -/
  | outside (name : String)
  /-- The name is not there; `place` says where was looked. -/
  | notFound (name place : String) (known : KnownNames)
  /-- None of several loaders has the name; each says why. -/
  | inNone (name : String) (count : Nat) (reasons : List String)
  /-- A message given as it is. -/
  | other (text : String)

/-- How many known names a message lists. -/
def maxListed : Nat := 10

/-- The absence in words. -/
def Missing.message : Missing → String
  | .noLoader name => "Cannot load '" ++ name ++ "': environment has no loader"
  | .outside name => "Template '" ++ name ++ "' points outside the template directories"
  | .notFound name place known =>
    let start := "Template '" ++ name ++ "' not found" ++ place
    match known with
    | .relative =>
      start ++ ". Relative names resolve against the calling template; "
        ++ "render them through include() or layout()"
    | .close near => start ++ ". Did you mean '" ++ near ++ "'?"
    | .listed names total =>
      start ++ ". Available: " ++ ", ".intercalate names
        ++ (if total > maxListed then " ... (" ++ toString total ++ " total)" else "")
    | .nothing => start
  | .inNone name count reasons =>
    "Template '" ++ name ++ "' not found in any of " ++ toString count ++ " loaders"
      ++ String.join (reasons.map ("\n  " ++ ·))
  | .other text => text

/-! ## §4. Snippets. -/

/-- Rows of a template around a line that failed. -/
structure Snippet where
  /-- The numbered rows. -/
  rows : List (Int × String)
  /-- The number of the line that failed. -/
  errorLine : Int

namespace Snippet

/-- The rows of a source from `context` lines before a line to `context` lines after it. -/
def around (source : String) (line : Int) (context : Int) : Snippet :=
  let all := lines source
  let first := max 0 (line - 1 - context)
  let last := min (all.length : Int) (line + context)
  let rows := (all.zipIdx.filter fun (_, i) => first ≤ (i : Int) && (i : Int) < last).map
    fun (text, i) => ((i : Int) + 1, text)
  ⟨rows, line⟩

/-- The snippet as text. -/
def text (color : Bool) (s : Snippet) : String :=
  let rule := style color .muted "   |"
  "\n".intercalate
    (rule :: s.rows.map (fun (n, content) => sourceRow color n content (n == s.errorLine)) ++ [rule])

end Snippet

/-! ## §5. Failures while rendering. -/

/-- What kind of failure a report describes. -/
inductive FailureKind where
  /-- A failure with its description. -/
  | plain (text : String)
  /-- Templates nest too deeply. -/
  | includeDepth (text : String)
  /-- A name is undefined; `close` is the nearest of the names that were available. -/
  | undefined (name : String) (close : Option String)

/-- A failure while rendering, with its place. -/
structure Report where
  /-- The failure. -/
  kind : FailureKind
  /-- Name or path of the template. -/
  templateName : Option String := none
  /-- Line in the template. -/
  lineno : Option Int := none
  /-- What may help. -/
  suggestion : Option String := none
  /-- Template lines around the line. -/
  snippet : Option Snippet := none
  /-- The enclosing templates, outermost first. -/
  stack : List String := []

namespace Report

/-- The code of a failure. -/
def code (r : Report) : ErrorCode :=
  match r.kind with
  | .plain _ => .runtimeError
  | .includeDepth _ => .includeDepth
  | .undefined _ _ => .undefinedVariable

/-- The description of a failure. -/
def detail (color : Bool) (r : Report) : String :=
  match r.kind with
  | .plain text | .includeDepth text => text
  | .undefined name close =>
    "Undefined variable '" ++ name ++ "'"
      ++ (match close with
        | some other => ". Did you mean '" ++ style color .matched other ++ "'?"
        | none => "")

/-- An absent name or line and an empty one count alike. -/
def given (name : Option String) : Option String := name.filter (!·.isEmpty)

/-- The line, unless it is absent or zero. -/
def line? (r : Report) : Option Int := r.lineno.filter (· != 0)

/-- Where the failure is: the template and, if known, the line. -/
def place (r : Report) : String :=
  (given r.templateName).getD "<template>"
    ++ (match r.line? with
      | some n => ":" ++ toString n
      | none => "")

/-- The full text of a report. -/
def message (color : Bool) (r : Report) : String :=
  let location :=
    if (given r.templateName).isSome || r.line?.isSome then
      ["  Location: " ++ style color .location r.place]
    else []
  let snippet := (r.snippet.map (·.text color)).toList
  let stack := if r.stack.isEmpty then [] else ["", stackText color r.stack]
  let suggestion :=
    (given r.suggestion).toList.map fun s =>
      "\n  " ++ style color .hint "Suggestion:" ++ " " ++ s
  "\n".intercalate
    (("Runtime Error: " ++ r.detail color) :: location ++ snippet ++ stack ++ suggestion)

/-- The short form of a report. -/
def compact (color : Bool) (r : Report) : String :=
  let snippet := (r.snippet.map (·.text color)).toList
  let hint := (given r.suggestion).toList.map fun s => "  " ++ style color .hint "Hint:" ++ " " ++ s
  let docs := "  " ++ style color .muted "Docs:" ++ " " ++ style color .link r.code.docsUrl
  "\n".intercalate
    (headerText color (some r.code.value) (r.detail color)
      :: ("  Location: " ++ style color .location r.place) :: snippet ++ hint ++ [docs])

/-- The failure of an undefined name, with the nearest of the available names. -/
def ofUndefined (name : String) (available : List String) : Report where
  kind := .undefined name (closest? name available)
  suggestion := some
    ("Pass '" ++ name ++ "' in the render data, or read it with it.get('" ++ name ++ "')")

end Report

/-! ## §6. Render functions that do not compile. -/

/-- Where a generated render function does not compile. -/
structure SyntaxReport where
  /-- What is wrong. -/
  text : String
  /-- Line in the generated function. -/
  lineno : Option Int := none
  /-- Name of the template. -/
  name : Option String := none
  /-- Path of the template. -/
  filename : Option String := none
  /-- The line of code. -/
  codeLine : Option String := none

/-- The full text of a report. -/
def SyntaxReport.message (r : SyntaxReport) : String :=
  let place := ((Report.given r.filename).or (Report.given r.name)).getD "<template>"
  let header := "Syntax Error: " ++ r.text ++ "\n  --> " ++ place
  match Report.given r.codeLine with
  | some line => header ++ "\n   | " ++ trimmed line
  | none => header

/-! ## §7. All errors of the library. -/

/-- An error of the library. -/
inductive TemplateError where
  /-- An error without a family. -/
  | plain (text : String)
  /-- An unusable configuration. -/
  | configuration (cause : ConfigCause)
  /-- A missing template. -/
  | notFound (cause : Missing)
  /-- A render function that does not compile. -/
  | badCode (report : SyntaxReport)
  /-- A failure while rendering. -/
  | failure (report : Report)

namespace TemplateError

/-- The name of the class of an error. -/
def className : TemplateError → String
  | .plain _ => "TemplateError"
  | .configuration _ => "ConfigurationError"
  | .notFound _ => "TemplateNotFoundError"
  | .badCode _ => "TemplateSyntaxError"
  | .failure r =>
    match r.kind with
    | .plain _ => "TemplateRuntimeError"
    | .includeDepth _ => "IncludeDepthError"
    | .undefined _ _ => "UndefinedError"

/-- The code of an error. -/
def code? : TemplateError → Option ErrorCode
  | .plain _ => none
  | .configuration _ => some .invalidConfig
  | .notFound _ => some .templateNotFound
  | .badCode _ => some .syntaxError
  | .failure r => some r.code

/-- The full text of an error. -/
def message (color : Bool) : TemplateError → String
  | .plain text => text
  | .configuration cause => cause.message
  | .notFound cause => cause.message
  | .badCode r => r.message
  | .failure r => r.message color

/-- The short form of an error. -/
def compact (color : Bool) (e : TemplateError) : String :=
  match e with
  | .failure r => r.compact color
  | _ =>
    let text := e.message color
    match e.code? with
    | none => text
    | some c =>
      (if (indexOf? c.value.toList text.toList).isSome then text else c.value ++ ": " ++ text)
        ++ "\n  Docs: " ++ c.docsUrl

end TemplateError

/-- What can go wrong: an error of the library, or one of the script language. -/
inductive Fault where
  /-- An error of the library. -/
  | template (error : TemplateError)
  /-- An error of the script language, by the name of its class and its text. -/
  | script (className message : String)

/-- A refused configuration as a fault. -/
def ConfigCause.fault (c : ConfigCause) : Fault := .template (.configuration c)

/-- A missing template as a fault. -/
def Missing.fault (m : Missing) : Fault := .template (.notFound m)

end TagTemplate
