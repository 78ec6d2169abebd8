/-
  TagTemplate.Machine.Failure
  ────────────────────────────────
  **FROM AN ERROR TO A REPORT.**

  With debugging on, an error that leaves the code of a template becomes a
  report: where it happened, what it says, and the lines around it.  A report
  stays what it is, so an error is converted once, in the innermost template.
-/
import TagTemplate.Machine.Function

namespace TagTemplate.Machine

open Text

/-- Where an error happened. -/
structure Scene where
  /-- The source of the template. -/
  source : Option String
  /-- The line of the last tag that started; zero if it is not known. -/
  line : Int
  /-- The path of the template. -/
  path : Option String
  /-- The name of the template. -/
  name : Option String
  /-- The templates around it. -/
  stack : List String

/-- The path of the template, or else its name. -/
def Scene.place (s : Scene) : Option String := (Report.given s.path).or s.name

/-- What an error says: its text, or else what it was made with. -/
def describe (m : Machine) (e : Raised) : String :=
  let text := trimmed (e.shown m)
  if !text.isEmpty then e.className ++ ": " ++ text
  else
    match (e.args.map (shown m)).filter fun s => !(trimmed s).isEmpty with
    | [] => e.className ++ " (no details available)"
    | parts => e.className ++ ": " ++ ", ".intercalate parts

/-- The name that an error says is undefined. -/
def undefinedName? (m : Machine) (e : Raised) : Option String :=
  if ErrorClass.isBelow e.className "NameError" then
    (e.name.filter (truthy m)).map (shown m)
  else none

/-- The report on an error. -/
def reportOn (m : Machine) (e : Raised) (s : Scene) : Report :=
  let base :=
    match undefinedName? m e with
    | some name => Report.ofUndefined name []
    | none => { kind := .plain (describe m e) }
  let snippet := (Report.given s.source).bind fun source =>
    if s.line == 0 then none else some (Snippet.around source s.line 2)
  { base with
    templateName := s.place
    lineno := if s.line == 0 then none else some s.line
    snippet
    stack := s.stack }

/-- A value for a report. -/
def newReport (r : Report) : Eval Value := do
  let e := TemplateError.failure r
  let text := e.message (← get).color
  new (.error { className := e.className, args := [.str text], report := some e })

/-- What is logged about an error in a template. -/
def failedText (m : Machine) (s : Scene) (error : Value) : String :=
  "Template " ++ s.place.getD "None" ++ " failed at line " ++ toString s.line ++ ": "
    ++ written m error

/-- An error as a report, unless it is one. -/
def convert (error : Value) (s : Scene) : Eval Value := do
  match ← cellOf? error with
  | some (.error e) =>
    if ErrorClass.isBelow e.className "TemplateRuntimeError" then return error
    else newReport (reportOn (← get) e s)
  | _ => typeFail "cannot report '" error "'"

/-- An error in a template of the current render as a report. -/
def convertHere (error : Value) (source : Option String) (line : Int) (path : Option String) :
    Eval Value := do
  let m ← get
  let s : Scene :=
    { source, line, path
      name := m.context.bind (·.templateName)
      stack := (m.context.map (·.stack)).getD [] }
  debugRecord .environment (failedText m s error)
  convert error s

end TagTemplate.Machine
