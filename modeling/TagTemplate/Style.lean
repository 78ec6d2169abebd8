/-
  TagTemplate.Style
  ────────────────────────────────
  **ROLES AND COLOURS OF DIAGNOSTICS.**

  Every piece of an error report has a role and every role one colour
  sequence.  Colour is an argument of each function that writes a report, so
  a report with colours and one without differ by the sequences alone.
-/
import TagTemplate.Text.Lines

namespace TagTemplate

/-- What a styled piece of a report is. -/
inductive Role where
  /-- An error code. -/
  | code
  /-- A template location. -/
  | location
  /-- The line number of a snippet row. -/
  | gutter
  /-- The line that failed. -/
  | offending
  /-- The word before a hint. -/
  | hint
  /-- A suggested name. -/
  | matched
  /-- Anything in the background. -/
  | muted
  /-- A link. -/
  | link
  deriving DecidableEq, Repr

/-- The colour parameters of a role. -/
def Role.sequence : Role → String
  | .code => "91;1"
  | .location => "36"
  | .gutter => "33"
  | .offending => "91"
  | .hint => "32"
  | .matched => "92;1"
  | .muted => "2"
  | .link => "94"

/-- The role with a given name. -/
def Role.ofName? : String → Option Role
  | "code" => some .code
  | "location" => some .location
  | "gutter" => some .gutter
  | "offending" => some .offending
  | "hint" => some .hint
  | "match" => some .matched
  | "muted" => some .muted
  | "link" => some .link
  | _ => none

/-- A text in the colour of its role, and back to normal. -/
def style (color : Bool) (role : Role) (text : String) : String :=
  if color then "\x1b[" ++ role.sequence ++ "m" ++ text ++ "\x1b[0m" else text

/-- Whether reports are coloured: a non-empty `FORCE_COLOR` turns colours on, else a non-empty
`NO_COLOR` turns them off, else a terminal decides. -/
def wantsColor (environ : List (String × String)) (terminal : Bool) : Bool :=
  let isSet name := environ.any fun (k, v) => k == name && !v.isEmpty
  if isSet "FORCE_COLOR" then true else if isSet "NO_COLOR" then false else terminal

/-- A number flush right in three columns. -/
def lineNumberText (n : Int) : String :=
  let digits := toString n
  String.ofList (List.replicate (3 - digits.length) ' ') ++ digits

/-- The first line of a report: the code, if there is one, and the message. -/
def headerText (color : Bool) (code : Option String) (message : String) : String :=
  match code with
  | some c => if c.isEmpty then message else style color .code c ++ ": " ++ message
  | none => message

/-- One row of a snippet. -/
def sourceRow (color : Bool) (number : Int) (content : String) (failed : Bool) : String :=
  let marker := if failed then ">" else " "
  style color .gutter (marker ++ lineNumberText number) ++ " | "
    ++ style color (if failed then .offending else .muted) content

/-- The chain of enclosing templates, outermost first. -/
def stackText (color : Bool) (stack : List String) : String :=
  if stack.isEmpty then ""
  else
    "\n".intercalate (style color .muted "Template stack:"
      :: stack.map fun name => "  • " ++ style color .location name)

end TagTemplate
