/-
  TagTemplate.Compile
  ────────────────────────────────
  **FROM A TEMPLATE TO A PROGRAM.**

  A template is scanned, its nodes become the body of a render function, and
  the function becomes a tree of the script language.  Whatever is wrong with
  the function is reported with the line of the code it is on.

  A report shows that line.  Where a file of the template's name exists, the
  line of that file is shown instead, because the file is what the name is
  taken to stand for.
-/
import TagTemplate.Code.Generate
import TagTemplate.Context
import TagTemplate.Environment
import TagTemplate.Scan.Parse
import TagTemplate.Script.Placement

namespace TagTemplate

open Text Script

/-! ## §1. Lines of files. -/

/-- The lines of a file in bytes; a line ends at a line feed, a carriage return, or both. -/
def byteLines : List Nat → List (List Nat)
  | [] => []
  | bytes => go [] bytes
where
  /-- The lines of the rest of a file, after the start of one (newest byte first). -/
  go (line : List Nat) : List Nat → List (List Nat)
    | [] => if line.isEmpty then [] else [line.reverse]
    | 13 :: 10 :: rest => line.reverse :: go [] rest
    | 13 :: rest => line.reverse :: go [] rest
    | 10 :: rest => line.reverse :: go [] rest
    | b :: rest => go (b :: line) rest

/-- How many bytes of a line are shown. -/
def shownBytes : Nat := 999

/-- A line of bytes as text; the first line of a file may start with a byte order mark. -/
def lineText (first : Bool) (bytes : List Nat) : String :=
  let bytes := bytes.take shownBytes
  let bytes := match first, bytes with
    | true, 0xEF :: 0xBB :: 0xBF :: rest => rest
    | _, _ => bytes
  String.ofList (readReplaced (bytes.length + 1) bytes)

/-- A line of a file, if there is such a file and it has such a line. -/
def Surroundings.line? (s : Surroundings) (path : String) (line : Nat) : Option String :=
  if line == 0 then none
  else
    (s.read? path []).bind fun bytes => (byteLines bytes)[line - 1]?.map (lineText (line == 1))

/-! ## §2. The tree of a render function. -/

/-- What the code of a template without name and file is called. -/
def anonymousCode : String := "<template>"

/-- A report on a render function that does not compile. -/
def codeReport (s : Surroundings) (name filename : Option String) (text : String)
    (line : Option Nat) (shown : Option String) : SyntaxReport where
  text := text
  lineno := line.map fun n => (n : Int)
  name := name
  filename := filename
  codeLine :=
    let place := ((Report.given filename).or (Report.given name)).getD anonymousCode
    (line.bind (s.line? place)).or shown

/-- The tree of a render function, or a report on what is wrong with it. -/
def functionTree (s : Surroundings) (name filename : Option String) (code : String) :
    Except Fault Tree :=
  let report (text : String) (line : Option Nat) (shown : Option String) : Except Fault Tree :=
    .error (.template (.badCode (codeReport s name filename text line shown)))
  match parseTree code with
  | .error f => report f.text f.line f.shown
  | .ok t =>
    match misplaced t with
    | some line => report "misplaced statement" (some line) none
    | none => .ok t

/-! ## §3. The stages together. -/

namespace Environment

/-- The body of the render function of a template. -/
def bodyOf (e : Environment) (source : String) (asyncMode : Bool) : Traced String := do
  let nodes ← parse e.scan source
  generate { e.code with asyncMode } nodes source

/-- The render function of a template. -/
def functionOf (e : Environment) (source : String) (asyncMode : Bool) : Traced String := do
  return wrapFunction (← e.bodyOf source asyncMode) asyncMode e.code.contextName

/-- What is logged about a template that compiled. -/
def compiledText (name : Option String) (asyncMode : Bool) (code : String) : String :=
  "Compiled template " ++ RenderContext.nameOr name ++ " ("
    ++ (if asyncMode then "async" else "sync") ++ ", " ++ toString (newlineCount code) ++ " lines)"

/-- The code and the tree of the render function of a template. -/
def compile (e : Environment) (s : Surroundings) (source : String) (name filename : Option String)
    (asyncMode : Bool) : Traced (String × Tree) := do
  let code ← e.functionOf source asyncMode
  let place := ((Report.given filename).or (Report.given name)).getD anonymousCode
  if place.toList.contains '\x00' then
    throw (.script "ValueError" "embedded null character")
  let tree ← (functionTree s name filename code : Except Fault Tree)
  debugRecord .environment (compiledText name asyncMode code)
  return (code, tree)

end Environment

end TagTemplate
