/-
  TagTemplate.Loader
  ────────────────────────────────
  **WHERE TEMPLATES COME FROM.**

  A loader maps a name to a source and, if there is a file, its path.  Names
  that start with `./` or `../` are resolved against the template that asks
  (`resolveName`) before a loader sees them.  The file system is a value: a
  list of files by path and a current directory, read from without any
  effect.

  A name that is absolute or has a `..` component is refused by the loader of
  files, so it never leaves its directories.
-/
import TagTemplate.Error
import TagTemplate.Text.Encoding
import TagTemplate.Text.Path

namespace TagTemplate

open Text

/-! ## §1. Relative names. -/

/-- Whether a name is relative to the template that asks for it. -/
def isRelative (name : String) : Bool := name.startsWith "./" || name.startsWith "../"

/-- The name a relative name stands for, given the name of the template that asks. -/
def resolveName (name : String) (parent : Option String) : String :=
  match Report.given parent with
  | some p =>
    if isRelative name then Path.normalize (Path.append (Path.directory p) name) else name
  | none => name

/-! ## §2. Missing templates. -/

/-- The distinct names of a list in ascending order. -/
def sortedNames (names : List String) : List String :=
  (names.mergeSort (fun a b => a ≤ b)).eraseReps

/-- The error for a missing template, with the likeliest of the known names. -/
def notFoundAmong (name place : String) (known : List String) : Missing :=
  if isRelative name then .notFound name place .relative
  else
    let candidates := sortedNames known
    match closest? name candidates with
    | some close => .notFound name place (.close close)
    | none =>
      if candidates.isEmpty then .notFound name place .nothing
      else .notFound name place (.listed (candidates.take maxListed) candidates.length)

/-! ## §3. Files as a value. -/

/-- Files by the components of their path, with their bytes.  Every file may be read, and there is
no limit to how long a path is. -/
structure FileSystem where
  /-- The files. -/
  files : List (List String × List Nat) := []

/-- What loaders read from. -/
structure Surroundings where
  /-- The files, by their path from the top of a tree of directories. -/
  files : FileSystem := {}
  /-- The current directory, from the top of the tree. -/
  current : List String := []
  /-- The top of the tree is the root of all paths; else there is nothing to be found above it. -/
  isWhole : Bool := false
  /-- The shared mapping. -/
  shared : List (String × String) := []

namespace Surroundings

/-- Whether the components name a directory. -/
def isDirectory (s : Surroundings) (dir : List String) : Bool :=
  dir.isPrefixOf s.current
    || s.files.files.any fun (path, _) => dir.isPrefixOf path && dir.length < path.length

/-- Go from a directory along components; a `..` leaves the last directory, and every directory on
the way has to exist. -/
def along (s : Surroundings) : List String → List String → Option (List String)
  | here, [] => some here
  | here, part :: rest =>
    if !s.isDirectory here then none
    else if part == ".." then
      if here.isEmpty && !s.isWhole then none else along s here.dropLast rest
    else along s (here ++ [part]) rest

/-- Where a path and components below it lead, from the top of the tree. -/
def locate? (s : Surroundings) (path : String) (below : List String) : Option (List String) :=
  if !Path.isAbsolute path then s.along s.current (Path.components path ++ below)
  else if s.isWhole then s.along [] (Path.components path ++ below)
  else none

/-- The bytes of the file below a path. -/
def read? (s : Surroundings) (path : String) (below : List String) : Option (List Nat) :=
  (s.locate? path below).bind fun place => s.files.files.lookup place

/-- The names of the files in the directory below a path. -/
def list (s : Surroundings) (path : String) (below : List String) : List String :=
  match s.locate? path below with
  | some dir =>
    s.files.files.filterMap fun (file, _) =>
      if dir.isPrefixOf file && file.length == dir.length + 1 then file.getLast? else none
  | none => []

end Surroundings

/-! ## §4. Loaders. -/

/-- A template as a loader gives it. -/
structure Loaded where
  /-- The source. -/
  source : String
  /-- The path of its file, if there is one. -/
  filename : Option String

/-- Where templates come from. -/
inductive Loader where
  /-- Sources by name. -/
  | mapping (templates : List (String × String))
  /-- The mapping that belongs to the surroundings and may change. -/
  | shared
  /-- Directories, searched in order. -/
  | directories (paths : List String) (encoding : Encoding)
  /-- Loaders, asked in order. -/
  | choice (loaders : List Loader)
  /-- A loader of another making, by the name of its class. -/
  | custom (className : String) (get : String → Except Fault Loaded)

namespace Loader

/-- The name of the class of a loader. -/
def className : Loader → String
  | .mapping _ | .shared => "DictLoader"
  | .directories _ _ => "FileSystemLoader"
  | .choice _ => "ChoiceLoader"
  | .custom name _ => name

/-- Look a name up in a mapping. -/
def fromMapping (templates : List (String × String)) (name : String) : Except Fault Loaded :=
  match templates.lookup name with
  | some source => .ok ⟨source, none⟩
  | none => .error (notFoundAmong name "" (templates.map (·.1))).fault

/-- A search directory as it is spelled in paths. -/
def directoryText (path : String) : String :=
  Path.spelled (if Path.isAbsolute path then Path.rootOf path else "") (Path.components path)

/-- The path of a file below a search directory. -/
def fileText (path : String) (parts : List String) : String :=
  Path.spelled (if Path.isAbsolute path then Path.rootOf path else "")
    (Path.components path ++ parts)

/-- The names next to a missing name, over all directories. -/
def siblings (s : Surroundings) (paths : List String) (name : String) : List String :=
  let folder := Path.directory name
  paths.flatMap fun path => (s.list path (Path.components folder)).map (Path.append folder)

/-- Look a name up in directories. -/
def fromDirectories (s : Surroundings) (paths : List String) (encoding : Encoding) (name : String) :
    Except Fault Loaded :=
  let parts := Path.components name
  if Path.isAbsolute name || parts.contains ".." then .error (Missing.outside name).fault
  else
    match paths.findSome? fun path => (s.read? path parts).map (path, ·) with
    | some (path, bytes) =>
      match encoding.decode bytes with
      | .ok text => .ok ⟨String.ofList (unifyNewlines text), some (fileText path parts)⟩
      | .error f => .error (.script "UnicodeDecodeError" f.message)
    | none =>
      .error (notFoundAmong name (" in: " ++ ", ".intercalate (paths.map directoryText))
        (siblings s paths name)).fault

mutual

/-- The template a loader has under a name. -/
def get (s : Surroundings) (name : String) : Loader → Except Fault Loaded
  | .mapping templates => fromMapping templates name
  | .shared => fromMapping s.shared name
  | .directories paths encoding => fromDirectories s paths encoding name
  | .choice loaders => getFirst s name loaders.length loaders []
  | .custom _ get => get name

/-- The first of several loaders that has a name; `reasons` says why those before did not. -/
def getFirst (s : Surroundings) (name : String) (count : Nat) :
    List Loader → List String → Except Fault Loaded
  | [], reasons => .error (Missing.inNone name count reasons).fault
  | l :: rest, reasons =>
    match get s name l with
    | .error (.template (.notFound m)) =>
      getFirst s name count rest (reasons ++ [l.className ++ ": " ++ m.message])
    | result => result

end

/-- A loader that makes a template of every name: it writes the name in capitals. -/
def upper : Loader :=
  .custom "UpperLoader" fun name =>
    .ok ⟨"<%= " ++ quoted name ++ ".upper() %>", some ("mem://" ++ name)⟩

end Loader

end TagTemplate
