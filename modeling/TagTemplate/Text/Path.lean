/-
  TagTemplate.Text.Path
  ────────────────────────────────
  **SLASH-SEPARATED PATHS.**

  Joining, the directory part and the normal form of a path.  The normal
  form drops empty and `.` components and lets `..` remove the component
  before it; a leading `..` stays, except below the root.  Two leading
  slashes are kept as two, three or more become one.

  `components` is the other reading of a path, used to walk a file system:
  it drops empty and `.` components and keeps every `..`.
-/
import TagTemplate.Text.Lines

namespace TagTemplate.Text.Path

/-! ## §1. Splitting and joining. -/

/-- The pieces between slashes. -/
def pieces (p : String) : List String := (splitOn '/' p.toList).map String.ofList

/-- The part before the last slash, without the slashes that end it (unless it is all slashes). -/
def directory (p : String) : String :=
  let head := (p.toList.reverse.dropWhile (· != '/')).reverse
  if head.all (· == '/') then String.ofList head
  else String.ofList (head.reverse.dropWhile (· == '/')).reverse

/-- A path below another; an absolute path replaces it. -/
def append (base p : String) : String :=
  if p.startsWith "/" then p
  else if base.isEmpty || base.endsWith "/" then base ++ p
  else base ++ "/" ++ p

/-- The slashes that a normal form starts with. -/
def rootOf (p : String) : String :=
  if p.startsWith "///" then "/"
  else if p.startsWith "//" then "//"
  else if p.startsWith "/" then "/"
  else ""

/-! ## §2. The normal form. -/

/-- Take one component into the components so far (newest first); `rooted` paths lose a leading
`..`. -/
def normalStep (rooted : Bool) (done : List String) (piece : String) : List String :=
  if piece == "" || piece == "." then done
  else if piece != ".." then piece :: done
  else
    match done with
    | [] => if rooted then [] else [".."]
    | last :: rest => if last == ".." then ".." :: done else rest

/-- The components of the normal form. -/
def normalComponents (rooted : Bool) (parts : List String) : List String :=
  (parts.foldl (normalStep rooted) []).reverse

/-- The normal form of a path. -/
def normalize (p : String) : String :=
  let root := rootOf p
  let text := root ++ "/".intercalate (normalComponents (!root.isEmpty) (pieces p))
  if text.isEmpty then "." else text

/-! ## §3. Components for walking. -/

/-- Whether a path starts at the root. -/
def isAbsolute (p : String) : Bool := p.startsWith "/"

/-- The components that are neither empty nor `.`. -/
def components (p : String) : List String := (pieces p).filter fun c => c != "" && c != "."

/-- A path as its root and components spell it; nothing at all is `.`. -/
def spelled (root : String) (parts : List String) : String :=
  let text := root ++ "/".intercalate parts
  if text.isEmpty then "." else text

end TagTemplate.Text.Path
