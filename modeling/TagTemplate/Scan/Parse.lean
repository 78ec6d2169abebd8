/-
  TagTemplate.Scan.Parse
  ────────────────────────────────
  **FROM A TEMPLATE TO ITS NODES.**

  Gaps between tags become literals (trimmed, escaped, dropped when nothing
  is left), tags become tag nodes.  A tag that is never closed is no error:
  its text stays in the last literal, and a warning gives its position.
-/
import TagTemplate.Scan.Tag
import TagTemplate.Trim

namespace TagTemplate

open Text

/-- The delimiters of some settings. -/
def ScanSettings.delimiters (s : ScanSettings) : Delimiters :=
  ⟨s.opening.toList, s.closing.toList, s.prefixes.map (·.1)⟩

/-- The literal a gap contributes. -/
def literalOf (settings : ScanSettings) (start stop : Edge) (gap : List Char) : List Node :=
  let value := Literal.breaks (trim settings start stop (Literal.escape gap))
  if value.isEmpty then [] else [.literal (String.ofList value)]

/-- The nodes of gaps and tags; `start` is the edge before the next gap, `line` the line it begins
on. -/
def nodesFrom (settings : ScanSettings) (start : Edge) (line : Nat) :
    List (List Char × TagSpan) → List Char → List Node
  | [], trailing => literalOf settings start .free trailing
  | (gap, span) :: more, trailing =>
    let line := line + gap.count '\n'
    let lineno := if settings.debug then some (line : Int) else none
    literalOf settings start (.ofMarker span.left) gap
      ++ .tag (settings.kindOf span.mark) (String.ofList span.body) lineno
      :: nodesFrom settings (.ofMarker span.right)
        (line + (span.text settings.delimiters).count '\n') more trailing

/-- The nodes of a template before any plugin runs. -/
def nodesOf (settings : ScanSettings) (source : List Char) : List Node :=
  let cut := scanTags settings.delimiters source
  nodesFrom settings .free 1 cut.1 cut.2

/-- The position of the first opening delimiter that no tag begins with. -/
def unterminatedAt? (settings : ScanSettings) (source : List Char) : Option Nat :=
  let trailing := (scanTags settings.delimiters source).2
  (indexOf? settings.opening.toList trailing).map (· + (source.length - trailing.length))

/-- The warning about a tag that is never closed. -/
def unterminatedText (opening : String) (offset : Nat) : String :=
  "Unterminated " ++ quoted opening ++ " tag kept as literal text (offset " ++ toString offset ++ ")"

/-- Parse a template and run the plugins on its nodes. -/
def parse (settings : ScanSettings) (source : String) : Traced (List Node) := do
  let text := source.toList
  match unterminatedAt? settings text with
  | some offset => warn .scanner (unterminatedText settings.opening offset)
  | none => pure ()
  let nodes := nodesOf settings text
  debugRecord .scanner
    ("Scanned " ++ toString nodes.length ++ " nodes from " ++ toString text.length ++ " characters")
  runNodePlugins settings.plugins nodes

end TagTemplate
