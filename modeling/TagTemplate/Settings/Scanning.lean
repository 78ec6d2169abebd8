/-
  TagTemplate.Settings.Scanning
  ────────────────────────────────
  **SETTINGS OF THE SCANNER.**

  `ScanOptions` holds what was asked for, `ScanSettings` what was accepted.
  `ScanOptions.check` accepts exactly the unambiguous combinations: two
  non-empty delimiters, trim modes that exist, and at most one kind of tag
  without a prefix character, the others with characters of their own that
  are neither blank nor trim markers.
-/
import TagTemplate.Settings.Options
import TagTemplate.Text.Blank

namespace TagTemplate

open Text

/-! ## §1. The records. -/

/-- Scanner options as they were given. -/
structure ScanOptions where
  /-- The delimiters. -/
  tags : Datum := .tuple [.str "<%", .str "%>"]
  /-- The character that selects an execute tag. -/
  executeMark : Datum := .str ""
  /-- The character that selects an interpolate tag. -/
  interpolateMark : Datum := .str "="
  /-- The character that selects a raw tag. -/
  rawMark : Datum := .str "~"
  /-- The kind of a tag without a prefix character. -/
  defaultKind : Option TagKind := none
  /-- The global trim mode, or a pair of them. -/
  autoTrim : Datum := .tuple [.trim .off, .trim .newline]
  /-- Record line numbers. -/
  debug : Bool := false
  /-- Plugins. -/
  plugins : List Plugin := []

/-- Scanner settings that have been checked. -/
structure ScanSettings where
  /-- The opening delimiter. -/
  opening : String := "<%"
  /-- The closing delimiter. -/
  closing : String := "%>"
  /-- The character of execute tags; none if they carry none. -/
  executeMark : Option Char := none
  /-- The character of interpolate tags. -/
  interpolateMark : Option Char := some '='
  /-- The character of raw tags. -/
  rawMark : Option Char := some '~'
  /-- The kind asked for tags without a character. -/
  defaultKind : Option TagKind := none
  /-- How literals are trimmed before a tag. -/
  trimBefore : TrimMode := .off
  /-- How literals are trimmed after a tag. -/
  trimAfter : TrimMode := .newline
  /-- Record line numbers. -/
  debug : Bool := false
  /-- Plugins. -/
  plugins : List Plugin := []

namespace ScanSettings

/-- The kinds with their prefix characters, in the order in which they are checked. -/
def marks (s : ScanSettings) : List (TagKind × Option Char) :=
  [(.execute, s.executeMark), (.interpolate, s.interpolateMark), (.raw, s.rawMark)]

/-- The prefix characters with their kinds. -/
def prefixes (s : ScanSettings) : List (Char × TagKind) :=
  s.marks.filterMap fun (kind, mark) => mark.map fun c => (c, kind)

/-- The kind of a tag without a prefix character. -/
def plainKind (s : ScanSettings) : TagKind :=
  match s.marks.find? (·.2.isNone) with
  | some (kind, _) => kind
  | none => s.defaultKind.getD .interpolate

/-- The kind of a tag with a given prefix character or none. -/
def kindOf (s : ScanSettings) : Option Char → TagKind
  | none => s.plainKind
  | some c => (s.prefixes.lookup c).getD s.plainKind

end ScanSettings

/-! ## §2. Checking. -/

/-- The trim mode a datum stands for. -/
def trimModeOf (d : Datum) : Except Fault TrimMode :=
  match d with
  | .trim m => .ok m
  | .none | .bool false => .ok .off
  | _ =>
    match d.text?.bind TrimMode.ofWord? with
    | some m => .ok m
    | none => .error (ConfigCause.badTrimMode d.written).fault

/-- The modes before and after a tag that a datum stands for. -/
def trimPairOf (d : Datum) : Except Fault (TrimMode × TrimMode) :=
  match d with
  | .list items | .tuple items =>
    match items with
    | [before, after] => do return (← trimModeOf before, ← trimModeOf after)
    | _ => .error ConfigCause.badTrimPair.fault
  | _ => do
    let m ← trimModeOf d
    return (m, m)

/-- The two delimiters among the entries. -/
def delimitersOf (entries : List Datum) : Except Fault (String × String) :=
  let refused := .error (ConfigCause.badTags (Datum.written (.tuple entries))).fault
  match entries.map Datum.text? with
  | [some opening, some closing] =>
    if opening.isEmpty || closing.isEmpty then refused else .ok (opening, closing)
  | _ => refused

/-- Check one prefix character against those before it. -/
def checkMark (kind : TagKind) (d : Datum) (seen : List (Char × TagKind)) :
    Except Fault (Option Char) :=
  match d.text?.map String.toList with
  | some [] => .ok none
  | some [c] =>
    if isMarker c || isBlank c then .error (ConfigCause.blankMark kind d.written).fault
    else
      match seen.lookup c with
      | some other => .error (ConfigCause.sharedMark kind other d.written).fault
      | none => .ok (some c)
  | _ => .error (ConfigCause.badMark kind d.written).fault

/-- A found character with its kind. -/
def seenMark (kind : TagKind) (mark : Option Char) : List (Char × TagKind) :=
  mark.toList.map fun c => (c, kind)

/-- Check scanner options. -/
def ScanOptions.check (o : ScanOptions) : Except Fault ScanSettings := do
  let entries ← entriesOf o.tags
  let (trimBefore, trimAfter) ← trimPairOf o.autoTrim
  let (opening, closing) ← delimitersOf entries
  let executeMark ← checkMark .execute o.executeMark []
  let seen := seenMark .execute executeMark
  let interpolateMark ← checkMark .interpolate o.interpolateMark seen
  let seen := seen ++ seenMark .interpolate interpolateMark
  let rawMark ← checkMark .raw o.rawMark seen
  let settings : ScanSettings :=
    { opening, closing, executeMark, interpolateMark, rawMark, defaultKind := o.defaultKind,
      trimBefore, trimAfter, debug := o.debug, plugins := o.plugins }
  let unmarked := (settings.marks.filter (·.2.isNone)).map (·.1)
  match unmarked with
  | [] => return settings
  | [kind] =>
    match o.defaultKind with
    | some given =>
      if given == kind then return settings
      else throw (ConfigCause.kindConflict given kind).fault
    | none => return settings
  | kinds => throw (ConfigCause.manyUnmarked kinds).fault

/-- The scanner options among all options. -/
def ScanOptions.ofOptions (o : Options) : Except Fault ScanOptions := do
  let d : ScanOptions := {}
  let tags := o.datum "tags" d.tags
  let _ ← entriesOf tags
  return {
    tags
    executeMark := o.datum "execute_prefix" d.executeMark
    interpolateMark := o.datum "interpolate_prefix" d.interpolateMark
    rawMark := o.datum "raw_prefix" d.rawMark
    defaultKind := match o.datum "default_kind" .none with
      | .kind k => some k
      | _ => none
    autoTrim := o.datum "auto_trim" d.autoTrim
    debug := o.flag "debug" false
    plugins := ← o.plugins }

/-- The checked scanner settings of some options. -/
def ScanSettings.ofOptions (o : Options) : Except Fault ScanSettings := do
  (← ScanOptions.ofOptions o).check

end TagTemplate
