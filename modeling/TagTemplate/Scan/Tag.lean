/-
  TagTemplate.Scan.Tag
  ────────────────────────────────
  **FINDING TAGS.**

  A tag is the opening delimiter, an optional trim marker, blanks, an
  optional prefix character, blanks, the body, blanks, an optional trim
  marker and the closing delimiter.  The body is read in steps: a complete
  quoted run or comment is one step, any other character is one step of its
  own.  The tag ends at the first step boundary behind which its end can be
  read, so a closing delimiter inside a quoted run does not end it.

  What stands before the body is read greedily and given back only if the
  rest of the text then holds no end; `heads` lists the ways to read it in
  the order in which they are tried.

  `TagSpan` keeps every part of a tag, so `TagSpan.text` is the tag again,
  and `scanTags` cuts a text into gaps and tags without losing anything.
-/
import TagTemplate.Tag
import TagTemplate.Text.Lines
import TagTemplate.Text.Classes

namespace TagTemplate

open Text

/-- Delimiters and prefix characters. -/
structure Delimiters where
  /-- The opening delimiter. -/
  opening : List Char
  /-- The closing delimiter. -/
  closing : List Char
  /-- The prefix characters. -/
  marks : List Char

/-! ## §1. Steps of a body. -/

/-- The quote that is no apostrophe and no double quote. -/
def backquote : Char := Char.ofNat 0x60

/-- Whether a backslash may stand before a character in a quoted run. -/
def isEscapable (c : Char) : Bool :=
  isBlank c || isWordChar c || c == '"' || c == '\'' || c == '\\' || c == backquote

/-- Whether a character may stand unescaped in a run between `quote`s. -/
def isRunChar (quote c : Char) : Bool :=
  c != quote && c != '\\' && (quote == backquote || (c != '\n' && c != '\r'))

/-- The number of characters up to the end of a quoted run whose opening quote has been read. -/
def runLength (quote : Char) : List Char → Option Nat
  | [] => none
  | '\\' :: c :: rest => if isEscapable c then (runLength quote rest).map (· + 2) else none
  | c :: rest =>
    if c == quote then some 1
    else if isRunChar quote c then (runLength quote rest).map (· + 1)
    else none

/-- The number of characters up to the end of a comment whose start has been read. -/
def commentLength : List Char → Option Nat
  | '*' :: '/' :: _ => some 2
  | _ :: rest => (commentLength rest).map (· + 1)
  | [] => none

/-- How many characters of `rest` belong to the step that begins with `c`. -/
def stepTail (c : Char) (rest : List Char) : Nat :=
  if c == '\'' || c == '"' || c == backquote then (runLength c rest).getD 0
  else if c == '/' then
    match rest with
    | '*' :: after => ((commentLength after).map (· + 1)).getD 0
    | _ => 0
  else 0

/-! ## §2. The end of a tag. -/

/-- The end of a tag as it was read. -/
structure TagEnd where
  /-- The blanks before it. -/
  blanks : List Char
  /-- The trim marker. -/
  marker : Option Char

/-- Read an optional marker and the closing delimiter; the marker is preferred. -/
def endMarker? (d : Delimiters) : List Char → Option (Option Char)
  | c :: rest =>
    if isMarker c && startsWith d.closing rest then some (some c)
    else if startsWith d.closing (c :: rest) then some none
    else none
  | [] => if startsWith d.closing [] then some none else none

/-- Try the end of a tag behind `k`, `k - 1`, … blanks. -/
def endBehind? (d : Delimiters) (s : List Char) : Nat → Option TagEnd
  | 0 => (endMarker? d s).map (⟨[], ·⟩)
  | k + 1 =>
    match endMarker? d (s.drop (k + 1)) with
    | some marker => some ⟨s.take (k + 1), marker⟩
    | none => endBehind? d s k

/-- The end of a tag at the start of a text: as many blanks as possible, an optional marker, the
closing delimiter. -/
def tagEnd? (d : Delimiters) (s : List Char) : Option TagEnd :=
  endBehind? d s (s.takeWhile isBlank).length

/-- The body up to the first step boundary behind which the tag can end. -/
def bodyEnd? (d : Delimiters) (s : List Char) : Option (List Char × TagEnd) :=
  match tagEnd? d s with
  | some stop => some ([], stop)
  | none =>
    match s with
    | [] => none
    | c :: rest =>
      let n := stepTail c rest
      (bodyEnd? d (rest.drop n)).map fun (body, stop) => (c :: rest.take n ++ body, stop)
termination_by s.length

/-! ## §3. The head of a tag. -/

/-- One way to read what stands before the body. -/
structure TagHead where
  /-- The trim marker. -/
  marker : Option Char
  /-- The blanks behind it. -/
  lead : List Char
  /-- The prefix character. -/
  mark : Option Char
  /-- The blanks behind that. -/
  gap : List Char
  /-- The text from the body on. -/
  rest : List Char

/-- The ways to read blanks, a prefix character and blanks, from the greediest on. -/
def headsAfter (d : Delimiters) (marker : Option Char) (s : List Char) : List TagHead :=
  let blanks := s.takeWhile isBlank
  let after := s.drop blanks.length
  let marked := match after with
    | c :: rest =>
      if d.marks.contains c then
        let gap := rest.takeWhile isBlank
        (List.range (gap.length + 1)).reverse.map fun k =>
          ⟨marker, blanks, some c, gap.take k, rest.drop k⟩
      else []
    | [] => []
  let plain := (List.range (blanks.length + 1)).reverse.map fun k =>
    ⟨marker, blanks.take k, none, [], s.drop k⟩
  marked ++ plain

/-- All ways to read the head of a tag whose opening delimiter has been read. -/
def heads (d : Delimiters) (s : List Char) : List TagHead :=
  match s with
  | c :: rest =>
    if isMarker c then headsAfter d (some c) rest ++ headsAfter d none s else headsAfter d none s
  | [] => headsAfter d none []

/-! ## §4. Tags. -/

/-- A tag with all its parts. -/
structure TagSpan where
  /-- The left trim marker. -/
  left : Option Char
  /-- The blanks behind it. -/
  lead : List Char
  /-- The prefix character. -/
  mark : Option Char
  /-- The blanks behind that. -/
  gap : List Char
  /-- The body. -/
  body : List Char
  /-- The blanks behind the body. -/
  tail : List Char
  /-- The right trim marker. -/
  right : Option Char

/-- The text of a tag. -/
def TagSpan.text (d : Delimiters) (t : TagSpan) : List Char :=
  d.opening ++ t.left.toList ++ t.lead ++ t.mark.toList ++ t.gap ++ t.body ++ t.tail
    ++ t.right.toList ++ d.closing

/-- The tag that a head begins. -/
def TagHead.complete? (d : Delimiters) (h : TagHead) : Option TagSpan :=
  (bodyEnd? d h.rest).map fun (body, stop) =>
    ⟨h.marker, h.lead, h.mark, h.gap, body, stop.blanks, stop.marker⟩

/-- The tag at the start of a text. -/
def tagAt? (d : Delimiters) (s : List Char) : Option TagSpan :=
  match dropStart? d.opening s with
  | some after => (heads d after).findSome? (·.complete? d)
  | none => none

/-- Cut a text into gaps, each followed by a tag, and the text behind the last tag; `gap` is the
text already read since the last tag, in reverse. -/
def scanFrom (d : Delimiters) (gap : List Char) (s : List Char) :
    List (List Char × TagSpan) × List Char :=
  match s with
  | [] => ([], gap.reverse)
  | c :: rest =>
    match tagAt? d (c :: rest) with
    | some span =>
      let more := scanFrom d [] (rest.drop ((span.text d).length - 1))
      ((gap.reverse, span) :: more.1, more.2)
    | none => scanFrom d (c :: gap) rest
termination_by s.length

/-- Cut a text into gaps and tags. -/
def scanTags (d : Delimiters) (s : List Char) : List (List Char × TagSpan) × List Char :=
  scanFrom d [] s

end TagTemplate
