/-
  TagTemplate.Script.Parse.Basic
  ────────────────────────────────
  **READING TOKENS.**

  A parser reads tokens from a cursor and has one of three outcomes: a value
  with the cursor behind it, a rejection, after which another way may be
  tried, or a halt, which is final.  Beside its position the cursor keeps how
  many tokens have ever been looked at: where nothing more specific is
  known, the last of them is where the text is wrong.

  The same grammar is run twice over a text that does not parse.  The second
  run (`diagnose`) looks for mistakes that deserve their own report.
-/
import TagTemplate.Script.Literal
import TagTemplate.Text.Normal

namespace TagTemplate.Script

/-! ## §1. Faults. -/

/-- Why a text is not a program. -/
structure ScriptFault where
  /-- The line, if the text has lines at all. -/
  line : Option Nat
  /-- The line as it is shown, if it is shown. -/
  shown : Option String
  /-- What is wrong. -/
  text : String
  deriving Repr, Inhabited

/-! ## §2. Sources. -/

/-- A text cut into tokens. -/
structure Source where
  /-- The tokens. -/
  tokens : Array Token
  /-- How they end. -/
  ending : Ending
  /-- The lines of the text. -/
  lines : Array String
  /-- The number of the first line. -/
  firstLine : Nat := 1
  /-- The second run. -/
  diagnose : Bool := false

/-- The source of a text whose first line has the given number. -/
def Source.ofText (text : List Char) (firstLine : Nat) : Source :=
  let (tokens, ending) := tokensOf text firstLine
  { tokens, ending, firstLine,
    lines := ((Text.splitOn '\n' text).map String.ofList).toArray }

/-- A line of a source. -/
def Source.lineText (s : Source) (line : Nat) : String := s.lines.getD (line - s.firstLine) ""

/-- Consecutive lines of a source as one text. -/
def Source.linesText (s : Source) (first last : Nat) : String :=
  "\n".intercalate ((List.range (last + 1 - first)).map fun i => s.lineText (first + i))

/-- A line as a report shows it while the lines from `shownFrom` to `lastLine` are being read. -/
def Source.shown (s : Source) (line lastLine shownFrom : Nat) : String :=
  if lastLine ≤ line then s.linesText shownFrom lastLine else s.lineText line

/-- The fault of an ending that has been reached. -/
def Source.endFault (s : Source) : ScriptFault :=
  let e := s.ending
  match e.flaw with
  | some (.malformed text) => ⟨some e.line, some (s.lineText e.line), text⟩
  | some .overEarly =>
    let line := e.bracket.getD e.line
    ⟨some line, some (s.shown line e.lastLine e.shownFrom), "unexpected EOF while parsing"⟩
  | _ =>
    ⟨some e.line, some (s.shown e.line e.lastLine e.shownFrom), "inconsistent line"⟩

/-! ## §3. Parsers. -/

/-- A place among the tokens. -/
structure Cursor where
  /-- The next token. -/
  pos : Nat := 0
  /-- How many tokens have been looked at. -/
  far : Nat := 0

/-- A final fault: one of the tokens themselves, or one of what they make. -/
inductive Halt where
  /-- The tokens end here. -/
  | ending
  /-- A fault of its own; any later flaw of the tokens wins over it. -/
  | fault (f : ScriptFault) (far : Nat)

/-- The outcome of a parser. -/
inductive Step (α : Type) where
  /-- A value and the cursor behind it. -/
  | ok (value : α) (next : Cursor)
  /-- Not this way; the number of tokens looked at. -/
  | reject (far : Nat)
  /-- Not any way. -/
  | halt (h : Halt)

/-- A parser. -/
def Parse (α : Type) := Source → Cursor → Step α

namespace Parse

/-- A value without reading. -/
@[inline] def pure (a : α) : Parse α := fun _ c => .ok a c

/-- One parser after the other. -/
@[inline] def bind (p : Parse α) (f : α → Parse β) : Parse β := fun s c =>
  match p s c with
  | .ok a next => f a s next
  | .reject far => .reject far
  | .halt h => .halt h

instance : Monad Parse where
  pure := pure
  bind := bind

/-- Not this way. -/
@[inline] def reject : Parse α := fun _ c => .reject c.far

/-- Try the second parser if the first rejects. -/
@[inline] def orElse (p : Parse α) (q : Unit → Parse α) : Parse α := fun s c =>
  match p s c with
  | .reject far => q () s { c with far }
  | r => r

instance : OrElse (Parse α) := ⟨orElse⟩

instance : Inhabited (Parse α) := ⟨reject⟩

/-- The next token, without reading over it. -/
@[inline] def peek : Parse Token := fun s c =>
  match s.tokens[c.pos]? with
  | some t => .ok t { c with far := max c.far (c.pos + 1) }
  | none => .halt .ending

/-- The token `n` places on, without reading. -/
@[inline] def peekAt (n : Nat) : Parse Token := fun s c =>
  match s.tokens[c.pos + n]? with
  | some t => .ok t { c with far := max c.far (c.pos + n + 1) }
  | none => .halt .ending

/-- Read over one token. -/
@[inline] def advance : Parse Unit := fun _ c => .ok () { c with pos := c.pos + 1 }

/-- The token before the cursor. -/
@[inline] def previous : Parse Token := fun s c => .ok (s.tokens.getD (c.pos - 1) default) c

/-- Whether this is the second run. -/
@[inline] def diagnosing : Parse Bool := fun s c => .ok s.diagnose c

/-- Run a parser without looking for specific mistakes. -/
@[inline] def plainly (p : Parse α) : Parse α := fun s c => p { s with diagnose := false } c

/-- A parser's value, or nothing if it rejects. -/
@[inline] def optional (p : Parse α) : Parse (Option α) := fun s c =>
  match p s c with
  | .ok a next => .ok (some a) next
  | .reject far => .ok none { c with far }
  | .halt h => .halt h

/-- The place of the next token. -/
@[inline] def place : Parse Nat := fun _ c => .ok c.pos c

/-- What a parser would yield from a place on, or nothing if it would reject; nothing is read. -/
@[inline] def aheadFrom (pos : Nat) (p : Parse α) : Parse (Option α) := fun s c =>
  match p s { c with pos } with
  | .ok a next => .ok (some a) { c with far := next.far }
  | .reject far => .ok none { c with far }
  | .halt h => .halt h

/-- What a parser would yield, or nothing if it would reject; nothing is read. -/
@[inline] def ahead (p : Parse α) : Parse (Option α) := do aheadFrom (← place) p

/-- Whether a parser would accept; nothing is read. -/
@[inline] def looks (p : Parse α) : Parse Bool := fun s c =>
  match p s c with
  | .ok _ next => .ok true { c with far := next.far }
  | .reject far => .ok false { c with far }
  | .halt h => .halt h

/-- How many tokens are left, one more. -/
@[inline] def room : Parse Nat := fun s c => .ok (s.tokens.size + 1 - c.pos) c

/-- As many values as a parser accepts in a row. -/
def manyGo (p : Parse α) : Nat → List α → Parse (List α)
  | 0, acc => pure acc.reverse
  | fuel + 1, acc => do
    match ← optional p with
    | some a => manyGo p fuel (a :: acc)
    | none => return acc.reverse

/-- As many values as a parser accepts in a row. -/
def many (p : Parse α) : Parse (List α) := do manyGo p (← room) []

/-- A loop that goes on from a value for as long as its step accepts. -/
def loopGo (step : α → Parse α) : Nat → α → Parse α
  | 0, a => pure a
  | fuel + 1, a => do
    match ← optional (step a) with
    | some b => loopGo step fuel b
    | none => return a

/-- A loop that goes on from a value for as long as its step accepts. -/
def loop (step : α → Parse α) (a : α) : Parse α := do loopGo step (← room) a

/-! ## §4. Faults of what the tokens make. -/

/-- Halt with a report of a line. -/
def haltAt (line : Nat) (text : String) : Parse α := fun s c =>
  let last := s.tokens.getD (c.far - 1) default
  .halt (.fault ⟨some line, some (s.shown line last.lastLine last.shownFrom), text⟩ c.far)

/-- Halt with a report of the last token that was looked at. -/
def haltHere (text : String) : Parse α := fun s c =>
  haltAt (s.tokens.getD (c.far - 1) default).line text s c

/-! ## §5. Single tokens. -/

/-- A given mark. -/
@[inline] def mark (m : String) : Parse Unit := do
  let t ← peek
  if t.kind == .mark && t.text == m then advance else reject

/-- A given reserved word. -/
@[inline] def word (w : String) : Parse Unit := do
  let t ← peek
  if t.kind == .keyword && t.text == w then advance else reject

/-- A name that acts as a word in one place only. -/
@[inline] def softWord (w : String) : Parse Unit := do
  let t ← peek
  if t.kind == .name && t.text == w then advance else reject

/-- Any name, in its normal form. -/
@[inline] def name : Parse String := do
  let t ← peek
  if t.kind == .name then
    advance
    return Text.normalForm t.text
  else reject

/-- A token of a kind without characters. -/
@[inline] def layout (k : TokenKind) : Parse Unit := do
  let t ← peek
  if t.kind == k then advance else reject

/-- Whether a given mark is next. -/
@[inline] def nextIs (m : String) : Parse Bool := do
  let t ← peek
  return t.kind == .mark && t.text == m

/-- Whether a given reserved word is next. -/
@[inline] def nextIsWord (w : String) : Parse Bool := do
  let t ← peek
  return t.kind == .keyword && t.text == w

/-- Read over a mark if it is next. -/
@[inline] def tryMark (m : String) : Parse Bool := do
  if ← nextIs m then
    advance
    return true
  else return false

/-- Read over a reserved word if it is next. -/
@[inline] def tryWord (w : String) : Parse Bool := do
  if ← nextIsWord w then
    advance
    return true
  else return false

/-- The line of the next token. -/
@[inline] def lineHere : Parse Nat := do return (← peek).line

/-- Values separated by commas, at least one; a comma at the end belongs to them. -/
def commaList (p : Parse α) : Parse (List α × Bool) := do
  let first ← p
  let rest ← many (do mark ","; p)
  let trailing ← tryMark ","
  return (first :: rest, trailing)

/-- Values separated by commas, at least one, no comma at the end. -/
def commaList1 (p : Parse α) : Parse (List α) := do
  let first ← p
  let rest ← many (do mark ","; p)
  return first :: rest

end Parse

end TagTemplate.Script
