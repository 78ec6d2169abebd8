/-
  TagTemplate.Code.Emitter
  ────────────────────────────────
  **WRITING INSTRUCTIONS AS INDENTED CODE.**

  The script language marks blocks by indentation, a template marks them by
  tags.  The emitter keeps the stack of open blocks: a statement that opens a
  block pushes one, an `end` tag pops it, a continuation (`else`, `elif`,
  `except`, `finally`, or a further `case`) pops one block and opens the
  next.  A block that got no line is given a `pass`.

  `Emitter.emit` is one step on an explicit state; nothing here can fail.
-/
import TagTemplate.Code.Builder
import TagTemplate.Code.Instruction
import TagTemplate.Block.Statement

namespace TagTemplate

open Text

/-! ## §1. The state. -/

/-- An open block. -/
structure OpenBlock where
  /-- The first word of its header. -/
  keyword : String
  /-- The level outside the block. -/
  base : Int
  /-- The number of lines inside so far. -/
  count : Nat := 0
  deriving DecidableEq, Repr

/-- The state of the emitter. -/
structure Emitter where
  /-- The code so far. -/
  builder : Builder := {}
  /-- The open blocks, innermost first. -/
  blocks : List OpenBlock := []
  /-- How many `end` tags had nothing to close. -/
  unmatched : Nat := 0
  /-- How many blocks each closing of all blocks found open, where it found any (newest first). -/
  unclosed : List Nat := []

namespace Emitter

/-! ## §2. Lines and blocks. -/

/-- Count one more line in the innermost block. -/
def countLine : List OpenBlock → List OpenBlock
  | b :: rest => { b with count := b.count + 1 } :: rest
  | [] => []

/-- Write a line inside the innermost block. -/
def line (e : Emitter) (text : String) : Emitter :=
  { e with builder := e.builder.add text, blocks := countLine e.blocks }

/-- Leave a block: fill it if it is empty, and go back to the level outside. -/
def close (e : Emitter) (b : OpenBlock) : Emitter :=
  let builder := if b.count == 0 then e.builder.add "pass" else e.builder
  { e with builder := { builder with level := b.base } }

/-- Close the innermost block, if there is one. -/
def pop (e : Emitter) : Emitter :=
  match e.blocks with
  | b :: rest => { e with blocks := rest }.close b
  | [] => e

/-- Whether the innermost block is a `match` before its first `case`. -/
def inBareMatch (e : Emitter) : Bool :=
  match e.blocks with
  | b :: _ => b.keyword == "match"
  | [] => false

/-- Close the given open blocks one by one. -/
def closeGo : List OpenBlock → Emitter → Emitter
  | [], e => e
  | b :: rest, e => closeGo rest ({ e with blocks := rest }.close b)

/-- Close all blocks. -/
def closeAll (e : Emitter) : Emitter :=
  let e := if e.blocks.isEmpty then e else { e with unclosed := e.blocks.length :: e.unclosed }
  closeGo e.blocks e

/-- The line that stands for an `end` tag without a block. -/
def unmatchedLine : String := "raise SyntaxError(\"unmatched 'end' tag\")"

/-- Take in an `end` tag: close the innermost block, and a `match` together with its last `case`. -/
def closeEnd (e : Emitter) : Emitter :=
  match e.blocks with
  | [] => { e with unmatched := e.unmatched + 1 }.line unmatchedLine
  | b :: rest =>
    let e := { e with blocks := rest }.close b
    if b.keyword == "case" && e.inBareMatch then e.pop else e

/-! ## §3. Statements. -/

/-- The word a line starts with, if it starts with an ASCII letter or an underscore. -/
def firstWord (s : List Char) : String :=
  match s with
  | c :: rest =>
    if isAsciiLetter c then String.ofList (c :: rest.takeWhile isWordChar) else ""
  | [] => ""

/-- The words that continue a statement after its block. -/
def continuations : List String := ["else", "elif", "except", "finally"]

/-- Whether a statement with this first word continues the innermost block. -/
def continues (e : Emitter) (word : String) : Bool :=
  match e.blocks with
  | b :: _ => continuations.contains word || (word == "case" && b.keyword == "case")
  | [] => false

/-- The number of blanks a line starts with. -/
def indentOf (line : List Char) : Nat := (line.takeWhile isBlank).length

/-- Write the lines of a statement and open a block if the last one asks for it. -/
def writeStatement (e : Emitter) (lines : List (List Char)) (word : String) : Emitter :=
  let base := e.builder.level
  let e := lines.foldl (fun e l => e.line (String.ofList l)) e
  let last := lines.getLastD []
  if Block.opensBlock (strip last) then
    let keyword := if lines.length > 1 then firstWord (stripStart last) else word
    { e with
      blocks := ⟨keyword, base, 0⟩ :: e.blocks
      builder := { e.builder with level := base + indentOf last + Builder.step } }
  else { e with builder := { e.builder with level := base } }

/-- Take in an execute body. -/
def statement (e : Emitter) (code : String) : Emitter :=
  let lines := Block.statementLines code.toList
  let head := lines.headD []
  if head.isEmpty then e
  else if String.ofList head == "end" then e.closeEnd
  else
    let word := firstWord head
    (if e.continues word then e.pop else e).writeStatement lines word

/-! ## §4. The other instructions. -/

/-- The code of an expression that is appended. -/
def expressionLine (expr : String) (filtered escaped : Bool) : String :=
  let inner := if filtered then "__kiln.f(" ++ expr ++ ")" else expr
  let outer := if escaped then "__kiln.e(" ++ inner ++ ")" else "__kiln.s(" ++ inner ++ ")"
  "__kiln_append(" ++ outer ++ ")"

/-- The lines that render a layout. -/
def layoutLines (contextName : String) (asyncMode : Bool) : List String :=
  let call := if asyncMode then "await include_async" else "include"
  ["if __kiln.layout is not None:",
    "    __kiln.res[:] = [" ++ call ++ "(__kiln.layout, \x7b**" ++ contextName
      ++ ", 'body': ''.join(__kiln.res), **__kiln.layout_data\x7d)]"]

/-- Take in one instruction. -/
def emit (contextName : String) (e : Emitter) : Instruction → Emitter
  | .appendLiteral value =>
    if e.inBareMatch && allBlank (Literal.unescape value.toList) then e
    else e.line ("__kiln_append('" ++ value ++ "')")
  | .appendExpression expr filtered escaped => e.line (expressionLine expr filtered escaped)
  | .executeStatement code => e.statement code
  | .setLine lineno =>
    if e.inBareMatch then e else e.line ("__kiln.line = " ++ toString lineno)
  | .checkLayout asyncMode =>
    let e := e.closeAll
    { e with builder := e.builder.addAll (layoutLines contextName asyncMode) }

/-- Take in a program. -/
def emitAll (contextName : String) (e : Emitter) (program : List Instruction) : Emitter :=
  program.foldl (emit contextName) e

end Emitter

end TagTemplate
