/-
  TagTemplate.Script.Parse.Strings
  ────────────────────────────────
  **STRINGS WITH EXPRESSIONS IN THEM.**

  Neighbouring string tokens are one string.  In a string marked with `f` the
  text between braces is an expression: its characters are put into
  parentheses and parsed as a text of their own, on the line where the brace
  stands.  Behind the expression an `=` repeats its text, `!` and a letter
  choose a conversion, and a colon opens a format, in which expressions may
  stand once more.
-/
import TagTemplate.Script.Parse.Basic

namespace TagTemplate.Script

open Text

/-! ## §1. Running a parser over a text. -/

/-- A flaw of the tokens that has not been reached may still win over a fault. -/
def Source.overruled (s : Source) (f : ScriptFault) (far : Nat) : ScriptFault :=
  match s.ending.flaw, s.ending.bracket with
  | some (.malformed _), _ => s.endFault
  | some _, some line =>
    if (s.tokens.getD (far - 1) default).line > line then
      ⟨some line, some (s.shown line s.ending.lastLine s.ending.shownFrom), "bracket never closed"⟩
    else f
  | _, _ => f

/-- The fault of a halt. -/
def Source.settle (s : Source) : Halt → ScriptFault
  | .ending => s.endFault
  | .fault f far => s.overruled f far

/-- The fault of a text that no rule of the grammar takes: it is wrong at the last token that the
first run looked at.  The second run may have looked further. -/
def Source.plainFault (s : Source) (far further : Nat) : ScriptFault :=
  let t := s.tokens.getD (far - 1) default
  let last := s.tokens.getD (further - 1) default
  let report (line : Nat) (text : String) : ScriptFault :=
    ⟨some line, some (s.shown line last.lastLine last.shownFrom), text⟩
  if t.kind == .indent then report last.line "unexpected indent"
  else if t.kind == .dedent then report last.line "unexpected unindent"
  else s.overruled (report t.line "invalid syntax") further

/-- Run a parser over a source, a second time if it rejects. -/
def Source.run (s : Source) (p : Parse α) : Except ScriptFault α :=
  match p s {} with
  | .ok a _ => .ok a
  | .halt h => .error (s.settle h)
  | .reject far =>
    match p { s with diagnose := true } { far } with
    | .halt h => .error (s.settle h)
    | .reject further => .error (s.plainFault far further)
    | .ok _ next => .error (s.plainFault far next.far)

/-! ## §2. The text between braces. -/

/-- Where the scan of an expression is: inside which quotes and brackets. -/
structure ExprScan where
  /-- The quote of the string it is in, and whether it is a triple one. -/
  quote : Option (Char × Bool) := none
  /-- The open brackets, innermost first. -/
  brackets : List Char := []

/-- The characters of an expression up to what ends it, and the rest from there on.  Fuel bounds the
number of steps; the number of characters suffices. -/
def scanExpr : Nat → ExprScan → List Char → List Char → Except String (List Char × List Char)
  | 0, _, acc, s => .ok (acc.reverse, s)
  | fuel + 1, st, acc, s =>
    match s with
    | [] =>
      if st.quote.isSome then .error "f-string: unterminated string"
      else if !st.brackets.isEmpty then .error "f-string: unmatched bracket"
      else .ok (acc.reverse, [])
    | c :: rest =>
      if c == '\\' then .error "f-string expression part cannot include a backslash"
      else
        match st.quote with
        | some (q, long) =>
          if c == q then
            if long then
              match rest with
              | a :: b :: more =>
                if a == q && b == q then
                  scanExpr fuel { st with quote := none } (b :: a :: c :: acc) more
                else scanExpr fuel st (c :: acc) rest
              | _ => scanExpr fuel st (c :: acc) rest
            else scanExpr fuel { st with quote := none } (c :: acc) rest
          else scanExpr fuel st (c :: acc) rest
        | none =>
          if c == '\'' || c == '"' then
            match rest with
            | a :: b :: more =>
              if a == c && b == c then
                scanExpr fuel { st with quote := some (c, true) } (b :: a :: c :: acc) more
              else scanExpr fuel { st with quote := some (c, false) } (c :: acc) rest
            | _ => scanExpr fuel { st with quote := some (c, false) } (c :: acc) rest
          else if c == '[' || c == '\x7b' || c == '(' then
            scanExpr fuel { st with brackets := c :: st.brackets } (c :: acc) rest
          else if c == '#' then .error "f-string expression part cannot include '#'"
          else if st.brackets.isEmpty
              && (c == '!' || c == ':' || c == '\x7d' || c == '=' || c == '>' || c == '<') then
            let paired := match rest with
              | d :: _ => d == '=' && (c == '!' || c == '=' || c == '<' || c == '>')
              | [] => false
            if paired then scanExpr fuel st ('=' :: c :: acc) (rest.drop 1)
            else if c == '>' || c == '<' then scanExpr fuel st (c :: acc) rest
            else .ok (acc.reverse, s)
          else if c == ']' || c == '\x7d' || c == ')' then
            match st.brackets with
            | o :: more =>
              if bracketsMatch o c then scanExpr fuel { st with brackets := more } (c :: acc) rest
              else .error "f-string: closing parenthesis does not match"
            | [] => .error "f-string: unmatched bracket"
          else scanExpr fuel st (c :: acc) rest

/-! ## §3. The text around them. -/

/-- What ends a stretch of plain text. -/
inductive PlainEnd where
  /-- The text is over, or an expression starts, or the enclosing one goes on. -/
  | stop
  /-- A doubled brace, one of which belongs to the plain text. -/
  | doubled
  deriving DecidableEq

/-- A stretch of plain text, what ends it, and the rest; only the outermost level doubles braces. -/
def scanPlain (raw outer : Bool) :
    Nat → List Char → List Char → Except String (List Char × PlainEnd × List Char)
  | 0, acc, s => .ok (acc.reverse, .stop, s)
  | fuel + 1, acc, s =>
    match s with
    | [] => .ok (acc.reverse, .stop, [])
    | c :: rest =>
      if !raw && c == '\\' then
        match rest with
        | 'N' :: '\x7b' :: more =>
          let inside := more.takeWhile (· != '\x7d')
          let after := more.drop inside.length
          scanPlain raw outer fuel
            ((after.take 1).reverse ++ inside.reverse ++ '\x7b' :: 'N' :: '\\' :: acc) (after.drop 1)
        | 'N' :: d :: more => scanPlain raw outer fuel (d :: 'N' :: '\\' :: acc) more
        | d :: more =>
          if d == '\x7b' || d == '\x7d' then brace ('\\' :: acc) d more rest fuel
          else scanPlain raw outer fuel (d :: '\\' :: acc) more
        | [] => .ok ((c :: acc).reverse, .stop, [])
      else if c == '\x7b' || c == '\x7d' then brace acc c rest s fuel
      else scanPlain raw outer fuel (c :: acc) rest
where
  /-- A brace: doubled, out of place, or the end of the stretch. -/
  brace (acc : List Char) (c : Char) (rest here : List Char) (_ : Nat) :
      Except String (List Char × PlainEnd × List Char) :=
    if outer then
      if rest.head? == some c then .ok ((c :: acc).reverse, .doubled, rest.drop 1)
      else if c == '\x7d' then .error "f-string: single '\x7d' is not allowed"
      else .ok (acc.reverse, .stop, here)
    else .ok (acc.reverse, .stop, here)

/-- The number of line ends in a text. -/
def lineEnds (s : List Char) : Nat := s.count '\n'

/-! ## §4. The pieces of a string. -/

/-- The pieces of a string so far: text that may still grow, and what stands before it. -/
structure Pieces where
  /-- The finished pieces, newest first. -/
  done : List Expr := []
  /-- The text behind them. -/
  text : List Char := []

/-- Add text. -/
def Pieces.add (p : Pieces) (s : List Char) : Pieces := { p with text := p.text ++ s }

/-- Finish the text. -/
def Pieces.flush (p : Pieces) : List Expr :=
  if p.text.isEmpty then p.done else .constant (.str (String.ofList p.text) false) :: p.done

/-- Add an expression. -/
def Pieces.push (p : Pieces) (e : Expr) : Pieces := { done := e :: p.flush }

namespace Parse

/-- Take a result, or halt with what is wrong. -/
def liftText (r : Except String α) : Parse α :=
  match r with
  | .ok a => pure a
  | .error text => haltHere text

/-- Parse an expression that stands between braces on the given line. -/
def embedded (group : Parse Expr) (s : List Char) (line : Nat) : Parse Expr := fun _ c =>
  let inner := Source.ofText (preparedText ('(' :: s ++ [')'])) line
  match inner.run group with
  | .ok e => .ok e c
  | .error f => .halt (.fault f c.far)

/-- Decode the escapes of plain text. -/
def plainText (raw : Bool) (s : List Char) : Parse (List Char) :=
  if raw then pure s else liftText (unescaped true s)

/-- The pieces of a string with expressions, from its characters on; `depth` counts the formats
around it, `line` is the line of the next character.  The rest is what the enclosing format goes on
with. -/
def formatPieces (group : Parse Expr) (raw : Bool) (depth : Nat) :
    Nat → Nat → Pieces → List Char → Parse (Pieces × Nat × List Char)
  | 0, line, p, s => pure (p, line, s)
  | fuel + 1, line, p, s => do
    let (plain, border, rest) ← liftText (scanPlain raw (depth == 0) (s.length + 1) [] s)
    let p := p.add (← plainText raw plain)
    let line := line + lineEnds plain
    if border == .doubled then formatPieces group raw depth fuel line p rest
    else
      match rest with
      | '\x7b' :: inner => do
        if depth ≥ 2 then haltHere "f-string: expressions nested too deeply"
        let (code, rest) ← liftText (scanExpr (inner.length + 1) {} [] inner)
        if code.all fun c => c == ' ' || c == '\t' || c == '\n' || c == '\x0c' then
          haltHere "f-string: empty expression not allowed"
        if rest.isEmpty then haltHere "f-string: expecting '\x7d'"
        let value ← embedded group code line
        let line := line + lineEnds code
        let (echo, rest) := match rest with
          | '=' :: more =>
            let blanks := more.takeWhile fun c => c == ' ' || ('\t' ≤ c && c ≤ '\r')
            (some (code ++ '=' :: blanks), more.drop blanks.length)
          | _ => (none, rest)
        let line := line + lineEnds ((echo.getD []).drop code.length)
        let (conversion, rest) ← match rest with
          | '!' :: c :: more =>
            if c == 's' || c == 'r' || c == 'a' then pure (some c, more)
            else haltHere "f-string: invalid conversion character"
          | '!' :: [] => haltHere "f-string: expecting '\x7d'"
          | _ => pure (none, rest)
        let (spec, line, rest) ← match rest with
          | ':' :: [] => haltHere "f-string: expecting '\x7d'"
          | ':' :: more => do
            let (q, line, rest) ← formatPieces group raw (depth + 1) fuel line {} more
            pure (some q.flush.reverse, line, rest)
          | _ => pure (none, line, rest)
        match rest with
        | '\x7d' :: rest =>
          let p := p.add (echo.getD [])
          let conversion :=
            if echo.isSome && spec.isNone && conversion.isNone then some 'r' else conversion
          formatPieces group raw depth fuel line (p.push (.formatted value conversion spec)) rest
        | _ => haltHere "f-string: expecting '\x7d'"
      | _ => return (p, line, rest)

/-! ## §5. Neighbouring strings. -/

/-- What neighbouring strings have made so far. -/
structure Gathered where
  /-- The pieces of a text. -/
  pieces : Pieces := {}
  /-- The bytes. -/
  bytes : List Nat := []
  /-- Some of them held expressions. -/
  isFormat : Bool := false

/-- Add one string token. -/
def gather (group : Parse Expr) (isBytes : Bool) (g : Gathered) (t : Token) : Parse Gathered := do
  let parts := stringParts t.text
  if parts.isBytes then
    if parts.body.any (·.toNat ≥ 128) then
      haltAt t.line "bytes can only contain ASCII literal characters"
    let s ← if parts.isRaw then pure parts.body else liftText (unescaped false parts.body)
    if !isBytes then haltHere "cannot mix bytes and nonbytes literals"
    return { g with bytes := g.bytes ++ s.map (·.toNat) }
  else if parts.isFormat then
    if isBytes then haltHere "cannot mix bytes and nonbytes literals"
    let (pieces, _, rest) ←
      formatPieces group parts.isRaw 0 (2 * parts.body.length + 2) t.line g.pieces parts.body
    if !rest.isEmpty then haltHere "f-string: unexpected end of string"
    return { g with pieces, isFormat := true }
  else
    let s ← plainText parts.isRaw parts.body
    if isBytes then haltHere "cannot mix bytes and nonbytes literals"
    return { g with pieces := g.pieces.add s }

/-- One or more string tokens in a row. -/
def strings (group : Parse Expr) : Parse Expr := do
  let tokens ← many (do
    let t ← peek
    if t.kind == .string then
      advance
      return t
    else reject)
  match tokens with
  | [] => reject
  | first :: _ =>
    let parts := stringParts first.text
    let g ← tokens.foldlM (gather group parts.isBytes) {}
    if parts.isBytes then return .constant (.bytes g.bytes)
    else if g.isFormat then return .joined g.pieces.flush.reverse
    else return .constant (.str (String.ofList g.pieces.text) parts.isMarked)

end Parse

end TagTemplate.Script
