/-
  TagTemplate.Script.Parse.Stmt
  ────────────────────────────────
  **THE GRAMMAR OF STATEMENTS.**

  Simple statements share a line, separated by semicolons.  A compound
  statement has a header that ends in a colon and a block, which stands
  indented below it or behind the colon.  `program` ties the rules together.
-/
import TagTemplate.Script.Parse.Pattern

namespace TagTemplate.Script.Parse

/-! ## §1. Assignments and expressions. -/

/-- The operator of an assignment that changes its target. -/
def changeOf : String → Option BinaryOp
  | "+=" => some .add
  | "-=" => some .sub
  | "*=" => some .mul
  | "@=" => some .matMul
  | "/=" => some .div
  | "%=" => some .mod
  | "&=" => some .bitAnd
  | "|=" => some .bitOr
  | "^=" => some .bitXor
  | "<<=" => some .shiftLeft
  | ">>=" => some .shiftRight
  | "**=" => some .pow
  | "//=" => some .floorDiv
  | _ => none

/-- In the second run: something is bound to an expression that is no place; `line` is where that
begins, and `value` reads from the sign on. -/
def badAssignment (line : Option Nat) (value : Parse Unit) : Parse Unit := do
  if ← diagnosing then
    match line with
    | some line => if (← ahead value).isSome then haltAt line "cannot assign here"
    | none => pure ()

/-- An expression that has been read from a place on as the target of an assignment; `value` reads
what may be looked at before it is refused. -/
def assigned (start : Nat) (e : Expr) (value : Parse Unit) : Parse Expr := do
  match asTarget .store e with
  | some goal => return goal
  | none =>
    badAssignment (← wrongTarget .assign start e) (do
      mark "="
      value)
    reject

/-- The value of an assignment to an expression as far as it is looked at. -/
def glance (r : Rules) (e : Expr) : Parse Unit :=
  match e with
  | .list _ | .tuple _ => pure ()
  | _ => do let _ ← optional (bitwiseOr r)

/-- Further targets and the value of an assignment whose first target has been read. -/
def assignment (r : Rules) : Nat → List Expr → Parse Stmt
  | 0, _ => reject
  | fuel + 1, goals => do
    mark "="
    let start ← place
    if ← nextIsWord "yield" then
      let value ← yieldExpression r
      if ← nextIs "=" then
        badAssignment (some (← beginning start value)) (mark "=")
        reject
      else return .assign goals.reverse value
    else
      let e ← starExpressions r
      if ← nextIs "=" then assignment r fuel ((← assigned start e (pure ())) :: goals)
      else return .assign goals.reverse e

/-- An assignment with a type. -/
def typed (r : Rules) (start : Nat) (e : Expr) (simple : Bool) : Parse Stmt := do
  if !isPlace e then
    badAssignment (some (← beginning start e)) (do
      mark ":"
      let _ ← r.expression)
    reject
  else
    mark ":"
    let goal ← ofOption (asTarget .store e)
    let note ← r.expression
    let value ← if ← tryMark "=" then some <$> assignedValue r else pure none
    return .annAssign goal note value simple

/-- Whether a statement starts with a name that the colon behind it belongs to. -/
def simpleName (start : Token) (e : Expr) : Parse Bool := do
  let before ← previous
  return match e with
    | .name _ _ =>
      start.kind == .name && before.text == start.text && before.line == start.line
        && before.depth == start.depth
    | _ => false

/-- A statement that starts with an expression. -/
def expressionStatement (r : Rules) : Parse Stmt := do
  let first ← peek
  let start ← place
  let e ← starExpressions r
  let t ← peek
  if t.kind == .mark then
    if t.text == "=" then assignment r (← room) [← assigned start e (glance r e)]
    else if t.text == ":" then typed r start e (← simpleName first e)
    else
      match changeOf t.text with
      | some op =>
        if isPlace e then
          advance
          return .augAssign (← ofOption (asTarget .store e)) op (← assignedValue r)
        else
          badAssignment (some (← beginning start e)) (do
            advance
            let _ ← assignedValue r)
          reject
      | none => return .expr e
  else return .expr e

/-! ## §2. Imports. -/

/-- Names between dots. -/
def modulePath : Parse String := do
  let first ← name
  let rest ← many (do mark "."; name)
  return ".".intercalate (first :: rest)

/-- A name behind `as`. -/
def binder : Parse (Option String) := do
  if ← tryWord "as" then some <$> name else return none

/-- Modules. -/
def importStatement : Parse Stmt := do
  word "import"
  let names ← commaList1 (do
    let n ← modulePath
    return Alias.mk n (← binder))
  return .importNames names

/-- How many dots stand before the name of a module. -/
def leadingDots : Parse Nat := do
  let counts ← many (do
    if ← tryMark "." then return 1
    else
      mark "..."
      return 3)
  return counts.foldl (· + ·) 0

/-- Members of a module. -/
def importFromStatement : Parse Stmt := do
  word "from"
  let level ← leadingDots
  let source ← if level == 0 then some <$> modulePath else optional modulePath
  word "import"
  let member : Parse Alias := do
    let n ← name
    return Alias.mk n (← binder)
  if ← tryMark "*" then return .importFrom source [⟨"*", none⟩] level
  else if ← tryMark "(" then
    let (names, _) ← commaList member
    mark ")"
    return .importFrom source names level
  else
    let names ← commaList1 member
    if ← nextIs "," then
      if ← diagnosing then haltHere "trailing comma not allowed without surrounding parentheses"
      else reject
    else return .importFrom source names level

/-! ## §3. Simple statements. -/

/-- What is unbound. -/
def deletion (r : Rules) : Parse Stmt := do
  word "del"
  let start ← place
  (do
      let (items, _) ← commaList (do ofOption (asTarget .delete (← r.primary)))
      let t ← peek
      if t.kind == .newline || (t.kind == .mark && t.text == ";") then return .delete items
      else reject)
    <|> (do
      badTarget r .delete start
      reject)

/-- An error to raise. -/
def raising (r : Rules) : Parse Stmt := do
  word "raise"
  match ← optional r.expression with
  | none => return .raiseError none none
  | some e =>
    let cause ← if ← tryWord "from" then some <$> r.expression else pure none
    return .raiseError (some e) cause

/-- A condition to check. -/
def assertion (r : Rules) : Parse Stmt := do
  word "assert"
  let test ← r.expression
  let message ← if ← tryMark "," then some <$> r.expression else pure none
  return .assertTrue test message

/-- A simple statement. -/
def simpleStatement (r : Rules) : Parse Stmt := do
  let t ← peek
  if t.kind == .keyword then
    match t.text with
    | "return" => advance; return .ret (← optional (starExpressions r))
    | "import" => importStatement
    | "from" => importFromStatement
    | "raise" => raising r
    | "pass" => advance; return .pass
    | "del" => deletion r
    | "yield" => expressionOf (yieldExpression r)
    | "assert" => assertion r
    | "break" => advance; return .breakLoop
    | "continue" => advance; return .continueLoop
    | "global" => advance; return .globalNames (← commaList1 name)
    | "nonlocal" => advance; return .nonlocalNames (← commaList1 name)
    | _ => expressionStatement r
  else expressionStatement r
where
  /-- An expression as a statement. -/
  expressionOf (p : Parse Expr) : Parse Stmt := do return .expr (← p)

/-- A simple statement with its line. -/
def numbered (p : Parse Stmt) : Parse Line := do
  let line ← lineHere
  return .mk line (← p)

/-- Simple statements that share a line. -/
def simpleStatements (r : Rules) : Parse (List Line) := do
  let first ← numbered (simpleStatement r)
  let rest ← many (do mark ";"; numbered (simpleStatement r))
  let _ ← tryMark ";"
  layout .newline
  return first :: rest

/-! ## §4. Functions and classes. -/

/-- The decorators before a definition. -/
def decorators (r : Rules) : Parse (List Expr) :=
  many (do
    mark "@"
    let e ← namedExpression r
    layout .newline
    return e)

/-- A function, behind its decorators. -/
def function (r : Rules) (decorators : List Expr) : Parse Stmt := do
  let isAsync ← tryWord "async"
  word "def"
  let n ← name
  mark "("
  let ps ← params r true ")"
  mark ")"
  let returns ← if ← tryMark "->" then some <$> r.expression else pure none
  mark ":"
  return .funcDef isAsync n ps (← r.block) decorators returns

/-- A class, behind its decorators. -/
def classDefinition (r : Rules) (decorators : List Expr) : Parse Stmt := do
  word "class"
  let n ← name
  let (bases, keywords) ← if ← tryMark "(" then do
      let a ← arguments r
      mark ")"
      pure a
    else pure ([], [])
  mark ":"
  return .classDef n bases keywords (← r.block) decorators

/-- A definition with decorators. -/
def decorated (r : Rules) : Parse Stmt := do
  let ds ← decorators r
  if ← nextIsWord "class" then classDefinition r ds else function r ds

/-! ## §5. Choices and loops. -/

/-- The block behind `else`, if there is one. -/
def otherwise (r : Rules) : Parse (List Line) := do
  if ← tryWord "else" then
    mark ":"
    r.block
  else return []

/-- The further branches of a choice. -/
def branches (r : Rules) : Nat → Parse (List Line)
  | 0 => reject
  | fuel + 1 => do
    let line ← lineHere
    if ← tryWord "elif" then
      let test ← namedExpression r
      mark ":"
      let body ← r.block
      let rest ← branches r fuel
      return [.mk line (.ifElse test body rest)]
    else otherwise r

/-- A choice. -/
def ifStatement (r : Rules) : Parse Stmt := do
  word "if"
  let test ← namedExpression r
  mark ":"
  let body ← r.block
  return .ifElse test body (← branches r (← room))

/-- A loop with a condition. -/
def whileStatement (r : Rules) : Parse Stmt := do
  word "while"
  let test ← namedExpression r
  mark ":"
  let body ← r.block
  return .whileLoop test body (← otherwise r)

/-- A loop over elements. -/
def forStatement (r : Rules) : Parse Stmt := do
  let isAsync ← tryWord "async"
  word "for"
  let goal ← loopTargets r
  let iter ← starExpressions r
  mark ":"
  let body ← r.block
  return .forLoop isAsync goal iter body (← otherwise r)

/-! ## §6. Managers and handlers. -/

/-- One manager. -/
def withItem (r : Rules) : Parse WithItem := do
  let e ← r.expression
  let stops : Parse Unit := do
    let t ← peek
    if t.kind == .mark && (t.text == "," || t.text == ")" || t.text == ":") then return ()
    else reject
  let goal ← optional (do
    word "as"
    let g ← target r .store
    stops
    return g)
  if goal.isNone && (← diagnosing) then
    let wrong ← ahead (do
      word "as"
      let start ← place
      let line ← wrongTarget .assign start (← r.expression)
      stops
      return line)
    match wrong.join with
    | some line => haltAt line "cannot assign here"
    | none => pure ()
  return ⟨e, goal⟩

/-- A block under managers, which may stand between parentheses. -/
def withStatement (r : Rules) : Parse Stmt := do
  let isAsync ← tryWord "async"
  word "with"
  let items ← (do
      mark "("
      let (items, _) ← commaList (withItem r)
      mark ")"
      mark ":"
      return items)
    <|> (do
      let items ← commaList1 (withItem r)
      mark ":"
      return items)
  return .withBlock isAsync items (← r.block)

/-- A handler of errors. -/
def handler (r : Rules) (groups : Bool) : Parse Handler := do
  let line ← lineHere
  word "except"
  if groups then mark "*"
  else if ← nextIs "*" then reject
  if ← tryMark ":" then
    if groups then reject else return .mk none none (← r.block) line
  else
    let type ← r.expression
    let n ← if ← tryWord "as" then some <$> name else pure none
    mark ":"
    return .mk (some type) n (← r.block) line

/-- The block behind `finally`, if there is one. -/
def finally? (r : Rules) : Parse (Option (List Line)) := do
  if ← tryWord "finally" then
    mark ":"
    return some (← r.block)
  else return none

/-- A guarded block. -/
def tryStatement (r : Rules) : Parse Stmt := do
  word "try"
  mark ":"
  let body ← r.block
  if ← nextIsWord "finally" then
    return .tryBlock body [] [] ((← finally? r).getD []) false
  else if ← nextIsWord "except" then
    let groups := (← peekAt 1).text == "*"
    let handlers ← many (handler r groups)
    if handlers.isEmpty then reject
    else
      let orElse ← otherwise r
      return .tryBlock body handlers orElse ((← finally? r).getD []) groups
  else if ← diagnosing then haltHere "expected 'except' or 'finally' block"
  else reject

/-! ## §7. Cases. -/

/-- A case. -/
def caseBlock (r : Rules) : Parse Case := do
  let line ← lineHere
  softWord "case"
  let p ← casePattern r
  let guard ← if ← tryWord "if" then some <$> namedExpression r else pure none
  if (← diagnosing) && (← peek).kind == .newline then haltHere "expected ':'"
  mark ":"
  return .mk p guard (← r.block) line

/-- What the cases are compared with. -/
def subject (r : Rules) : Parse Expr := do
  let (items, trailing) ← commaList (starNamed r)
  match items with
  | [e] => if trailing then return .tuple items else if isStarred e then reject else return e
  | _ => return .tuple items

/-- A choice by pattern. -/
def matchStatement (r : Rules) : Parse Stmt := do
  softWord "match"
  let e ← subject r
  if (← diagnosing) && (← peek).kind == .newline then haltHere "expected ':'"
  mark ":"
  layout .newline
  if (← diagnosing) && (← peek).kind != .indent then haltHere "expected an indented block"
  layout .indent
  let cases ← many (caseBlock r)
  if cases.isEmpty then reject
  else
    layout .dedent
    return .matchCases e cases

/-! ## §8. Statements and blocks. -/

/-- A compound statement. -/
def compoundStatement (r : Rules) : Parse Stmt := do
  let t ← peek
  match t.kind with
  | .keyword =>
    match t.text with
    | "def" => function r []
    | "if" => ifStatement r
    | "class" => classDefinition r []
    | "with" => withStatement r
    | "for" => forStatement r
    | "try" => tryStatement r
    | "while" => whileStatement r
    | "async" =>
      let u ← peekAt 1
      match u.text with
      | "def" => function r []
      | "with" => withStatement r
      | "for" => forStatement r
      | _ => reject
    | _ => reject
  | .mark => if t.text == "@" then decorated r else reject
  | .name => if t.text == "match" then matchStatement r else reject
  | _ => reject

/-- Statements: a compound one, or simple ones that share a line. -/
def statement (r : Rules) : Parse (List Line) :=
  (do return [← numbered (compoundStatement r)]) <|> simpleStatements r

/-- One statement after the other. -/
def statements (r : Rules) : Parse (List Line) := do return (← many (statement r)).flatten

/-- A block. -/
def block (r : Rules) : Parse (List Line) := do
  if (← peek).kind == .newline then
    advance
    if (← peek).kind == .indent then
      advance
      let body ← statements r
      if body.isEmpty then reject
      else
        layout .dedent
        return body
    else if ← diagnosing then haltHere "expected an indented block"
    else reject
  else simpleStatements r

/-! ## §9. Tying the rules together. -/

/-- The rules to a depth of nesting. -/
def rules : Nat → Rules
  | 0 => default
  | depth + 1 =>
    let r := rules depth
    { expression := expression r
      disjunction := disjunction r
      factor := factor r
      primary := primary r
      atom := atom r
      block := block r
      pattern := pattern r }

/-- A whole text. -/
def program (depth : Nat) : Parse Tree := do
  let body ← statements (rules depth)
  layout .finish
  return body

end TagTemplate.Script.Parse

namespace TagTemplate.Script

/-- The tree of a text, or why it has none. -/
def parseTree (text : String) : Except ScriptFault Tree :=
  if text.toList.contains '\x00' then
    .error ⟨none, none, "source code string cannot contain null bytes"⟩
  else
    let s := Source.ofText (preparedText text.toList) 1
    s.run (Parse.program (2 * text.length + 16))

end TagTemplate.Script
