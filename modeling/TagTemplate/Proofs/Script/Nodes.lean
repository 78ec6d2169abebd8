/-
  TagTemplate.Proofs.Script.Nodes
  ────────────────────────────────
  **A SYNTAX TREE AS NODES.**

  The syntax tree has a type for each sort of its parts.  Seen as `TreeNode`s
  it has one: a node is a label, which holds all that is no part of the tree,
  and the parts in their order.  A place in the tree is then a path, and what
  holds at every depth, of every sort of part, is said in one line.

      x + f(y)   —   binary add
                       ├ 0  x, read
                       └ 1  call
                              ├ 0  f, read
                              ├ 1  group
                              │      └ 0  y, read
                              └ 2  group

The tree is made of its nodes again by `toBlock` and its like.

    • `TreeNode.toExpr_ofExpr`, `TreeNode.toStmt_ofStmt` — what is made of the
      nodes of a part is that part,
    • `TreeNode.ofTree_injective` — nothing of a program is lost.
-/
import TagTemplate.Script.Tree

namespace TagTemplate.Script

/-! ## §1. Nodes. -/

/-- What a node is, apart from its parts. -/
inductive NodeLabel where
  /-- A part that is not there. -/
  | absent
  /-- Parts in a row. -/
  | group
  /-- Operands between `and` or between `or`. -/
  | boolOp (op : BoolOp)
  /-- A name and the value that is bound to it. -/
  | named
  /-- An operator between two operands. -/
  | binary (op : BinaryOp)
  /-- An operator before its operand. -/
  | unary (op : UnaryOp)
  /-- A function without a name. -/
  | lambda
  /-- A choice between two values. -/
  | choice
  /-- A mapping. -/
  | dict
  /-- A set. -/
  | set
  /-- A comprehension. -/
  | comp (kind : CompKind) (line : Nat)
  /-- A comprehension of a mapping. -/
  | dictComp (line : Nat)
  /-- Wait for a value. -/
  | await (line : Nat)
  /-- Hand a value out. -/
  | yield (line : Nat)
  /-- Hand the values of another source out. -/
  | yieldFrom (line : Nat)
  /-- A chain of comparisons. -/
  | compare
  /-- A call. -/
  | call
  /-- A text with values in it. -/
  | joined
  /-- A value inside such a text. -/
  | formatted (conversion : Option Char)
  /-- A literal value. -/
  | constant (value : Constant)
  /-- A member of a value. -/
  | attribute (name : String)
  /-- An element of a value. -/
  | subscript
  /-- The elements of a value, in place. -/
  | starred (line : Nat)
  /-- A list. -/
  | list
  /-- A tuple. -/
  | tuple
  /-- A range of positions. -/
  | slice
  /-- A key with its value. -/
  | item
  /-- The entries of another mapping. -/
  | spread
  /-- One step of a chain of comparisons. -/
  | comparison (op : CompareOp)
  /-- A named argument. -/
  | keyword (name : Option String) (line : Nat)
  /-- A clause of a comprehension. -/
  | clause (isAsync : Bool)
  /-- A parameter. -/
  | param (kind : ParamKind) (name : String)
  /-- A pattern that is a value. -/
  | valuePattern
  /-- A pattern that is one constant. -/
  | singletonPattern (value : Constant)
  /-- A pattern of a sequence. -/
  | sequencePattern
  /-- The rest of a sequence. -/
  | starPattern (name : Option String)
  /-- A pattern of a mapping. -/
  | mappingPattern (rest : Option String)
  /-- A pattern of an object, with the names of its named parts. -/
  | objectPattern (names : List String)
  /-- A pattern whose match is bound to a name. -/
  | capturePattern (name : Option String)
  /-- One of several patterns. -/
  | eitherPattern
  /-- The definition of a function. -/
  | funcDef (isAsync : Bool) (name : String)
  /-- The definition of a class. -/
  | classDef (name : String)
  /-- Leave the function. -/
  | ret
  /-- Unbind. -/
  | delete
  /-- Bind a value to targets. -/
  | assign
  /-- Bind the result of an operator to its left operand. -/
  | augAssign (op : BinaryOp)
  /-- Give a target a type. -/
  | annAssign (simple : Bool)
  /-- Run over the elements of a value. -/
  | forLoop (isAsync : Bool)
  /-- Run while a condition holds. -/
  | whileLoop
  /-- Choose between two blocks. -/
  | ifElse
  /-- Run under managers. -/
  | withBlock (isAsync : Bool)
  /-- One of the managers. -/
  | withItem
  /-- Choose by pattern. -/
  | matchCases
  /-- Raise an error. -/
  | raiseError
  /-- Guard a block. -/
  | tryBlock (groups : Bool)
  /-- Check a condition. -/
  | assertTrue
  /-- Import modules. -/
  | importNames
  /-- Import members of a module. -/
  | importFrom (module : Option String) (level : Nat)
  /-- A name that is imported. -/
  | imported (a : Alias)
  /-- Declare global names. -/
  | globalNames (names : List String)
  /-- Declare names of the enclosing function. -/
  | nonlocalNames (names : List String)
  /-- Evaluate. -/
  | expr
  /-- Do nothing. -/
  | pass
  /-- Leave the loop. -/
  | breakLoop
  /-- Go on with the next element. -/
  | continueLoop
  /-- A statement on its line. -/
  | line (number : Nat)
  /-- A handler of errors. -/
  | handler (name : Option String) (line : Nat)
  /-- A case. -/
  | case (line : Nat)

/-- A node of a syntax tree. -/
inductive TreeNode where
  /-- A name and how it is used. -/
  | ident (id : String) (use : Use)
  /-- Any other node: the label and the parts. -/
  | mk (label : NodeLabel) (parts : List TreeNode)

namespace TreeNode

/-- The parts of a node. -/
def parts : TreeNode → List TreeNode
  | .ident _ _ => []
  | .mk _ ns => ns

/-- The node at the end of a path, each step of which is the position of a part. -/
def at? : TreeNode → List Nat → Option TreeNode
  | n, [] => some n
  | n, i :: path => n.parts[i]?.bind fun part => part.at? path

/-- Parts in a row as one part. -/
def row (ns : List TreeNode) : TreeNode := .mk .group ns

/-- A part that is not there. -/
def nothing : TreeNode := .mk .absent []

/-! ## §2. The nodes of expressions. -/

mutual

/-- The node of an expression. -/
def ofExpr : Expr → TreeNode
  | .boolOp op values => .mk (.boolOp op) (ofExprs values)
  | .named target value => .mk .named [.ident target .store, ofExpr value]
  | .binary op left right => .mk (.binary op) [ofExpr left, ofExpr right]
  | .unary op operand => .mk (.unary op) [ofExpr operand]
  | .lambda ps body => .mk .lambda [row (ofParams ps), ofExpr body]
  | .ifElse test body orElse => .mk .choice [ofExpr test, ofExpr body, ofExpr orElse]
  | .dict es => .mk .dict (ofEntries es)
  | .set items => .mk .set (ofExprs items)
  | .comp kind item cs line => .mk (.comp kind line) [ofExpr item, row (ofClauses cs)]
  | .dictComp key value cs line =>
    .mk (.dictComp line) [ofExpr key, ofExpr value, row (ofClauses cs)]
  | .await value line => .mk (.await line) [ofExpr value]
  | .yield value line => .mk (.yield line) [ofOption value]
  | .yieldFrom value line => .mk (.yieldFrom line) [ofExpr value]
  | .compare left rest => .mk .compare [ofExpr left, row (ofComparisons rest)]
  | .call func args ks => .mk .call [ofExpr func, row (ofExprs args), row (ofKeywords ks)]
  | .joined pieces => .mk .joined (ofExprs pieces)
  | .formatted value conversion none => .mk (.formatted conversion) [ofExpr value, nothing]
  | .formatted value conversion (some spec) =>
    .mk (.formatted conversion) [ofExpr value, row (ofExprs spec)]
  | .constant c => .mk (.constant c) []
  | .attribute value name => .mk (.attribute name) [ofExpr value]
  | .subscript value index => .mk .subscript [ofExpr value, ofExpr index]
  | .starred value line => .mk (.starred line) [ofExpr value]
  | .name id use => .ident id use
  | .list items => .mk .list (ofExprs items)
  | .tuple items => .mk .tuple (ofExprs items)
  | .slice lower upper step => .mk .slice [ofOption lower, ofOption upper, ofOption step]

/-- The node of an expression that may be absent. -/
def ofOption : Option Expr → TreeNode
  | none => nothing
  | some e => ofExpr e

/-- The nodes of expressions. -/
def ofExprs : List Expr → List TreeNode
  | [] => []
  | e :: rest => ofExpr e :: ofExprs rest

/-- The nodes of the entries of a mapping. -/
def ofEntries : List Entry → List TreeNode
  | [] => []
  | .item key value :: rest => .mk .item [ofExpr key, ofExpr value] :: ofEntries rest
  | .spread value :: rest => .mk .spread [ofExpr value] :: ofEntries rest

/-- The nodes of a chain of comparisons. -/
def ofComparisons : List Comparison → List TreeNode
  | [] => []
  | .mk op right :: rest => .mk (.comparison op) [ofExpr right] :: ofComparisons rest

/-- The nodes of named arguments. -/
def ofKeywords : List Keyword → List TreeNode
  | [] => []
  | .mk name value line :: rest => .mk (.keyword name line) [ofExpr value] :: ofKeywords rest

/-- The nodes of the clauses of a comprehension. -/
def ofClauses : List Clause → List TreeNode
  | [] => []
  | .mk isAsync target iter conditions :: rest =>
    .mk (.clause isAsync) [ofExpr target, ofExpr iter, row (ofExprs conditions)] :: ofClauses rest

/-- The nodes of parameters. -/
def ofParams : List Param → List TreeNode
  | [] => []
  | .mk kind name type dflt :: rest =>
    .mk (.param kind name) [ofOption type, ofOption dflt] :: ofParams rest

end

/-! ## §3. The nodes of patterns. -/

mutual

/-- The node of a pattern. -/
def ofPattern : Pattern → TreeNode
  | .value e => .mk .valuePattern [ofExpr e]
  | .singleton c => .mk (.singletonPattern c) []
  | .sequence items => .mk .sequencePattern (ofPatterns items)
  | .star name => .mk (.starPattern name) []
  | .mapping keys items rest => .mk (.mappingPattern rest) [row (ofExprs keys), row (ofPatterns items)]
  | .object cls items names named =>
    .mk (.objectPattern names) [ofExpr cls, row (ofPatterns items), row (ofPatterns named)]
  | .capture none name => .mk (.capturePattern name) [nothing]
  | .capture (some inner) name => .mk (.capturePattern name) [ofPattern inner]
  | .either choices => .mk .eitherPattern (ofPatterns choices)

/-- The nodes of patterns. -/
def ofPatterns : List Pattern → List TreeNode
  | [] => []
  | p :: rest => ofPattern p :: ofPatterns rest

end

/-! ## §4. The nodes of statements. -/

/-- The nodes of managers. -/
def ofWithItems (items : List WithItem) : List TreeNode :=
  items.map fun i => .mk .withItem [ofExpr i.manager, ofOption i.target]

/-- The nodes of imported names. -/
def ofAliases (names : List Alias) : List TreeNode := names.map fun a => .mk (.imported a) []

mutual

/-- The node of a statement. -/
def ofStmt : Stmt → TreeNode
  | .funcDef isAsync name ps body decorators returns =>
    .mk (.funcDef isAsync name)
      [row (ofParams ps), row (ofBlock body), row (ofExprs decorators), ofOption returns]
  | .classDef name bases ks body decorators =>
    .mk (.classDef name)
      [row (ofExprs bases), row (ofKeywords ks), row (ofBlock body), row (ofExprs decorators)]
  | .ret value => .mk .ret [ofOption value]
  | .delete targets => .mk .delete (ofExprs targets)
  | .assign targets value => .mk .assign [row (ofExprs targets), ofExpr value]
  | .augAssign target op value => .mk (.augAssign op) [ofExpr target, ofExpr value]
  | .annAssign target type value simple =>
    .mk (.annAssign simple) [ofExpr target, ofExpr type, ofOption value]
  | .forLoop isAsync target iter body orElse =>
    .mk (.forLoop isAsync) [ofExpr target, ofExpr iter, row (ofBlock body), row (ofBlock orElse)]
  | .whileLoop test body orElse =>
    .mk .whileLoop [ofExpr test, row (ofBlock body), row (ofBlock orElse)]
  | .ifElse test body orElse => .mk .ifElse [ofExpr test, row (ofBlock body), row (ofBlock orElse)]
  | .withBlock isAsync items body =>
    .mk (.withBlock isAsync) [row (ofWithItems items), row (ofBlock body)]
  | .matchCases subject cs => .mk .matchCases [ofExpr subject, row (ofCases cs)]
  | .raiseError error cause => .mk .raiseError [ofOption error, ofOption cause]
  | .tryBlock body hs orElse final groups =>
    .mk (.tryBlock groups)
      [row (ofBlock body), row (ofHandlers hs), row (ofBlock orElse), row (ofBlock final)]
  | .assertTrue test message => .mk .assertTrue [ofExpr test, ofOption message]
  | .importNames names => .mk .importNames (ofAliases names)
  | .importFrom module names level => .mk (.importFrom module level) (ofAliases names)
  | .globalNames names => .mk (.globalNames names) []
  | .nonlocalNames names => .mk (.nonlocalNames names) []
  | .expr value => .mk .expr [ofExpr value]
  | .pass => .mk .pass []
  | .breakLoop => .mk .breakLoop []
  | .continueLoop => .mk .continueLoop []

/-- The nodes of a block. -/
def ofBlock : List Line → List TreeNode
  | [] => []
  | .mk n s :: rest => .mk (.line n) [ofStmt s] :: ofBlock rest

/-- The nodes of handlers. -/
def ofHandlers : List Handler → List TreeNode
  | [] => []
  | .mk type name body line :: rest =>
    .mk (.handler name line) [ofOption type, row (ofBlock body)] :: ofHandlers rest

/-- The nodes of cases. -/
def ofCases : List Case → List TreeNode
  | [] => []
  | .mk p guard body line :: rest =>
    .mk (.case line) [ofPattern p, ofOption guard, row (ofBlock body)] :: ofCases rest

end

/-- The node of a whole program. -/
def ofTree (t : Tree) : TreeNode := row (ofBlock t)

/-! ## §5. The tree of its nodes. -/

/-- What a node stands for, if it is not an absent one, given what it stands for otherwise. -/
def present {α : Type} (n : TreeNode) (a : α) : Option α :=
  match n with
  | .mk .absent _ => none
  | _ => some a

mutual

/-- The expression that a node is made of. -/
def toExpr : TreeNode → Expr
  | .mk (.boolOp op) values => .boolOp op (toExprs values)
  | .mk .named [.ident target _, value] => .named target (toExpr value)
  | .mk (.binary op) [left, right] => .binary op (toExpr left) (toExpr right)
  | .mk (.unary op) [operand] => .unary op (toExpr operand)
  | .mk .lambda [.mk _ ps, body] => .lambda (toParams ps) (toExpr body)
  | .mk .choice [test, body, orElse] => .ifElse (toExpr test) (toExpr body) (toExpr orElse)
  | .mk .dict es => .dict (toEntries es)
  | .mk .set items => .set (toExprs items)
  | .mk (.comp kind line) [item, .mk _ cs] => .comp kind (toExpr item) (toClauses cs) line
  | .mk (.dictComp line) [key, value, .mk _ cs] =>
    .dictComp (toExpr key) (toExpr value) (toClauses cs) line
  | .mk (.await line) [value] => .await (toExpr value) line
  | .mk (.yield line) [value] => .yield (value.present (toExpr value)) line
  | .mk (.yieldFrom line) [value] => .yieldFrom (toExpr value) line
  | .mk .compare [left, .mk _ rest] => .compare (toExpr left) (toComparisons rest)
  | .mk .call [func, .mk _ args, .mk _ ks] => .call (toExpr func) (toExprs args) (toKeywords ks)
  | .mk .joined pieces => .joined (toExprs pieces)
  | .mk (.formatted conversion) [value, .mk l spec] =>
    .formatted (toExpr value) conversion ((TreeNode.mk l spec).present (toExprs spec))
  | .mk (.constant c) _ => .constant c
  | .mk (.attribute name) [value] => .attribute (toExpr value) name
  | .mk .subscript [value, index] => .subscript (toExpr value) (toExpr index)
  | .mk (.starred line) [value] => .starred (toExpr value) line
  | .ident id use => .name id use
  | .mk .list items => .list (toExprs items)
  | .mk .tuple items => .tuple (toExprs items)
  | .mk .slice [lower, upper, step] =>
    .slice (lower.present (toExpr lower)) (upper.present (toExpr upper))
      (step.present (toExpr step))
  | _ => default

/-- Expressions. -/
def toExprs : List TreeNode → List Expr
  | [] => []
  | n :: rest => toExpr n :: toExprs rest

/-- The entries of a mapping. -/
def toEntries : List TreeNode → List Entry
  | .mk .item [key, value] :: rest => .item (toExpr key) (toExpr value) :: toEntries rest
  | .mk .spread [value] :: rest => .spread (toExpr value) :: toEntries rest
  | _ => []

/-- A chain of comparisons. -/
def toComparisons : List TreeNode → List Comparison
  | .mk (.comparison op) [right] :: rest => .mk op (toExpr right) :: toComparisons rest
  | _ => []

/-- Named arguments. -/
def toKeywords : List TreeNode → List Keyword
  | .mk (.keyword name line) [value] :: rest => .mk name (toExpr value) line :: toKeywords rest
  | _ => []

/-- The clauses of a comprehension. -/
def toClauses : List TreeNode → List Clause
  | .mk (.clause isAsync) [target, iter, .mk _ conditions] :: rest =>
    .mk isAsync (toExpr target) (toExpr iter) (toExprs conditions) :: toClauses rest
  | _ => []

/-- Parameters. -/
def toParams : List TreeNode → List Param
  | .mk (.param kind name) [type, dflt] :: rest =>
    .mk kind name (type.present (toExpr type)) (dflt.present (toExpr dflt)) :: toParams rest
  | _ => []

end

mutual

/-- The pattern that a node is made of. -/
def toPattern : TreeNode → Pattern
  | .mk .valuePattern [e] => .value (toExpr e)
  | .mk (.singletonPattern c) _ => .singleton c
  | .mk .sequencePattern items => .sequence (toPatterns items)
  | .mk (.starPattern name) _ => .star name
  | .mk (.mappingPattern rest) [.mk _ keys, .mk _ items] =>
    .mapping (toExprs keys) (toPatterns items) rest
  | .mk (.objectPattern names) [cls, .mk _ items, .mk _ named] =>
    .object (toExpr cls) (toPatterns items) names (toPatterns named)
  | .mk (.capturePattern name) [inner] => .capture (inner.present (toPattern inner)) name
  | .mk .eitherPattern choices => .either (toPatterns choices)
  | _ => default

/-- Patterns. -/
def toPatterns : List TreeNode → List Pattern
  | [] => []
  | n :: rest => toPattern n :: toPatterns rest

end

/-- Managers. -/
def toWithItems : List TreeNode → List WithItem
  | .mk .withItem [manager, target] :: rest =>
    ⟨toExpr manager, target.present (toExpr target)⟩ :: toWithItems rest
  | _ => []

/-- Imported names. -/
def toAliases : List TreeNode → List Alias
  | .mk (.imported a) _ :: rest => a :: toAliases rest
  | _ => []

/-- An expression that may be absent. -/
def toOption (n : TreeNode) : Option Expr := n.present n.toExpr

mutual

/-- The statement that a node is made of. -/
def toStmt : TreeNode → Stmt
  | .mk (.funcDef isAsync name) [.mk _ ps, .mk _ body, .mk _ decorators, returns] =>
    .funcDef isAsync name (toParams ps) (toBlock body) (toExprs decorators) (toOption returns)
  | .mk (.classDef name) [.mk _ bases, .mk _ ks, .mk _ body, .mk _ decorators] =>
    .classDef name (toExprs bases) (toKeywords ks) (toBlock body) (toExprs decorators)
  | .mk .ret [value] => .ret (toOption value)
  | .mk .delete targets => .delete (toExprs targets)
  | .mk .assign [.mk _ targets, value] => .assign (toExprs targets) (toExpr value)
  | .mk (.augAssign op) [target, value] => .augAssign (toExpr target) op (toExpr value)
  | .mk (.annAssign simple) [target, type, value] =>
    .annAssign (toExpr target) (toExpr type) (toOption value) simple
  | .mk (.forLoop isAsync) [target, iter, .mk _ body, .mk _ orElse] =>
    .forLoop isAsync (toExpr target) (toExpr iter) (toBlock body) (toBlock orElse)
  | .mk .whileLoop [test, .mk _ body, .mk _ orElse] =>
    .whileLoop (toExpr test) (toBlock body) (toBlock orElse)
  | .mk .ifElse [test, .mk _ body, .mk _ orElse] =>
    .ifElse (toExpr test) (toBlock body) (toBlock orElse)
  | .mk (.withBlock isAsync) [.mk _ items, .mk _ body] =>
    .withBlock isAsync (toWithItems items) (toBlock body)
  | .mk .matchCases [subject, .mk _ cs] => .matchCases (toExpr subject) (toCases cs)
  | .mk .raiseError [error, cause] => .raiseError (toOption error) (toOption cause)
  | .mk (.tryBlock groups) [.mk _ body, .mk _ hs, .mk _ orElse, .mk _ final] =>
    .tryBlock (toBlock body) (toHandlers hs) (toBlock orElse) (toBlock final) groups
  | .mk .assertTrue [test, message] => .assertTrue (toExpr test) (toOption message)
  | .mk .importNames names => .importNames (toAliases names)
  | .mk (.importFrom module level) names => .importFrom module (toAliases names) level
  | .mk (.globalNames names) _ => .globalNames names
  | .mk (.nonlocalNames names) _ => .nonlocalNames names
  | .mk .expr [value] => .expr (toExpr value)
  | .mk .breakLoop _ => .breakLoop
  | .mk .continueLoop _ => .continueLoop
  | _ => .pass

/-- A block. -/
def toBlock : List TreeNode → List Line
  | .mk (.line n) [s] :: rest => .mk n (toStmt s) :: toBlock rest
  | _ => []

/-- Handlers. -/
def toHandlers : List TreeNode → List Handler
  | .mk (.handler name line) [type, .mk _ body] :: rest =>
    .mk (toOption type) name (toBlock body) line :: toHandlers rest
  | _ => []

/-- Cases. -/
def toCases : List TreeNode → List Case
  | .mk (.case line) [p, guard, .mk _ body] :: rest =>
    .mk (toPattern p) (toOption guard) (toBlock body) line :: toCases rest
  | _ => []

end

/-! ## §6. Nothing is lost. -/

/-- The node of an expression is not absent. -/
theorem present_ofExpr {α : Type} (e : Expr) (a : α) : (ofExpr e).present a = some a := by
  cases e with
  | formatted _ _ spec => cases spec <;> rfl
  | _ => rfl

/-- Nor is the node of a pattern. -/
theorem present_ofPattern {α : Type} (p : Pattern) (a : α) : (ofPattern p).present a = some a := by
  cases p with
  | capture inner _ => cases inner <;> rfl
  | _ => rfl

mutual

theorem toExpr_ofExpr : ∀ e : Expr, toExpr (ofExpr e) = e
  | .boolOp op values => by rw [ofExpr, toExpr, toExprs_ofExprs values]
  | .named target value => by rw [ofExpr, toExpr, toExpr_ofExpr value]
  | .binary op left right => by rw [ofExpr, toExpr, toExpr_ofExpr left, toExpr_ofExpr right]
  | .unary op operand => by rw [ofExpr, toExpr, toExpr_ofExpr operand]
  | .lambda ps body => by rw [ofExpr, row, toExpr, toParams_ofParams ps, toExpr_ofExpr body]
  | .ifElse test body orElse => by
      rw [ofExpr, toExpr, toExpr_ofExpr test, toExpr_ofExpr body, toExpr_ofExpr orElse]
  | .dict es => by rw [ofExpr, toExpr, toEntries_ofEntries es]
  | .set items => by rw [ofExpr, toExpr, toExprs_ofExprs items]
  | .comp kind item cs line => by
      rw [ofExpr, row, toExpr, toExpr_ofExpr item, toClauses_ofClauses cs]
  | .dictComp key value cs line => by
      rw [ofExpr, row, toExpr, toExpr_ofExpr key, toExpr_ofExpr value, toClauses_ofClauses cs]
  | .await value line => by rw [ofExpr, toExpr, toExpr_ofExpr value]
  | .yield value line => by rw [ofExpr, toExpr, present_ofOption value]
  | .yieldFrom value line => by rw [ofExpr, toExpr, toExpr_ofExpr value]
  | .compare left rest => by
      rw [ofExpr, row, toExpr, toExpr_ofExpr left, toComparisons_ofComparisons rest]
  | .call func args ks => by
      rw [ofExpr, row, row, toExpr, toExpr_ofExpr func, toExprs_ofExprs args,
        toKeywords_ofKeywords ks]
  | .joined pieces => by rw [ofExpr, toExpr, toExprs_ofExprs pieces]
  | .formatted value conversion none => by
      rw [ofExpr, nothing, toExpr, toExpr_ofExpr value]
      rfl
  | .formatted value conversion (some spec) => by
      rw [ofExpr, row, toExpr, toExpr_ofExpr value, toExprs_ofExprs spec]
      rfl
  | .constant c => by rw [ofExpr, toExpr]
  | .attribute value name => by rw [ofExpr, toExpr, toExpr_ofExpr value]
  | .subscript value index => by rw [ofExpr, toExpr, toExpr_ofExpr value, toExpr_ofExpr index]
  | .starred value line => by rw [ofExpr, toExpr, toExpr_ofExpr value]
  | .name id use => by rw [ofExpr, toExpr]
  | .list items => by rw [ofExpr, toExpr, toExprs_ofExprs items]
  | .tuple items => by rw [ofExpr, toExpr, toExprs_ofExprs items]
  | .slice lower upper step => by
      rw [ofExpr, toExpr, present_ofOption lower, present_ofOption upper, present_ofOption step]

theorem present_ofOption : ∀ e : Option Expr, (ofOption e).present (toExpr (ofOption e)) = e
  | none => rfl
  | some e => by rw [ofOption, toExpr_ofExpr e, present_ofExpr]

theorem toExprs_ofExprs : ∀ es : List Expr, toExprs (ofExprs es) = es
  | [] => rfl
  | e :: rest => by rw [ofExprs, toExprs, toExpr_ofExpr e, toExprs_ofExprs rest]

theorem toEntries_ofEntries : ∀ es : List Entry, toEntries (ofEntries es) = es
  | [] => rfl
  | .item key value :: rest => by
      rw [ofEntries, toEntries, toExpr_ofExpr key, toExpr_ofExpr value, toEntries_ofEntries rest]
  | .spread value :: rest => by
      rw [ofEntries, toEntries, toExpr_ofExpr value, toEntries_ofEntries rest]

theorem toComparisons_ofComparisons :
    ∀ cs : List Comparison, toComparisons (ofComparisons cs) = cs
  | [] => rfl
  | .mk op right :: rest => by
      rw [ofComparisons, toComparisons, toExpr_ofExpr right, toComparisons_ofComparisons rest]

theorem toKeywords_ofKeywords : ∀ ks : List Keyword, toKeywords (ofKeywords ks) = ks
  | [] => rfl
  | .mk name value line :: rest => by
      rw [ofKeywords, toKeywords, toExpr_ofExpr value, toKeywords_ofKeywords rest]

theorem toClauses_ofClauses : ∀ cs : List Clause, toClauses (ofClauses cs) = cs
  | [] => rfl
  | .mk isAsync target iter conditions :: rest => by
      rw [ofClauses, row, toClauses, toExpr_ofExpr target, toExpr_ofExpr iter,
        toExprs_ofExprs conditions, toClauses_ofClauses rest]

theorem toParams_ofParams : ∀ ps : List Param, toParams (ofParams ps) = ps
  | [] => rfl
  | .mk kind name type dflt :: rest => by
      rw [ofParams, toParams, present_ofOption type, present_ofOption dflt, toParams_ofParams rest]

end

mutual

theorem toPattern_ofPattern : ∀ p : Pattern, toPattern (ofPattern p) = p
  | .value e => by rw [ofPattern, toPattern, toExpr_ofExpr e]
  | .singleton c => by rw [ofPattern, toPattern]
  | .sequence items => by rw [ofPattern, toPattern, toPatterns_ofPatterns items]
  | .star name => by rw [ofPattern, toPattern]
  | .mapping keys items rest => by
      rw [ofPattern, row, row, toPattern, toExprs_ofExprs keys, toPatterns_ofPatterns items]
  | .object cls items names named => by
      rw [ofPattern, row, row, toPattern, toExpr_ofExpr cls, toPatterns_ofPatterns items,
        toPatterns_ofPatterns named]
  | .capture none name => by
      rw [ofPattern, nothing, toPattern]
      rfl
  | .capture (some inner) name => by
      rw [ofPattern, toPattern, toPattern_ofPattern inner, present_ofPattern]
  | .either choices => by rw [ofPattern, toPattern, toPatterns_ofPatterns choices]

theorem toPatterns_ofPatterns : ∀ ps : List Pattern, toPatterns (ofPatterns ps) = ps
  | [] => rfl
  | p :: rest => by rw [ofPatterns, toPatterns, toPattern_ofPattern p, toPatterns_ofPatterns rest]

end

theorem toOption_ofOption (e : Option Expr) : toOption (ofOption e) = e := present_ofOption e

theorem toWithItems_ofWithItems : ∀ items : List WithItem, toWithItems (ofWithItems items) = items
  | [] => rfl
  | i :: rest => by
      rw [ofWithItems, List.map_cons, toWithItems, toExpr_ofExpr, present_ofOption]
      exact congrArg (i :: ·) (toWithItems_ofWithItems rest)

theorem toAliases_ofAliases : ∀ names : List Alias, toAliases (ofAliases names) = names
  | [] => rfl
  | a :: rest => congrArg (a :: ·) (toAliases_ofAliases rest)

mutual

theorem toStmt_ofStmt : ∀ s : Stmt, toStmt (ofStmt s) = s
  | .funcDef isAsync name ps body decorators returns => by
      rw [ofStmt, row, row, row, toStmt, toParams_ofParams, toBlock_ofBlock body, toExprs_ofExprs,
        toOption_ofOption]
  | .classDef name bases ks body decorators => by
      rw [ofStmt, row, row, row, row, toStmt, toExprs_ofExprs, toKeywords_ofKeywords,
        toBlock_ofBlock body, toExprs_ofExprs]
  | .ret value => by rw [ofStmt, toStmt, toOption_ofOption]
  | .delete targets => by rw [ofStmt, toStmt, toExprs_ofExprs]
  | .assign targets value => by rw [ofStmt, row, toStmt, toExprs_ofExprs, toExpr_ofExpr]
  | .augAssign target op value => by rw [ofStmt, toStmt, toExpr_ofExpr, toExpr_ofExpr]
  | .annAssign target type value simple => by
      rw [ofStmt, toStmt, toExpr_ofExpr, toExpr_ofExpr, toOption_ofOption]
  | .forLoop isAsync target iter body orElse => by
      rw [ofStmt, row, row, toStmt, toExpr_ofExpr, toExpr_ofExpr, toBlock_ofBlock body,
        toBlock_ofBlock orElse]
  | .whileLoop test body orElse => by
      rw [ofStmt, row, row, toStmt, toExpr_ofExpr, toBlock_ofBlock body, toBlock_ofBlock orElse]
  | .ifElse test body orElse => by
      rw [ofStmt, row, row, toStmt, toExpr_ofExpr, toBlock_ofBlock body, toBlock_ofBlock orElse]
  | .withBlock isAsync items body => by
      rw [ofStmt, row, row, toStmt, toWithItems_ofWithItems, toBlock_ofBlock body]
  | .matchCases subject cs => by rw [ofStmt, row, toStmt, toExpr_ofExpr, toCases_ofCases cs]
  | .raiseError error cause => by rw [ofStmt, toStmt, toOption_ofOption, toOption_ofOption]
  | .tryBlock body hs orElse final groups => by
      rw [ofStmt, row, row, row, row, toStmt, toBlock_ofBlock body, toHandlers_ofHandlers hs,
        toBlock_ofBlock orElse, toBlock_ofBlock final]
  | .assertTrue test message => by rw [ofStmt, toStmt, toExpr_ofExpr, toOption_ofOption]
  | .importNames names => by rw [ofStmt, toStmt, toAliases_ofAliases]
  | .importFrom module names level => by rw [ofStmt, toStmt, toAliases_ofAliases]
  | .globalNames names => by rw [ofStmt, toStmt]
  | .nonlocalNames names => by rw [ofStmt, toStmt]
  | .expr value => by rw [ofStmt, toStmt, toExpr_ofExpr]
  | .pass => rfl
  | .breakLoop => by rw [ofStmt, toStmt]
  | .continueLoop => by rw [ofStmt, toStmt]

theorem toBlock_ofBlock : ∀ b : List Line, toBlock (ofBlock b) = b
  | [] => rfl
  | .mk n s :: rest => by rw [ofBlock, toBlock, toStmt_ofStmt s, toBlock_ofBlock rest]

theorem toHandlers_ofHandlers : ∀ hs : List Handler, toHandlers (ofHandlers hs) = hs
  | [] => rfl
  | .mk type name body line :: rest => by
      rw [ofHandlers, row, toHandlers, toOption_ofOption, toBlock_ofBlock body,
        toHandlers_ofHandlers rest]

theorem toCases_ofCases : ∀ cs : List Case, toCases (ofCases cs) = cs
  | [] => rfl
  | .mk p guard body line :: rest => by
      rw [ofCases, row, toCases, toPattern_ofPattern, toOption_ofOption, toBlock_ofBlock body,
        toCases_ofCases rest]

end

/-- **Nothing of a program is lost**: programs with the same nodes are the same. -/
theorem ofTree_injective : Function.Injective ofTree := by
  intro t t' h
  have hnodes : ofBlock t = ofBlock t' := (TreeNode.mk.inj h).2
  rw [← toBlock_ofBlock t, hnodes, toBlock_ofBlock]

end TreeNode

end TagTemplate.Script
