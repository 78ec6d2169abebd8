/-
  TagTemplate.Script.Substitution
  ────────────────────────────────
  **EXPRESSIONS IN PLACE OF NAMES.**

  `Substitution` puts an expression in the place of every name that is read, at
  any depth, and leaves all else as it is.
-/
import TagTemplate.Script.Tree

namespace TagTemplate.Script.Substitution

/-! ## §1. Expressions. -/

mutual

/-- An expression with every read name replaced. -/
def expr (f : String → Expr) : Expr → Expr
  | .boolOp op values => .boolOp op (exprs f values)
  | .named target value => .named target (expr f value)
  | .binary op left right => .binary op (expr f left) (expr f right)
  | .unary op operand => .unary op (expr f operand)
  | .lambda ps body => .lambda (params f ps) (expr f body)
  | .ifElse test body orElse => .ifElse (expr f test) (expr f body) (expr f orElse)
  | .dict es => .dict (entries f es)
  | .set items => .set (exprs f items)
  | .comp kind item cs line => .comp kind (expr f item) (clauses f cs) line
  | .dictComp key value cs line => .dictComp (expr f key) (expr f value) (clauses f cs) line
  | .await value line => .await (expr f value) line
  | .yield value line => .yield (option f value) line
  | .yieldFrom value line => .yieldFrom (expr f value) line
  | .compare left rest => .compare (expr f left) (comparisons f rest)
  | .call func args ks => .call (expr f func) (exprs f args) (keywords f ks)
  | .joined pieces => .joined (exprs f pieces)
  | .formatted value conversion none => .formatted (expr f value) conversion none
  | .formatted value conversion (some spec) =>
    .formatted (expr f value) conversion (some (exprs f spec))
  | .constant c => .constant c
  | .attribute value name => .attribute (expr f value) name
  | .subscript value index => .subscript (expr f value) (expr f index)
  | .starred value line => .starred (expr f value) line
  | .name id .load => f id
  | .name id .store => .name id .store
  | .name id .delete => .name id .delete
  | .list items => .list (exprs f items)
  | .tuple items => .tuple (exprs f items)
  | .slice lower upper step => .slice (option f lower) (option f upper) (option f step)

/-- An expression that may be absent. -/
def option (f : String → Expr) : Option Expr → Option Expr
  | none => none
  | some e => some (expr f e)

/-- Expressions. -/
def exprs (f : String → Expr) : List Expr → List Expr
  | [] => []
  | e :: rest => expr f e :: exprs f rest

/-- The entries of a mapping. -/
def entries (f : String → Expr) : List Entry → List Entry
  | [] => []
  | .item key value :: rest => .item (expr f key) (expr f value) :: entries f rest
  | .spread value :: rest => .spread (expr f value) :: entries f rest

/-- A chain of comparisons. -/
def comparisons (f : String → Expr) : List Comparison → List Comparison
  | [] => []
  | .mk op right :: rest => .mk op (expr f right) :: comparisons f rest

/-- Named arguments. -/
def keywords (f : String → Expr) : List Keyword → List Keyword
  | [] => []
  | .mk name value line :: rest => .mk name (expr f value) line :: keywords f rest

/-- The clauses of a comprehension. -/
def clauses (f : String → Expr) : List Clause → List Clause
  | [] => []
  | .mk isAsync target iter conditions :: rest =>
    .mk isAsync (expr f target) (expr f iter) (exprs f conditions) :: clauses f rest

/-- Parameters. -/
def params (f : String → Expr) : List Param → List Param
  | [] => []
  | .mk kind name type dflt :: rest =>
    .mk kind name (option f type) (option f dflt) :: params f rest

end

/-! ## §2. Patterns. -/

mutual

/-- A pattern with every read name replaced. -/
def pattern (f : String → Expr) : Pattern → Pattern
  | .value e => .value (expr f e)
  | .singleton c => .singleton c
  | .sequence items => .sequence (patterns f items)
  | .star name => .star name
  | .mapping keys items rest => .mapping (exprs f keys) (patterns f items) rest
  | .object cls items names named =>
    .object (expr f cls) (patterns f items) names (patterns f named)
  | .capture none name => .capture none name
  | .capture (some inner) name => .capture (some (pattern f inner)) name
  | .either choices => .either (patterns f choices)

/-- Patterns. -/
def patterns (f : String → Expr) : List Pattern → List Pattern
  | [] => []
  | p :: rest => pattern f p :: patterns f rest

end

/-! ## §3. Statements. -/

/-- Managers. -/
def withItems (f : String → Expr) (items : List WithItem) : List WithItem :=
  items.map fun i => ⟨expr f i.manager, option f i.target⟩

mutual

/-- A statement with every read name replaced. -/
def stmt (f : String → Expr) : Stmt → Stmt
  | .funcDef isAsync name ps body decorators returns =>
    .funcDef isAsync name (params f ps) (block f body) (exprs f decorators) (option f returns)
  | .classDef name bases ks body decorators =>
    .classDef name (exprs f bases) (keywords f ks) (block f body) (exprs f decorators)
  | .ret value => .ret (option f value)
  | .delete targets => .delete (exprs f targets)
  | .assign targets value => .assign (exprs f targets) (expr f value)
  | .augAssign target op value => .augAssign (expr f target) op (expr f value)
  | .annAssign target type value simple =>
    .annAssign (expr f target) (expr f type) (option f value) simple
  | .forLoop isAsync target iter body orElse =>
    .forLoop isAsync (expr f target) (expr f iter) (block f body) (block f orElse)
  | .whileLoop test body orElse => .whileLoop (expr f test) (block f body) (block f orElse)
  | .ifElse test body orElse => .ifElse (expr f test) (block f body) (block f orElse)
  | .withBlock isAsync items body => .withBlock isAsync (withItems f items) (block f body)
  | .matchCases subject cs => .matchCases (expr f subject) (cases f cs)
  | .raiseError error cause => .raiseError (option f error) (option f cause)
  | .tryBlock body hs orElse final groups =>
    .tryBlock (block f body) (handlers f hs) (block f orElse) (block f final) groups
  | .assertTrue test message => .assertTrue (expr f test) (option f message)
  | .importNames names => .importNames names
  | .importFrom module names level => .importFrom module names level
  | .globalNames names => .globalNames names
  | .nonlocalNames names => .nonlocalNames names
  | .expr value => .expr (expr f value)
  | .pass => .pass
  | .breakLoop => .breakLoop
  | .continueLoop => .continueLoop

/-- A block with every read name replaced. -/
def block (f : String → Expr) : List Line → List Line
  | [] => []
  | .mk n s :: rest => .mk n (stmt f s) :: block f rest

/-- Handlers with every read name replaced. -/
def handlers (f : String → Expr) : List Handler → List Handler
  | [] => []
  | .mk type name body line :: rest => .mk (option f type) name (block f body) line :: handlers f rest

/-- Cases with every read name replaced. -/
def cases (f : String → Expr) : List Case → List Case
  | [] => []
  | .mk p guard body line :: rest =>
    .mk (pattern f p) (option f guard) (block f body) line :: cases f rest

end

end TagTemplate.Script.Substitution
