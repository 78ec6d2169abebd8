/-
  TagTemplate.Script.Names
  ────────────────────────────────
  **THE NAMES OF A PROGRAM.**

  `mentions` lists every place where a program reads a name and every place
  where it binds one, whatever the scope: targets, parameters, definitions,
  imports, declarations, handlers and patterns all bind.
-/
import TagTemplate.Script.Tree
import TagTemplate.Text.Lines

namespace TagTemplate.Script

/-- A place where a name occurs. -/
inductive Mention where
  /-- The name is read. -/
  | reads (name : String)
  /-- The name is bound or declared. -/
  | binds (name : String)
  deriving DecidableEq, Repr

namespace Mention

/-- The mention of a name in an expression. -/
def ofUse (use : Use) (name : String) : Mention :=
  match use with
  | .load => .reads name
  | .store | .delete => .binds name

/-- The mention of a name that may be absent. -/
def binder (name : Option String) : List Mention := name.toList.map .binds

/-- The name an import binds: the one behind `as`, or what stands before the first dot. -/
def ofAlias (a : Alias) : Mention :=
  .binds ((a.binder.filter (!·.isEmpty)).getD (String.ofList (a.name.toList.takeWhile (· != '.'))))

/-! ## §1. Expressions. -/

mutual

/-- The mentions in an expression. -/
def inExpr : Expr → List Mention
  | .boolOp _ values => inExprs values
  | .named target value => .binds target :: inExpr value
  | .binary _ left right => inExpr left ++ inExpr right
  | .unary _ operand => inExpr operand
  | .lambda ps body => inParams ps ++ inExpr body
  | .ifElse test body orElse => inExpr test ++ inExpr body ++ inExpr orElse
  | .dict entries => inEntries entries
  | .set items => inExprs items
  | .comp _ item clauses _ => inExpr item ++ inClauses clauses
  | .dictComp key value clauses _ => inExpr key ++ inExpr value ++ inClauses clauses
  | .await value _ => inExpr value
  | .yield value _ => inOption value
  | .yieldFrom value _ => inExpr value
  | .compare left rest => inExpr left ++ inComparisons rest
  | .call func args keywords => inExpr func ++ inExprs args ++ inKeywords keywords
  | .joined pieces => inExprs pieces
  | .formatted value _ none => inExpr value
  | .formatted value _ (some spec) => inExpr value ++ inExprs spec
  | .constant _ => []
  | .attribute value _ => inExpr value
  | .subscript value index => inExpr value ++ inExpr index
  | .starred value _ => inExpr value
  | .name id use => [ofUse use id]
  | .list items => inExprs items
  | .tuple items => inExprs items
  | .slice lower upper step => inOption lower ++ inOption upper ++ inOption step

/-- The mentions in an expression that may be absent. -/
def inOption : Option Expr → List Mention
  | none => []
  | some e => inExpr e

/-- The mentions in expressions. -/
def inExprs : List Expr → List Mention
  | [] => []
  | e :: rest => inExpr e ++ inExprs rest

/-- The mentions in the entries of a mapping. -/
def inEntries : List Entry → List Mention
  | [] => []
  | .item key value :: rest => inExpr key ++ inExpr value ++ inEntries rest
  | .spread value :: rest => inExpr value ++ inEntries rest

/-- The mentions in a chain of comparisons. -/
def inComparisons : List Comparison → List Mention
  | [] => []
  | .mk _ right :: rest => inExpr right ++ inComparisons rest

/-- The mentions in named arguments. -/
def inKeywords : List Keyword → List Mention
  | [] => []
  | .mk _ value _ :: rest => inExpr value ++ inKeywords rest

/-- The mentions in the clauses of a comprehension. -/
def inClauses : List Clause → List Mention
  | [] => []
  | .mk _ target iter conditions :: rest =>
    inExpr target ++ inExpr iter ++ inExprs conditions ++ inClauses rest

/-- The mentions in parameters. -/
def inParams : List Param → List Mention
  | [] => []
  | .mk _ name type dflt :: rest =>
    .binds name :: (inOption type ++ inOption dflt ++ inParams rest)

end

/-! ## §2. Patterns. -/

mutual

/-- The mentions in a pattern. -/
def inPattern : Pattern → List Mention
  | .value e => inExpr e
  | .singleton _ => []
  | .sequence items => inPatterns items
  | .star name => binder name
  | .mapping keys items rest => inExprs keys ++ inPatterns items ++ binder rest
  | .object cls items _ named => inExpr cls ++ inPatterns items ++ inPatterns named
  | .capture none name => binder name
  | .capture (some inner) name => inPattern inner ++ binder name
  | .either choices => inPatterns choices

/-- The mentions in patterns. -/
def inPatterns : List Pattern → List Mention
  | [] => []
  | p :: rest => inPattern p ++ inPatterns rest

end

/-! ## §3. Statements. -/

/-- The mentions in managers. -/
def inWithItems (items : List WithItem) : List Mention :=
  items.flatMap fun i => inExpr i.manager ++ inOption i.target

mutual

/-- The mentions in a statement. -/
def inStmt : Stmt → List Mention
  | .funcDef _ name ps body decorators returns =>
    .binds name :: (inParams ps ++ inBlock body ++ inExprs decorators ++ inOption returns)
  | .classDef name bases keywords body decorators =>
    .binds name :: (inExprs bases ++ inKeywords keywords ++ inBlock body ++ inExprs decorators)
  | .ret value => inOption value
  | .delete targets => inExprs targets
  | .assign targets value => inExprs targets ++ inExpr value
  | .augAssign target _ value => inExpr target ++ inExpr value
  | .annAssign target type value _ => inExpr target ++ inExpr type ++ inOption value
  | .forLoop _ target iter body orElse =>
    inExpr target ++ inExpr iter ++ inBlock body ++ inBlock orElse
  | .whileLoop test body orElse => inExpr test ++ inBlock body ++ inBlock orElse
  | .ifElse test body orElse => inExpr test ++ inBlock body ++ inBlock orElse
  | .withBlock _ items body => inWithItems items ++ inBlock body
  | .matchCases subject cases => inExpr subject ++ inCases cases
  | .raiseError error cause => inOption error ++ inOption cause
  | .tryBlock body handlers orElse final _ =>
    inBlock body ++ inHandlers handlers ++ inBlock orElse ++ inBlock final
  | .assertTrue test message => inExpr test ++ inOption message
  | .importNames names => names.map ofAlias
  | .importFrom _ names _ => names.map ofAlias
  | .globalNames names => names.map .binds
  | .nonlocalNames names => names.map .binds
  | .expr value => inExpr value
  | .pass | .breakLoop | .continueLoop => []

/-- The mentions in a block. -/
def inBlock : List Line → List Mention
  | [] => []
  | .mk _ s :: rest => inStmt s ++ inBlock rest

/-- The mentions in handlers. -/
def inHandlers : List Handler → List Mention
  | [] => []
  | .mk type name body _ :: rest => inOption type ++ binder name ++ inBlock body ++ inHandlers rest

/-- The mentions in cases. -/
def inCases : List Case → List Mention
  | [] => []
  | .mk p guard body _ :: rest => inPattern p ++ inOption guard ++ inBlock body ++ inCases rest

end

end Mention

/-- The names a program reads somewhere. -/
def readNames (t : Tree) : List String :=
  (Mention.inBlock t).filterMap fun
    | .reads n => some n
    | .binds _ => none

/-- The names a program binds somewhere. -/
def boundNames (t : Tree) : List String :=
  (Mention.inBlock t).filterMap fun
    | .binds n => some n
    | .reads _ => none

end TagTemplate.Script
