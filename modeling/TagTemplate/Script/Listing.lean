/-
  TagTemplate.Script.Listing
  ────────────────────────────────
  **FROM STATEMENTS TO LINES.**

  A statement is written as lines, four spaces further to the right in every
  block.  A definition is set apart by an empty line, except at the very top;
  a text that opens a function, a class or the whole program is its
  description and goes between triple quotes.
-/
import TagTemplate.Script.Printer

namespace TagTemplate.Script.Listing

open Printer

/-! ## §1. Lines. -/

/-- A line at a depth. -/
def line (depth : Nat) (d : Doc) : Doc :=
  (↑(String.ofList (List.replicate (4 * depth) ' ')) : Doc) ++ d

/-- The description that opens a body. -/
def descriptionText (s : String) (marked : Bool) : String :=
  (if marked then "u" else "") ++ sparingly s longQuotes

/-- Names with what they are bound to. -/
def aliasText (a : Alias) : String :=
  match a.binder with
  | some b => a.name ++ " as " ++ b
  | none => a.name

/-- A value behind a word, if there is one. -/
def behind (word : String) : Option Expr → Doc
  | some e => (↑word : Doc) ++ expr false .test e
  | none => ↑""

/-- Managers. -/
def withDocs (items : List WithItem) : Doc :=
  Doc.join ", " (items.map fun i => expr false .test i.manager ++ behind " as " i.target)

/-- The decorators of a definition, below the empty line before it. -/
def opening (depth : Nat) (decorators : List Expr) : List Doc :=
  (↑"" : Doc) :: decorators.map fun e => line depth ((↑"@" : Doc) ++ expr false .test e)

/-- The targets of an assignment. -/
def targetsDoc (targets : List Expr) : Doc :=
  Doc.concat (targets.map fun t => expr false .tuple t ++ ↑" = ")

/-! ## §2. Statements. -/

mutual

/-- A statement as lines at a depth. -/
def stmt (depth : Nat) : Stmt → List Doc
  | .funcDef isAsync name ps body decorators returns =>
    opening depth decorators
      ++ line depth ((↑((if isAsync then "async def " else "def ") ++ name ++ "(") : Doc)
        ++ paramsDoc (params false ps) ++ ↑")" ++ behind " -> " returns ++ ↑":")
      :: described (depth + 1) body
  | .classDef name bases keywords body decorators =>
    let args := exprs false bases ++ keywordDocs false keywords
    opening depth decorators
      ++ line depth ((↑("class " ++ name) : Doc)
        ++ (if args.isEmpty then (↑"" : Doc) else (Doc.join ", " args).parens true) ++ ↑":")
      :: described (depth + 1) body
  | .ret value => [line depth ((↑"return" : Doc) ++ behind " " value)]
  | .delete targets => [line depth ((↑"del " : Doc) ++ Doc.join ", " (exprs false targets))]
  | .assign targets value => [line depth (targetsDoc targets ++ expr false .test value)]
  | .augAssign target op value =>
    [line depth (expr false .test target ++ ↑(" " ++ binaryText op ++ "= ")
      ++ expr false .test value)]
  | .annAssign target type value simple =>
    let bare := match target with
      | .name _ _ => true
      | _ => false
    [line depth ((expr false .test target).parens (!simple && bare) ++ ↑": "
      ++ expr false .test type ++ behind " = " value)]
  | .forLoop isAsync target iter body orElse =>
    line depth ((↑(if isAsync then "async for " else "for ") : Doc) ++ expr false .tuple target
      ++ ↑" in " ++ expr false .test iter ++ ↑":")
      :: block (depth + 1) body ++ tail depth "else" orElse
  | .whileLoop test body orElse =>
    line depth ((↑"while " : Doc) ++ expr false .test test ++ ↑":")
      :: block (depth + 1) body ++ tail depth "else" orElse
  | .ifElse test body orElse =>
    line depth ((↑"if " : Doc) ++ expr false .test test ++ ↑":")
      :: block (depth + 1) body ++ branches depth orElse
  | .withBlock isAsync items body =>
    line depth ((↑(if isAsync then "async with " else "with ") : Doc) ++ withDocs items ++ ↑":")
      :: block (depth + 1) body
  | .matchCases subject cases =>
    line depth ((↑"match " : Doc) ++ expr false .test subject ++ ↑":")
      :: caseLines (depth + 1) cases
  | .raiseError error cause =>
    [line depth ((↑"raise" : Doc) ++ behind " " error ++ behind " from " cause)]
  | .tryBlock body handlers orElse final groups =>
    line depth ↑"try:" :: block (depth + 1) body ++ handlerLines depth groups handlers
      ++ tail depth "else" orElse ++ tail depth "finally" final
  | .assertTrue test message =>
    [line depth ((↑"assert " : Doc) ++ expr false .test test ++ behind ", " message)]
  | .importNames names => [line depth ↑("import " ++ ", ".intercalate (names.map aliasText))]
  | .importFrom module names level =>
    [line depth ↑("from " ++ String.ofList (List.replicate level '.') ++ module.getD "" ++ " import "
      ++ ", ".intercalate (names.map aliasText))]
  | .globalNames names => [line depth ↑("global " ++ ", ".intercalate names)]
  | .nonlocalNames names => [line depth ↑("nonlocal " ++ ", ".intercalate names)]
  | .expr value => [line depth (expr false .yield value)]
  | .pass => [line depth ↑"pass"]
  | .breakLoop => [line depth ↑"break"]
  | .continueLoop => [line depth ↑"continue"]

/-- A block as lines. -/
def block (depth : Nat) : List Line → List Doc
  | [] => []
  | .mk _ s :: rest => stmt depth s ++ block depth rest

/-- A body that may open with its description. -/
def described (depth : Nat) : List Line → List Doc
  | .mk _ (.expr (.constant (.str s marked))) :: rest =>
    line depth ↑(descriptionText s marked) :: block depth rest
  | .mk _ s :: rest => stmt depth s ++ block depth rest
  | [] => []

/-- A block behind a word, if there is one. -/
def tail (depth : Nat) (word : String) : List Line → List Doc
  | [] => []
  | .mk _ s :: rest =>
    line depth ↑(word ++ ":") :: (stmt (depth + 1) s ++ block (depth + 1) rest)

/-- The other branches of a choice: a lone choice continues it. -/
def branches (depth : Nat) : List Line → List Doc
  | [] => []
  | [.mk _ (.ifElse test body orElse)] =>
    line depth ((↑"elif " : Doc) ++ expr false .test test ++ ↑":")
      :: block (depth + 1) body ++ branches depth orElse
  | .mk _ s :: rest => line depth ↑"else:" :: (stmt (depth + 1) s ++ block (depth + 1) rest)

/-- Handlers of errors as lines. -/
def handlerLines (depth : Nat) (groups : Bool) : List Handler → List Doc
  | [] => []
  | .mk type name body _ :: rest =>
    let name := match name with
      | some n => " as " ++ n
      | none => ""
    line depth ((↑(if groups then "except*" else "except") : Doc) ++ behind " " type
      ++ ↑(name ++ ":"))
      :: block (depth + 1) body ++ handlerLines depth groups rest

/-- Cases as lines. -/
def caseLines (depth : Nat) : List Case → List Doc
  | [] => []
  | .mk p guard body _ :: rest =>
    line depth ((↑"case " : Doc) ++ pattern .test p ++ behind " if " guard ++ ↑":")
      :: block (depth + 1) body ++ caseLines depth rest

end

/-! ## §3. Programs. -/

/-- A program as code; at its top no empty line sets a definition apart. -/
def program (t : Tree) : Doc :=
  match described 0 t with
  | first :: rest => Doc.join "\n" (if first.text.isEmpty then rest else first :: rest)
  | [] => ↑""

end TagTemplate.Script.Listing
