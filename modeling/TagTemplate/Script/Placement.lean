/-
  TagTemplate.Script.Placement
  ────────────────────────────────
  **WHAT MAY STAND WHERE.**

  The grammar takes some texts that mean nothing: a `break` outside of any
  loop, an `await` outside of an asynchronous function, a case that nothing
  can reach.  `misplaced` is the line of the first of them, in the order in
  which the parts of a statement take effect.
-/
import TagTemplate.Script.Scope

namespace TagTemplate.Script

/-! ## §1. Surroundings. -/

/-- What encloses a piece of code. -/
inductive Host where
  /-- Nothing. -/
  | program
  /-- A class. -/
  | object
  /-- A function. -/
  | function
  /-- An asynchronous function. -/
  | asyncFunction
  /-- A comprehension. -/
  | comprehension
  deriving DecidableEq, Repr

/-- The surroundings of a piece of code. -/
structure Place where
  /-- What encloses it. -/
  host : Host := .program
  /-- It is inside a loop of its host. -/
  inLoop : Bool := false
  /-- What leaving the innermost loop goes through, from the inside out: the first flaw of a block
  that has to run, or a handler of groups, which cannot be left. -/
  exits : List (Option Nat) := []
  /-- What leaving the function goes through. -/
  allExits : List (Option Nat) := []
  /-- Its host hands values out and waits for some. -/
  streams : Bool := false
  /-- The line of the statement. -/
  line : Nat := 0

/-- Whether values can be returned and handed out. -/
def Host.isFunctionLike : Host → Bool
  | .program | .object => false
  | _ => true

/-- Whether a comprehension that waits may stand here. -/
def Host.mayWait : Host → Bool
  | .asyncFunction | .comprehension => true
  | _ => false

/-- The line, if a condition holds. -/
def flawIf (condition : Bool) (line : Nat) : Option Nat := if condition then some line else none

/-! ## §2. Waiting and handing out. -/

/-- What a piece of code does to the function around it. -/
structure Effects where
  /-- It hands values out. -/
  yields : Bool := false
  /-- It waits. -/
  waits : Bool := false

/-- The effects of two pieces together. -/
def Effects.join (a b : Effects) : Effects := ⟨a.yields || b.yields, a.waits || b.waits⟩

instance : Append Effects := ⟨Effects.join⟩

namespace Effects

mutual

/-- The effects of an expression. -/
def expr : Expr → Effects
  | .boolOp _ values => exprs values
  | .named _ value => expr value
  | .binary _ left right => expr left ++ expr right
  | .unary _ operand => expr operand
  | .lambda ps _ => params ps
  | .ifElse test body orElse => expr test ++ expr body ++ expr orElse
  | .dict es => entries es
  | .set items => exprs items
  | .comp kind item cs _ =>
    let own := expr item ++ clauses cs
    if kind == .generator then first cs else own ++ first cs
  | .dictComp key value cs _ => expr key ++ expr value ++ clauses cs ++ first cs
  | .await value _ => ⟨false, true⟩ ++ expr value
  | .yield none _ => ⟨true, false⟩
  | .yield (some value) _ => ⟨true, false⟩ ++ expr value
  | .yieldFrom value _ => ⟨true, false⟩ ++ expr value
  | .compare left rest => expr left ++ comparisons rest
  | .call func args ks => expr func ++ exprs args ++ keywords ks
  | .joined pieces => exprs pieces
  | .formatted value _ none => expr value
  | .formatted value _ (some spec) => expr value ++ exprs spec
  | .constant _ => {}
  | .attribute value _ => expr value
  | .subscript value index => expr value ++ expr index
  | .starred value _ => expr value
  | .name _ _ => {}
  | .list items => exprs items
  | .tuple items => exprs items
  | .slice lower upper step => option lower ++ option upper ++ option step

/-- The effects of an expression that may be absent. -/
def option : Option Expr → Effects
  | none => {}
  | some e => expr e

/-- The effects of expressions. -/
def exprs : List Expr → Effects
  | [] => {}
  | e :: rest => expr e ++ exprs rest

/-- The effects of the entries of a mapping. -/
def entries : List Entry → Effects
  | [] => {}
  | .item key value :: rest => expr key ++ expr value ++ entries rest
  | .spread value :: rest => expr value ++ entries rest

/-- The effects of a chain of comparisons. -/
def comparisons : List Comparison → Effects
  | [] => {}
  | .mk _ right :: rest => expr right ++ comparisons rest

/-- The effects of named arguments. -/
def keywords : List Keyword → Effects
  | [] => {}
  | .mk _ value _ :: rest => expr value ++ keywords rest

/-- The effects of the source of the first clause on the scope around a comprehension. -/
def first : List Clause → Effects
  | [] => {}
  | .mk _ _ iter _ :: _ => expr iter

/-- The effects of clauses inside their comprehension. -/
def clauses : List Clause → Effects
  | [] => {}
  | .mk isAsync target iter conditions :: rest =>
    ⟨false, isAsync⟩ ++ expr target ++ expr iter ++ exprs conditions ++ clauses rest

/-- The effects of default values and types. -/
def params : List Param → Effects
  | [] => {}
  | .mk _ _ type dflt :: rest => option type ++ option dflt ++ params rest

end

mutual

/-- The effects of a statement. -/
def stmt : Stmt → Effects
  | .funcDef _ _ ps _ decorators returns => params ps ++ exprs decorators ++ option returns
  | .classDef _ bases ks _ decorators => exprs bases ++ keywords ks ++ exprs decorators
  | .ret value => option value
  | .delete targets => exprs targets
  | .assign targets value => exprs targets ++ expr value
  | .augAssign target _ value => expr target ++ expr value
  | .annAssign target type value _ => expr target ++ expr type ++ option value
  | .forLoop _ target iter body orElse =>
    expr target ++ expr iter ++ block body ++ block orElse
  | .whileLoop test body orElse | .ifElse test body orElse =>
    expr test ++ block body ++ block orElse
  | .withBlock _ items body => withItems items ++ block body
  | .matchCases subject cs => expr subject ++ cases cs
  | .raiseError error cause => option error ++ option cause
  | .tryBlock body hs orElse final _ => block body ++ handlers hs ++ block orElse ++ block final
  | .assertTrue test message => expr test ++ option message
  | .expr value => expr value
  | .importNames _ | .importFrom _ _ _ | .globalNames _ | .nonlocalNames _ => {}
  | .pass | .breakLoop | .continueLoop => {}

/-- The effects of a block. -/
def block : List Line → Effects
  | [] => {}
  | .mk _ s :: rest => stmt s ++ block rest

/-- The effects of managers. -/
def withItems : List WithItem → Effects
  | [] => {}
  | i :: rest => expr i.manager ++ option i.target ++ withItems rest

/-- The effects of handlers. -/
def handlers : List Handler → Effects
  | [] => {}
  | .mk type _ body _ :: rest => option type ++ block body ++ handlers rest

/-- The effects of cases. -/
def cases : List Case → Effects
  | [] => {}
  | .mk _ guard body _ :: rest => option guard ++ block body ++ cases rest

end

end Effects

/-! ## §3. Patterns. -/

/-- Names, none of them twice. -/
def distinct (names : List String) : Option (List String) :=
  if names.eraseDups.length == names.length then some names else none

mutual

/-- The names that a pattern binds, or nothing if it can never be right.  `total` says whether it may
match anything at all. -/
def Pattern.binders (total : Bool) : Pattern → Option (List String)
  | .value _ | .singleton _ => some []
  | .sequence items =>
    let stars := items.filter fun
      | .star _ => true
      | _ => false
    if stars.length > 1 then none else bindersOfAll items
  | .star name => some name.toList
  | .mapping _ items rest => do distinct ((← bindersOfAll items) ++ rest.toList)
  | .object _ items names named => do
    if names.eraseDups.length != names.length then none
    else distinct ((← bindersOfAll items) ++ (← bindersOfAll named))
  | .capture none name => if total then some name.toList else none
  | .capture (some inner) name => do distinct ((← inner.binders total) ++ name.toList)
  | .either choices => bindersOfEach total choices

/-- The names that patterns bind together. -/
def bindersOfAll : List Pattern → Option (List String)
  | [] => some []
  | p :: rest => do distinct ((← p.binders true) ++ (← bindersOfAll rest))

/-- The names that each of several patterns binds. -/
def bindersOfEach (total : Bool) : List Pattern → Option (List String)
  | [] => some []
  | [p] => p.binders total
  | p :: rest => do
    let names ← p.binders false
    let others ← bindersOfEach total rest
    if names.all others.contains && others.all names.contains then some names else none

end

/-! ## §4. Expressions. -/

namespace Place

/-- A name that cannot be bound. -/
def isFixed (name : String) : Bool := name == "__debug__"

/-- The line of a named argument that came before. -/
def repeated (seen : List String) : List Keyword → Option Nat
  | [] => none
  | .mk none _ _ :: rest => repeated seen rest
  | .mk (some name) _ line :: rest =>
    if isFixed name || seen.contains name then some line else repeated (name :: seen) rest

/-- Whether several of some targets stand for the elements of a value. -/
def manyStars (targets : List Expr) : Bool :=
  (targets.filter fun
    | .starred _ _ => true
    | _ => false).length > 1

mutual

/-- The first flaw of an expression. -/
def expr (p : Place) : Expr → Option Nat
  | .boolOp _ values => exprs p values
  | .named target value => expr p value <|> flawIf (isFixed target) p.line
  | .binary _ left right => expr p left <|> expr p right
  | .unary _ operand => expr p operand
  | .lambda ps body => defaults p ps <|> expr { p with host := .function } body
  | .ifElse test body orElse => expr p test <|> expr p body <|> expr p orElse
  | .dict es => entries p es
  | .set items => elements p items
  | .comp kind item cs line =>
    let inner := Effects.expr item ++ Effects.clauses cs
    let flaw := flawIf (inner.waits && kind != .generator && !p.host.mayWait) line
    let q := { p with host := .comprehension }
    flaw <|> clauses q true cs <|> expr q item <|> source p cs
  | .dictComp key value cs line =>
    let inner := Effects.expr key ++ Effects.expr value ++ Effects.clauses cs
    let flaw := flawIf (inner.waits && !p.host.mayWait) line
    let q := { p with host := .comprehension }
    flaw <|> clauses q true cs <|> expr q key <|> expr q value <|> source p cs
  | .await value line => flawIf (!p.host.mayWait) line <|> expr p value
  | .yield value line => flawIf (!p.host.isFunctionLike) line <|> option p value
  | .yieldFrom value line =>
    flawIf (!p.host.isFunctionLike || p.host == .asyncFunction) line <|> expr p value
  | .compare left rest => expr p left <|> comparisons p rest
  | .call func args ks => repeated [] ks <|> expr p func <|> elements p args <|> keywords p ks
  | .joined pieces => exprs p pieces
  | .formatted value _ none => expr p value
  | .formatted value _ (some spec) => expr p value <|> exprs p spec
  | .constant _ => none
  | .attribute value _ => expr p value
  | .subscript value index => expr p value <|> expr p index
  | .starred _ line => some line
  | .name _ .load => none
  | .name id _ => flawIf (isFixed id) p.line
  | .list items => elements p items
  | .tuple items => elements p items
  | .slice lower upper step => option p lower <|> option p upper <|> option p step

/-- The first flaw of an expression that may be absent. -/
def option (p : Place) : Option Expr → Option Nat
  | none => none
  | some e => expr p e

/-- The first flaw of expressions. -/
def exprs (p : Place) : List Expr → Option Nat
  | [] => none
  | e :: rest => expr p e <|> exprs p rest

/-- The first flaw of items, among which the elements of a value may stand. -/
def elements (p : Place) : List Expr → Option Nat
  | [] => none
  | .starred value _ :: rest => expr p value <|> elements p rest
  | e :: rest => expr p e <|> elements p rest

/-- The first flaw of the entries of a mapping. -/
def entries (p : Place) : List Entry → Option Nat
  | [] => none
  | .item key value :: rest => expr p key <|> expr p value <|> entries p rest
  | .spread value :: rest => expr p value <|> entries p rest

/-- The first flaw of a chain of comparisons. -/
def comparisons (p : Place) : List Comparison → Option Nat
  | [] => none
  | .mk _ right :: rest => expr p right <|> comparisons p rest

/-- The first flaw of named arguments. -/
def keywords (p : Place) : List Keyword → Option Nat
  | [] => none
  | .mk _ value _ :: rest => expr p value <|> keywords p rest

/-- The first flaw of the source of the first clause, which belongs to the scope around. -/
def source (p : Place) : List Clause → Option Nat
  | [] => none
  | .mk _ _ iter _ :: _ => expr p iter

/-- The first flaw of the clauses of a comprehension; the source of the first one is left out. -/
def clauses (p : Place) (first : Bool) : List Clause → Option Nat
  | [] => none
  | .mk _ target iter conditions :: rest =>
    (if first then none else expr p iter)
      <|> (match target with
        | .tuple items | .list items => flawIf (manyStars items) p.line <|> elements p items
        | e => expr p e)
      <|> exprs p conditions <|> clauses p false rest

/-- The first flaw of default values. -/
def defaults (p : Place) : List Param → Option Nat
  | [] => none
  | .mk _ name _ dflt :: rest => flawIf (isFixed name) p.line <|> option p dflt <|> defaults p rest

end

/-- The first flaw of a target. -/
def target (p : Place) : Expr → Option Nat
  | .tuple items | .list items => flawIf (manyStars items) p.line <|> elements p items
  | e => expr p e

/-! ## §5. Statements. -/

/-- The first flaw of the types of parameters. -/
def types (p : Place) : List Param → Option Nat
  | [] => none
  | .mk _ _ type _ :: rest => option p type <|> types p rest

/-- The first flaw of managers. -/
def withItems (p : Place) : List WithItem → Option Nat
  | [] => none
  | i :: rest => expr p i.manager <|> (i.target.bind (target p)) <|> withItems p rest

/-- The surroundings of the body of a loop. -/
def loop (p : Place) : Place := { p with inLoop := true, exits := [] }

/-- The surroundings inside of something that is gone through on the way out. -/
def within (p : Place) (exit : Option Nat) : Place :=
  { p with exits := exit :: p.exits, allExits := exit :: p.allExits }

/-- The surroundings inside of a block that has to run at the end, given its first flaw. -/
def before (p : Place) (flaw : Option Nat) : Place :=
  if flaw.isSome then p.within flaw else p

/-- The first flaw on the way out. -/
def leaving (p : Place) (exits : List (Option Nat)) : Option Nat :=
  exits.head?.map fun e => e.getD p.line

/-- The surroundings of the body of a function. -/
def body (p : Place) (isAsync : Bool) (effects : Effects) : Place where
  host := if isAsync then .asyncFunction else .function
  streams := effects.yields && (isAsync || effects.waits)
  line := p.line

/-- The first flaw of the expressions in a pattern. -/
def patternValue (p : Place) : Pattern → Option Nat
  | .value e => expr p e
  | _ => none

mutual

/-- The first flaw of a statement. -/
def stmt (p : Place) : Stmt → Option Nat
  | .funcDef isAsync name ps b decorators returns =>
    exprs p decorators <|> defaults p ps <|> types p ps <|> option p returns
      <|> block (body p isAsync (Effects.block b)) b <|> flawIf (isFixed name) p.line
  | .classDef name bases ks b decorators =>
    exprs p decorators <|> block { host := .object, line := p.line } b
      <|> repeated [] ks <|> elements p bases <|> keywords p ks <|> flawIf (isFixed name) p.line
  | .ret value =>
    flawIf (!p.host.isFunctionLike) p.line <|> flawIf (p.streams && value.isSome) p.line
      <|> option p value <|> p.leaving p.allExits
  | .delete targets => exprs p targets
  | .assign targets value => expr p value <|> targetsFlaw p targets
  | .augAssign goal _ value => expr p goal <|> expr p value
  | .annAssign goal type value _ =>
    option p value <|> target p goal <|> (if p.host.isFunctionLike then none else expr p type)
  | .forLoop isAsync goal iter b orElse =>
    flawIf (isAsync && p.host != .asyncFunction) p.line <|> expr p iter <|> target p goal
      <|> block p.loop b <|> block p orElse
  | .whileLoop test b orElse => expr p test <|> block p.loop b <|> block p orElse
  | .ifElse test b orElse => expr p test <|> block p b <|> block p orElse
  | .withBlock isAsync items b =>
    flawIf (isAsync && p.host != .asyncFunction) p.line <|> withItems p items <|> block p b
  | .matchCases subject cs => expr p subject <|> cases p cs
  | .raiseError error cause => option p error <|> option p cause
  | .tryBlock b hs orElse final groups =>
    let last := block p final
    let q := p.before last
    block q b <|> block q orElse <|> handlers q groups hs <|> last
  | .assertTrue test message => expr p test <|> option p message
  | .expr value => expr p value
  | .breakLoop | .continueLoop => p.leaving p.exits <|> flawIf (!p.inLoop) p.line
  | .importFrom (some "__future__") _ 0 => some p.line
  | .importNames _ | .importFrom _ _ _ | .globalNames _ | .nonlocalNames _ => none
  | .pass => none
where
  /-- The first flaw of several targets. -/
  targetsFlaw (p : Place) (targets : List Expr) : Option Nat :=
    targets.findSome? (target p)

/-- The first flaw of a block. -/
def block (p : Place) : List Line → Option Nat
  | [] => none
  | .mk line s :: rest => stmt { p with line } s <|> block p rest

/-- The first flaw of handlers; one that takes every error has to be the last. -/
def handlers (p : Place) (groups : Bool) : List Handler → Option Nat
  | [] => none
  | .mk type _ b line :: rest =>
    let q := if groups then within { p with line } none else { p with line }
    flawIf (type.isNone && !rest.isEmpty) line <|> option q type <|> block q b
      <|> handlers p groups rest

/-- The first flaw of cases; one that takes everything has to be the last. -/
def cases (p : Place) : List Case → Option Nat
  | [] => none
  | .mk pattern guard b line :: rest =>
    let q := { p with line }
    flawIf (pattern.binders (guard.isSome || rest.isEmpty)).isNone line <|> patternValue q pattern
      <|> option q guard <|> block q b <|> cases p rest

end

end Place

/-! ## §6. Programs. -/

/-- The line of the first part of a program that may not stand where it does. -/
def misplaced (t : Tree) : Option Nat := scopeFlaw t <|> Place.block {} t

end TagTemplate.Script
