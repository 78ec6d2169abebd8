/-
  TagTemplate.Script.Scope
  ────────────────────────────────
  **SCOPES.**

  A program is a tree of scopes: the program itself, its functions, classes
  and comprehensions.  `scopeFlaw` builds the tree and says on which line a
  name is declared in a way that its scope does not allow: a parameter twice,
  a declaration behind a use, or a name of an enclosing function that has
  none.
-/
import TagTemplate.Script.Names

namespace TagTemplate.Script

/-! ## §1. Scopes. -/

/-- What opens a scope. -/
inductive ScopeKind where
  /-- The program. -/
  | program
  /-- A function. -/
  | function
  /-- A class. -/
  | object
  /-- A comprehension. -/
  | comprehension
  deriving DecidableEq, Repr

/-- What a scope does with a name. -/
structure NameFacts where
  /-- It is a parameter. -/
  isParam : Bool := false
  /-- It is bound. -/
  isBound : Bool := false
  /-- It is imported. -/
  isImported : Bool := false
  /-- It is read. -/
  isRead : Bool := false
  /-- It has a type. -/
  isTyped : Bool := false
  /-- It is the target of a comprehension. -/
  isTarget : Bool := false
  /-- It is declared global. -/
  isGlobal : Bool := false
  /-- It is declared to belong to an enclosing function. -/
  isOuter : Bool := false

/-- The names of a scope in the order in which they come up, and its inner scopes. -/
inductive Scope where
  /-- What opens it, the line, the names, the lines of its declarations, the inner scopes. -/
  | mk (kind : ScopeKind) (line : Nat) (names : List (String × NameFacts))
      (declared : List (String × Nat)) (inner : List Scope)

/-- A scope while it is being built. -/
structure OpenScope where
  /-- What opens it. -/
  kind : ScopeKind
  /-- The line it opens on. -/
  line : Nat
  /-- The names so far. -/
  names : List (String × NameFacts) := []
  /-- The declarations so far. -/
  declared : List (String × Nat) := []
  /-- The finished inner scopes. -/
  inner : List Scope := []
  /-- Inside the source of a comprehension. -/
  inSource : Bool := false
  /-- Inside the target of a comprehension. -/
  inTarget : Bool := false
  /-- Names that a comprehension binds in the scope around it. -/
  carried : List String := []

/-- Building a scope; a flaw is known by its line. -/
abbrev Scoping := StateT OpenScope (Except Nat)

namespace Scoping

/-- What is known about a name. -/
def facts (name : String) : Scoping NameFacts := do
  return ((← get).names.lookup name).getD {}

/-- Learn something about a name. -/
def learn (name : String) (f : NameFacts → NameFacts) : Scoping Unit :=
  modify fun s =>
    if s.names.any (·.1 == name) then
      { s with names := s.names.map fun (n, k) => if n == name then (n, f k) else (n, k) }
    else { s with names := s.names ++ [(name, f {})] }

/-- A name is bound. -/
def bound (name : String) : Scoping Unit := do
  let target := (← get).inTarget
  learn name fun k => { k with isBound := true, isTarget := k.isTarget || target }

/-- A name that may be absent is bound. -/
def boundIf (name : Option String) : Scoping Unit :=
  match name with
  | some n => bound n
  | none => pure ()

/-- A name is a parameter, the first of its name. -/
def parameter (name : String) : Scoping Unit := do
  if (← facts name).isParam then throw (← get).line
  else learn name fun k => { k with isParam := true, isBound := true }

/-- Declare a name, before anything else is known about it. -/
def declare (line : Nat) (f : NameFacts → NameFacts) (name : String) : Scoping Unit := do
  let k ← facts name
  if k.isParam || k.isBound || k.isRead || k.isTyped then throw line
  else
    learn name f
    modify fun s => { s with declared := s.declared ++ [(name, line)] }

/-- A comprehension binds a name for the scope around it. -/
def carry (line : Nat) (name : String) : Scoping Unit := do
  match (← get).kind with
  | .comprehension =>
    if (← facts name).isTarget then throw line
    else modify fun s => { s with carried := s.carried ++ [name] }
  | .object => throw line
  | _ => bound name

/-- Build an inner scope. -/
def inside (kind : ScopeKind) (line : Nat) (body : Scoping Unit) : Scoping Unit := do
  let ((), s) ← (body.run { kind, line } : Except Nat (Unit × OpenScope))
  modify fun outer =>
    { outer with inner := outer.inner ++ [.mk s.kind s.line s.names s.declared s.inner] }
  s.carried.forM (carry line)

/-- Go through the source of a comprehension. -/
def asSource (body : Scoping Unit) : Scoping Unit := do
  let before := (← get).inSource
  modify fun s => { s with inSource := true }
  body
  modify fun s => { s with inSource := before }

/-- Go through the target of a comprehension. -/
def asTargetOf (body : Scoping Unit) : Scoping Unit := do
  modify fun s => { s with inTarget := true }
  body
  modify fun s => { s with inTarget := false }

/-- A value is handed out, which a comprehension cannot do. -/
def handsOut (line : Nat) : Scoping Unit := do
  if (← get).kind == .comprehension then throw line

/-! ## §2. Expressions. -/

mutual

/-- The names of an expression that stands on a line. -/
def expr (line : Nat) : Expr → Scoping Unit
  | .boolOp _ values => exprs line values
  | .named target value => do
    if (← get).inSource then throw line
    if (← get).kind == .comprehension then carry line target
    expr line value
    if (← get).kind != .comprehension then bound target
  | .binary _ left right => do expr line left; expr line right
  | .unary _ operand => expr line operand
  | .lambda ps body => do
    defaults line ps
    inside .function line do
      paramNames ps
      expr line body
  | .ifElse test body orElse => do expr line test; expr line body; expr line orElse
  | .dict es => entries line es
  | .set items => exprs line items
  | .comp _ item cs at_ => do
    source at_ cs
    inside .comprehension at_ do
      clauses at_ true cs
      expr at_ item
  | .dictComp key value cs at_ => do
    source at_ cs
    inside .comprehension at_ do
      clauses at_ true cs
      expr at_ value
      expr at_ key
  | .await value _ => expr line value
  | .yield none at_ => handsOut at_
  | .yield (some value) at_ => do expr line value; handsOut at_
  | .yieldFrom value at_ => do expr line value; handsOut at_
  | .compare left rest => do expr line left; comparisons line rest
  | .call func args ks => do expr line func; exprs line args; keywords line ks
  | .joined pieces => exprs line pieces
  | .formatted value _ none => expr line value
  | .formatted value _ (some spec) => do expr line value; exprs line spec
  | .constant _ => pure ()
  | .attribute value _ => expr line value
  | .subscript value index => do expr line value; expr line index
  | .starred value _ => expr line value
  | .name id .load => learn id fun k => { k with isRead := true }
  | .name id _ => bound id
  | .list items => exprs line items
  | .tuple items => exprs line items
  | .slice lower upper step => do option line lower; option line upper; option line step

/-- The names of an expression that may be absent. -/
def option (line : Nat) : Option Expr → Scoping Unit
  | none => pure ()
  | some e => expr line e

/-- The names of expressions. -/
def exprs (line : Nat) : List Expr → Scoping Unit
  | [] => pure ()
  | e :: rest => do expr line e; exprs line rest

/-- The names of the entries of a mapping. -/
def entries (line : Nat) : List Entry → Scoping Unit
  | [] => pure ()
  | .item key value :: rest => do expr line key; expr line value; entries line rest
  | .spread value :: rest => do expr line value; entries line rest

/-- The names of a chain of comparisons. -/
def comparisons (line : Nat) : List Comparison → Scoping Unit
  | [] => pure ()
  | .mk _ right :: rest => do expr line right; comparisons line rest

/-- The names of named arguments. -/
def keywords (line : Nat) : List Keyword → Scoping Unit
  | [] => pure ()
  | .mk _ value _ :: rest => do expr line value; keywords line rest

/-- The names of the source of the first clause, which belongs to the scope around. -/
def source (line : Nat) : List Clause → Scoping Unit
  | [] => pure ()
  | .mk _ _ iter _ :: _ => asSource (expr line iter)

/-- The names of the clauses of a comprehension; the source of the first one is left out. -/
def clauses (line : Nat) (first : Bool) : List Clause → Scoping Unit
  | [] => pure ()
  | .mk _ target iter conditions :: rest => do
    asTargetOf (expr line target)
    if !first then asSource (expr line iter)
    exprs line conditions
    clauses line false rest

/-- The names of default values. -/
def defaults (line : Nat) : List Param → Scoping Unit
  | [] => pure ()
  | .mk _ _ _ dflt :: rest => do option line dflt; defaults line rest

/-- Parameters. -/
def paramNames : List Param → Scoping Unit
  | [] => pure ()
  | .mk _ name _ _ :: rest => do parameter name; paramNames rest

/-- The names of the types of parameters. -/
def types (line : Nat) : List Param → Scoping Unit
  | [] => pure ()
  | .mk _ _ type _ :: rest => do option line type; types line rest

end

/-! ## §3. Patterns. -/

mutual

/-- The names of a pattern. -/
def pattern (line : Nat) : Pattern → Scoping Unit
  | .value e => expr line e
  | .singleton _ => pure ()
  | .sequence items => patterns line items
  | .star name => boundIf name
  | .mapping keys items rest => do exprs line keys; patterns line items; boundIf rest
  | .object cls items _ named => do expr line cls; patterns line items; patterns line named
  | .capture none name => boundIf name
  | .capture (some inner) name => do pattern line inner; boundIf name
  | .either choices => patterns line choices

/-- The names of patterns. -/
def patterns (line : Nat) : List Pattern → Scoping Unit
  | [] => pure ()
  | p :: rest => do pattern line p; patterns line rest

end

/-! ## §4. Statements. -/

/-- The names of managers. -/
def withItems (line : Nat) (items : List WithItem) : Scoping Unit :=
  items.forM fun i => do expr line i.manager; option line i.target

/-- A name that an import binds; a star is for the program alone. -/
def boundByImport (line : Nat) (a : Alias) : Scoping Unit := do
  if a.name == "*" then
    if (← get).kind != .program then throw line
  else
    match Mention.ofAlias a with
    | .binds n => learn n fun k => { k with isImported := true }
    | .reads _ => pure ()

/-- A target with a type. -/
def typed (line : Nat) (target : Expr) (simple given : Bool) : Scoping Unit := do
  match target with
  | .name id _ =>
    let k ← facts id
    if simple && (k.isGlobal || k.isOuter) && (← get).kind != .program then throw line
    if simple then learn id fun k => { k with isBound := true, isTyped := true }
    else if given then bound id
  | _ => expr line target

mutual

/-- The names of a statement. -/
def stmt (line : Nat) : Stmt → Scoping Unit
  | .funcDef _ name ps body decorators returns => do
    bound name
    defaults line ps
    types line ps
    option line returns
    exprs line decorators
    inside .function line do
      paramNames ps
      block body
  | .classDef name bases ks body decorators => do
    bound name
    exprs line bases
    keywords line ks
    exprs line decorators
    inside .object line (block body)
  | .ret value => option line value
  | .delete targets => exprs line targets
  | .assign targets value => do exprs line targets; expr line value
  | .augAssign target _ value => do expr line target; expr line value
  | .annAssign target type value simple => do
    typed line target simple value.isSome
    expr line type
    option line value
  | .forLoop _ target iter body orElse => do
    expr line target
    expr line iter
    block body
    block orElse
  | .whileLoop test body orElse | .ifElse test body orElse => do
    expr line test
    block body
    block orElse
  | .withBlock _ items body => do withItems line items; block body
  | .matchCases subject cs => do expr line subject; cases cs
  | .raiseError error cause => do option line error; option line cause
  | .tryBlock body hs orElse final _ => do
    block body
    block orElse
    handlers hs
    block final
  | .assertTrue test message => do expr line test; option line message
  | .importNames names | .importFrom _ names _ => names.forM (boundByImport line)
  | .globalNames names => names.forM (declare line fun k => { k with isGlobal := true })
  | .nonlocalNames names => names.forM (declare line fun k => { k with isOuter := true })
  | .expr value => expr line value
  | .pass | .breakLoop | .continueLoop => pure ()

/-- The names of a block. -/
def block : List Line → Scoping Unit
  | [] => pure ()
  | .mk line s :: rest => do stmt line s; block rest

/-- The names of handlers. -/
def handlers : List Handler → Scoping Unit
  | [] => pure ()
  | .mk type name body line :: rest => do
    option line type
    boundIf name
    block body
    handlers rest

/-- The names of cases. -/
def cases : List Case → Scoping Unit
  | [] => pure ()
  | .mk p guard body line :: rest => do
    pattern line p
    option line guard
    block body
    cases rest

end

end Scoping

/-! ## §5. Names of enclosing functions. -/

/-- The line of the first declaration among some names that no enclosing function supports. -/
def badOuter (bound : Option (List String)) (declared : List (String × Nat)) :
    List (String × NameFacts) → Option Nat
  | [] => none
  | (name, k) :: rest =>
    let missing := match bound with
      | some names => !names.contains name
      | none => true
    if k.isOuter && (k.isGlobal || missing) then some ((declared.lookup name).getD 0)
    else badOuter bound declared rest

mutual

/-- The line of the first bad declaration in a scope; `bound` holds the names of the enclosing
functions, of which the program has none. -/
def Scope.flaw (bound : Option (List String)) : Scope → Option Nat
  | .mk kind _ names declared inner =>
    match badOuter bound declared names with
    | some line => some line
    | none =>
      let global := (names.filter (·.2.isGlobal)).map (·.1)
      let own := (names.filter fun (_, k) =>
        (k.isBound || k.isImported) && !k.isGlobal && !k.isOuter).map (·.1)
      let outer := (bound.getD []).filter fun n => !global.contains n
      let here := match kind with
        | .function | .comprehension => own ++ outer
        | _ => outer
      flaws here inner

/-- The line of the first bad declaration in scopes. -/
def flaws (bound : List String) : List Scope → Option Nat
  | [] => none
  | s :: rest =>
    match s.flaw (some bound) with
    | some line => some line
    | none => flaws bound rest

end

/-- The line of the first declaration that its scope does not allow. -/
def scopeFlaw (t : Tree) : Option Nat :=
  match (Scoping.block t).run { kind := .program, line := 0 } with
  | .error line => some line
  | .ok (_, s) => (Scope.mk s.kind s.line s.names s.declared s.inner).flaw none

end TagTemplate.Script
