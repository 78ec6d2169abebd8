/-
  TagTemplate.Script.Tree
  ────────────────────────────────
  **THE SYNTAX TREE OF THE SCRIPT LANGUAGE.**

  The bodies of tags, and the render functions made of them, are written in
  an indented script language.  This is its abstract syntax: what the parser
  yields, what the printer writes, what the binding of free names walks
  over, and what the evaluator runs.

  A name carries how it is used (`Use`), so that binding and reading are told
  apart without knowing the surroundings.  Line numbers are kept only where a
  later check has to report them; two trees that differ in lines alone print
  alike.
-/

namespace TagTemplate.Script

/-! ## §1. Leaves. -/

/-- How a name, or a place, is used. -/
inductive Use where
  /-- It is read. -/
  | load
  /-- It is bound. -/
  | store
  /-- It is unbound. -/
  | delete
  deriving DecidableEq, Repr

/-- A literal value. -/
inductive Constant where
  /-- The absent value. -/
  | none
  /-- A truth value. -/
  | bool (b : Bool)
  /-- Three dots. -/
  | ellipsis
  /-- A whole number. -/
  | int (n : Nat)
  /-- A number with a fraction, an exponent or an imaginary part, as it was written. -/
  | decimal (text : String)
  /-- A text; `marked` if it was written with a `u` before the quote. -/
  | str (s : String) (marked : Bool)
  /-- A sequence of bytes. -/
  | bytes (bs : List Nat)
  deriving DecidableEq, Repr, Inhabited

/-- `and` and `or`. -/
inductive BoolOp where
  /-- All. -/
  | conj
  /-- Some. -/
  | disj
  deriving DecidableEq, Repr

/-- An operator between two operands. -/
inductive BinaryOp where
  /-- Sum. -/
  | add
  /-- Difference. -/
  | sub
  /-- Product. -/
  | mul
  /-- Matrix product. -/
  | matMul
  /-- Quotient. -/
  | div
  /-- Remainder. -/
  | mod
  /-- Power. -/
  | pow
  /-- Shift to the left. -/
  | shiftLeft
  /-- Shift to the right. -/
  | shiftRight
  /-- Bitwise or. -/
  | bitOr
  /-- Bitwise exclusive or. -/
  | bitXor
  /-- Bitwise and. -/
  | bitAnd
  /-- Quotient rounded down. -/
  | floorDiv
  deriving DecidableEq, Repr

/-- An operator before its operand. -/
inductive UnaryOp where
  /-- Bitwise complement. -/
  | invert
  /-- Negation of a truth value. -/
  | not
  /-- The same number. -/
  | plus
  /-- The opposite number. -/
  | minus
  deriving DecidableEq, Repr

/-- A comparison. -/
inductive CompareOp where
  /-- Equal. -/
  | eq
  /-- Not equal. -/
  | ne
  /-- Less. -/
  | lt
  /-- Less or equal. -/
  | le
  /-- Greater. -/
  | gt
  /-- Greater or equal. -/
  | ge
  /-- The same object. -/
  | same
  /-- Another object. -/
  | notSame
  /-- A member. -/
  | member
  /-- Not a member. -/
  | notMember
  deriving DecidableEq, Repr

/-- The brackets of a comprehension with one result per element. -/
inductive CompKind where
  /-- A list. -/
  | list
  /-- A set. -/
  | set
  /-- A generator. -/
  | generator
  deriving DecidableEq, Repr

/-- Where a parameter stands. -/
inductive ParamKind where
  /-- Before the slash: by position alone. -/
  | positional
  /-- By position or by name. -/
  | ordinary
  /-- Takes the rest of the positional arguments. -/
  | gather
  /-- Behind the star: by name alone. -/
  | named
  /-- Takes the rest of the named arguments. -/
  | gatherNamed
  deriving DecidableEq, Repr

/-- A name that an import brings, and the name it is bound to. -/
structure Alias where
  /-- The name of the module or of its member. -/
  name : String
  /-- The name behind `as`. -/
  binder : Option String := none
  deriving DecidableEq, Repr, Inhabited

/-! ## §2. Expressions. -/

mutual

/-- An expression. -/
inductive Expr where
  /-- Operands between `and` or between `or`. -/
  | boolOp (op : BoolOp) (values : List Expr)
  /-- An expression that binds its value to a name. -/
  | named (target : String) (value : Expr)
  /-- An operator between two operands. -/
  | binary (op : BinaryOp) (left right : Expr)
  /-- An operator before its operand. -/
  | unary (op : UnaryOp) (operand : Expr)
  /-- A function without a name. -/
  | lambda (params : List Param) (body : Expr)
  /-- A choice. -/
  | ifElse (test body orElse : Expr)
  /-- A mapping. -/
  | dict (entries : List Entry)
  /-- A set. -/
  | set (items : List Expr)
  /-- A comprehension. -/
  | comp (kind : CompKind) (item : Expr) (clauses : List Clause) (line : Nat)
  /-- A comprehension of a mapping. -/
  | dictComp (key value : Expr) (clauses : List Clause) (line : Nat)
  /-- Wait for a value. -/
  | await (value : Expr) (line : Nat)
  /-- Hand a value out. -/
  | yield (value : Option Expr) (line : Nat)
  /-- Hand the values of another source out. -/
  | yieldFrom (value : Expr) (line : Nat)
  /-- A chain of comparisons. -/
  | compare (left : Expr) (rest : List Comparison)
  /-- A call. -/
  | call (func : Expr) (args : List Expr) (keywords : List Keyword)
  /-- A text with values in it. -/
  | joined (pieces : List Expr)
  /-- A value inside such a text. -/
  | formatted (value : Expr) (conversion : Option Char) (spec : Option (List Expr))
  /-- A literal value. -/
  | constant (value : Constant)
  /-- A member of a value. -/
  | attribute (value : Expr) (name : String)
  /-- An element of a value. -/
  | subscript (value index : Expr)
  /-- The elements of a value, in place. -/
  | starred (value : Expr) (line : Nat)
  /-- A name. -/
  | name (id : String) (use : Use)
  /-- A list. -/
  | list (items : List Expr)
  /-- A tuple. -/
  | tuple (items : List Expr)
  /-- A range of positions. -/
  | slice (lower upper step : Option Expr)

/-- An entry of a mapping. -/
inductive Entry where
  /-- A key with its value. -/
  | item (key value : Expr)
  /-- The entries of another mapping. -/
  | spread (value : Expr)

/-- One step of a chain of comparisons. -/
inductive Comparison where
  /-- An operator and what stands behind it. -/
  | mk (op : CompareOp) (right : Expr)

/-- A named argument; without a name it is a mapping of them. -/
inductive Keyword where
  /-- The argument, with its line. -/
  | mk (name : Option String) (value : Expr) (line : Nat)

/-- A clause of a comprehension. -/
inductive Clause where
  /-- A target, what it runs over, and the conditions. -/
  | mk (isAsync : Bool) (target iter : Expr) (conditions : List Expr)

/-- A parameter. -/
inductive Param where
  /-- A parameter with its type and its default value. -/
  | mk (kind : ParamKind) (name : String) (type dflt : Option Expr)

end

instance : Inhabited Expr := ⟨.constant .none⟩
instance : Inhabited Param := ⟨.mk .ordinary "" none none⟩
instance : Inhabited Keyword := ⟨.mk none default 0⟩
instance : Inhabited Clause := ⟨.mk false default default []⟩
instance : Inhabited Entry := ⟨.spread default⟩
instance : Inhabited Comparison := ⟨.mk .eq default⟩

/-! ## §3. Patterns. -/

/-- A pattern of a `case`. -/
inductive Pattern where
  /-- Equal to the value of an expression. -/
  | value (e : Expr)
  /-- One of the three constants that are compared by identity. -/
  | singleton (value : Constant)
  /-- A sequence. -/
  | sequence (items : List Pattern)
  /-- The rest of a sequence. -/
  | star (name : Option String)
  /-- A mapping that has certain keys. -/
  | mapping (keys : List Expr) (items : List Pattern) (rest : Option String)
  /-- An object of a class, with positional and named parts. -/
  | object (cls : Expr) (items : List Pattern) (names : List String) (named : List Pattern)
  /-- Bind a name, to whatever matches the inner pattern; neither means anything at all. -/
  | capture (inner : Option Pattern) (name : Option String)
  /-- One of several patterns. -/
  | either (choices : List Pattern)

instance : Inhabited Pattern := ⟨.capture none none⟩

/-! ## §4. Statements. -/

/-- One manager of a `with`. -/
structure WithItem where
  /-- The manager. -/
  manager : Expr
  /-- What its value is bound to. -/
  target : Option Expr

mutual

/-- A statement. -/
inductive Stmt where
  /-- Define a function. -/
  | funcDef (isAsync : Bool) (name : String) (params : List Param) (body : List Line)
      (decorators : List Expr) (returns : Option Expr)
  /-- Define a class. -/
  | classDef (name : String) (bases : List Expr) (keywords : List Keyword) (body : List Line)
      (decorators : List Expr)
  /-- Leave the function. -/
  | ret (value : Option Expr)
  /-- Unbind. -/
  | delete (targets : List Expr)
  /-- Bind a value to every target. -/
  | assign (targets : List Expr) (value : Expr)
  /-- Bind the result of an operator to its left operand. -/
  | augAssign (target : Expr) (op : BinaryOp) (value : Expr)
  /-- Give a target a type and perhaps a value; `simple` if it is a bare name. -/
  | annAssign (target type : Expr) (value : Option Expr) (simple : Bool)
  /-- Run over the elements of a value. -/
  | forLoop (isAsync : Bool) (target iter : Expr) (body orElse : List Line)
  /-- Run while a condition holds. -/
  | whileLoop (test : Expr) (body orElse : List Line)
  /-- Choose. -/
  | ifElse (test : Expr) (body orElse : List Line)
  /-- Run under managers. -/
  | withBlock (isAsync : Bool) (items : List WithItem) (body : List Line)
  /-- Choose by pattern. -/
  | matchCases (subject : Expr) (cases : List Case)
  /-- Raise an error. -/
  | raiseError (error cause : Option Expr)
  /-- Guard a block; `groups` if the handlers take groups of errors. -/
  | tryBlock (body : List Line) (handlers : List Handler) (orElse final : List Line) (groups : Bool)
  /-- Check a condition. -/
  | assertTrue (test : Expr) (message : Option Expr)
  /-- Import modules. -/
  | importNames (names : List Alias)
  /-- Import members of a module. -/
  | importFrom (module : Option String) (names : List Alias) (level : Nat)
  /-- Declare global names. -/
  | globalNames (names : List String)
  /-- Declare names of the enclosing function. -/
  | nonlocalNames (names : List String)
  /-- Evaluate. -/
  | expr (value : Expr)
  /-- Do nothing. -/
  | pass
  /-- Leave the loop. -/
  | breakLoop
  /-- Go on with the next element. -/
  | continueLoop

/-- A statement on its line. -/
inductive Line where
  /-- The number of the line and the statement. -/
  | mk (number : Nat) (stmt : Stmt)

/-- A handler of errors. -/
inductive Handler where
  /-- The class of errors, the name they are bound to, and the block. -/
  | mk (type : Option Expr) (name : Option String) (body : List Line) (line : Nat)

/-- A case. -/
inductive Case where
  /-- The pattern, a further condition, and the block. -/
  | mk (pattern : Pattern) (guard : Option Expr) (body : List Line) (line : Nat)

end

instance : Inhabited Stmt := ⟨.pass⟩
instance : Inhabited Line := ⟨.mk 0 .pass⟩
instance : Inhabited Handler := ⟨.mk none none [] 0⟩
instance : Inhabited Case := ⟨.mk default none [] 0⟩

/-- A whole text of code. -/
abbrev Tree := List Line

end TagTemplate.Script
