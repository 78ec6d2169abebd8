/-
  TagTemplate.Script.Parse.Place
  ────────────────────────────────
  **WHERE AN EXPRESSION STANDS.**

  A report on an expression names the line on which it begins.  Parentheses
  that merely group do not belong to the expression between them, those of a
  tuple or a generator do.  What is wrong with the targets of an assignment
  may be any element of a display, so the elements are found among the tokens
  again (`wrongTarget?`).
-/
import TagTemplate.Script.Parse.Basic

namespace TagTemplate.Script

/-! ## §1. Stretches of tokens. -/

/-- The tokens from one place up to another. -/
structure Span where
  /-- The first token. -/
  start : Nat
  /-- The token behind the last one. -/
  stop : Nat

namespace Source

/-- The token at a place. -/
def token (s : Source) (i : Nat) : Token := s.tokens.getD i default

/-- Whether a token is a given mark. -/
def isMark (s : Source) (i : Nat) (m : String) : Bool :=
  let t := s.token i
  t.kind == .mark && t.text == m

/-- How many brackets are open before a token. -/
def depthBefore (s : Source) (i : Nat) : Nat := if i == 0 then 0 else (s.token (i - 1)).depth

/-- The bracket that closes the one at a place. -/
def closing (s : Source) (i stop : Nat) : Nat :=
  ((List.range' (i + 1) (stop - i - 1)).find? fun j => (s.token j).depth < (s.token i).depth).getD stop

/-- Whether a stretch is what two matching parentheses enclose, together with them. -/
def isEnclosed (s : Source) (p : Span) (opening : String) : Bool :=
  s.isMark p.start opening && s.closing p.start p.stop + 1 == p.stop

/-- What two matching brackets around a stretch enclose. -/
def Span.inside (p : Span) : Span := ⟨p.start + 1, p.stop - 1⟩

/-- A stretch without the parentheses that merely group; those of an expression that has its own
(`owned`) stay. -/
def ungrouped (s : Source) (owned : Bool) : Nat → Span → Span
  | 0, p => p
  | fuel + 1, p =>
    if s.isEnclosed p "(" then
      let q := Span.inside p
      if owned && !s.isEnclosed q "(" then p else ungrouped s owned fuel q
    else p

/-- The stretches between the outermost commas. -/
def pieces (s : Source) (p : Span) : List Span :=
  let depth := s.depthBefore p.start
  let commas := (List.range' p.start (p.stop - p.start)).filter fun i =>
    s.isMark i "," && (s.token i).depth == depth
  (p.start :: commas.map (· + 1)).zipWith Span.mk (commas ++ [p.stop])

end Source

/-! ## §2. Expressions. -/

/-- Whether parentheses may belong to an expression. -/
def Expr.ownsParentheses : Expr → Bool
  | .tuple _ | .comp .generator _ _ _ => true
  | _ => false

namespace Source

/-- The stretch of an expression itself. -/
def proper (s : Source) (e : Expr) (p : Span) : Span :=
  s.ungrouped e.ownsParentheses (p.stop - p.start) p

/-- The line on which an expression begins. -/
def beginning (s : Source) (e : Expr) (p : Span) : Nat := (s.token (s.proper e p).start).line

/-- The first word `in` of a stretch that no bracket of the stretch encloses. -/
def memberWord (s : Source) (p : Span) : Nat :=
  let depth := s.depthBefore p.start
  ((List.range' p.start (p.stop - p.start)).find? fun i =>
    let t := s.token i
    t.kind == .keyword && t.text == "in" && t.depth == depth).getD p.stop

/-- What a target is for. -/
inductive Purpose where
  /-- To be assigned to. -/
  | assign
  /-- To be deleted. -/
  | delete
  /-- To take the elements of a loop. -/
  | loop
  deriving DecidableEq

mutual

/-- The line of the first part of an expression that cannot be a target. -/
def wrongTarget? (s : Source) (purpose : Purpose) (e : Expr) (p : Span) : Option Nat :=
  let p := s.proper e p
  let line := (s.token p.start).line
  match e with
  | .name _ _ | .attribute _ _ | .subscript _ _ => none
  | .list items => wrongTargets? s purpose items (s.pieces (Span.inside p))
  | .tuple items =>
    wrongTargets? s purpose items
      (s.pieces (if s.isEnclosed p "(" then Span.inside p else p))
  | .starred value _ =>
    if purpose == .delete then some line
    else wrongTarget? s purpose value ⟨p.start + 1, p.stop⟩
  | .compare left ops =>
    if purpose == .loop then
      match ops with
      | .mk .member _ :: _ => wrongTarget? s purpose left ⟨p.start, s.memberWord p⟩
      | _ => none
    else some line
  | _ => some line

/-- The line of the first part of several expressions that cannot be a target. -/
def wrongTargets? (s : Source) (purpose : Purpose) (items : List Expr) (ps : List Span) :
    Option Nat :=
  match items with
  | [] => none
  | e :: rest =>
    match wrongTarget? s purpose e (ps.headD ⟨0, 0⟩) with
    | some line => some line
    | none => wrongTargets? s purpose rest ps.tail

end

end Source

namespace Parse

/-- The line on which an expression begins that has been read from a place on. -/
def beginning (start : Nat) (e : Expr) : Parse Nat := fun s c =>
  .ok (s.beginning e ⟨start, c.pos⟩) c

/-- Whether an expression that has been read from a place on begins there, with no parentheses around
it. -/
def isProper (start : Nat) (e : Expr) : Parse Bool := fun s c =>
  .ok ((s.proper e ⟨start, c.pos⟩).start == start) c

/-- The line of what is no target in an expression that has been read from a place on. -/
def wrongTarget (purpose : Source.Purpose) (start : Nat) (e : Expr) : Parse (Option Nat) :=
  fun s c => .ok (s.wrongTarget? purpose e ⟨start, c.pos⟩) c

end Parse

end TagTemplate.Script
