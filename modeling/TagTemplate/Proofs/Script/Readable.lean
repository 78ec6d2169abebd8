/-
  TagTemplate.Proofs.Script.Readable
  ────────────────────────────────
  **TREES THAT A TEXT CAN HAVE.**

  The syntax tree has room for programs that nobody can write.  A pattern
  compares with an expression, looks keys up and names a class, and the tree
  takes any expression there; the grammar takes literals and dotted names.  A
  target with a type is an expression as well; the grammar never leaves a name
  there that is read.  A tree is readable if both hold at every depth:

      case Color.RED:          —   readable, a dotted name
      case f().RED:            —   not readable, though a tree

  Everything else in a tree is as the grammar has it, as far as this goes, so
  that each sort of part is readable if its parts are.

    • `TreeNode.Everywhere` — what holds of a node and of all nodes in it,
    • `TreeNode.IsReadable` — what the grammar admits, everywhere,
    • `TreeNode.readable_ofExpr` — an expression is readable, whatever it is,
    • `readable_object` and its like — patterns and statements.
-/
import TagTemplate.Proofs.Script.Replacement

namespace TagTemplate.Script

namespace TreeNode

/-! ## §1. Everywhere in a node. -/

/-- Something holds of a node and of all nodes inside of it. -/
def Everywhere (P : TreeNode → Prop) (n : TreeNode) : Prop := ∀ path k, n.at? path = some k → P k

section Everywhere

variable {P Q : TreeNode → Prop} {n : TreeNode}

theorem everywhere_ident {id : String} {use : Use} :
    (ident id use).Everywhere P ↔ P (.ident id use) := by
  constructor
  · exact fun h => h [] _ rfl
  · intro h path k hk
    cases path with
    | nil =>
        cases hk
        exact h
    | cons i path => cases hk

theorem everywhere_mk {l : NodeLabel} {ns : List TreeNode} :
    (mk l ns).Everywhere P ↔ P (.mk l ns) ∧ ∀ n ∈ ns, n.Everywhere P := by
  constructor
  · intro h
    refine ⟨h [] _ rfl, fun n hn path k hk => ?_⟩
    obtain ⟨i, hi⟩ := List.getElem?_of_mem hn
    exact h (i :: path) k (at?_cons_eq_some_iff.mpr ⟨n, hi, hk⟩)
  · rintro ⟨hown, hparts⟩ path k hk
    cases path with
    | nil =>
        cases hk
        exact hown
    | cons i path =>
        obtain ⟨n, hi, hk⟩ := at?_cons_eq_some_iff.mp hk
        exact hparts n (List.mem_of_getElem? hi) path k hk

/-- What holds everywhere in a node holds everywhere in its parts that stand in a row. -/
theorem Everywhere.row {l : NodeLabel} {ns ks : List TreeNode} (h : (mk l ns).Everywhere P)
    (hmem : TreeNode.row ks ∈ ns) : ∀ n ∈ ks, n.Everywhere P :=
  (everywhere_mk.mp ((everywhere_mk.mp h).2 _ hmem)).2

theorem at?_append (n : TreeNode) (path rest : List Nat) :
    n.at? (path ++ rest) = (n.at? path).bind fun k => k.at? rest := by
  induction path generalizing n with
  | nil => rfl
  | cons i path ih =>
      rw [List.cons_append, TreeNode.at?, TreeNode.at?, Option.bind_assoc]
      simp only [ih]

/-- What holds everywhere in a node holds everywhere in each node of it. -/
theorem Everywhere.inside {path : List Nat} {k : TreeNode} (h : n.Everywhere P)
    (hk : n.at? path = some k) : k.Everywhere P := by
  intro rest inner hinner
  refine h (path ++ rest) inner ?_
  rw [at?_append, hk]
  exact hinner

/-- A node mentions what a node in it mentions. -/
theorem mentions_inside {path : List Nat} {k : TreeNode} {m : Mention} (hk : n.at? path = some k)
    (hm : m ∈ k.mentions) : m ∈ n.mentions := by
  obtain ⟨rest, inner, hinner, hown⟩ := (mem_mentions_iff k).mp hm
  refine (mem_mentions_iff n).mpr ⟨path ++ rest, inner, ?_, hown⟩
  rw [at?_append, hk]
  exact hinner

theorem Everywhere.mono (h : n.Everywhere P) (hPQ : ∀ k, P k → Q k) : n.Everywhere Q :=
  fun path k hk => hPQ k (h path k hk)

/-- What is put in the place of names that are read turns one property of nodes into another one. -/
structure Turns (f : String → TreeNode) (P Q : TreeNode → Prop) : Prop where
  /-- A name that is not read stays. -/
  ident : ∀ id use, P (.ident id use) → Q (.ident id use)
  /-- Any other node has its parts replaced. -/
  node : ∀ l ns, P (.mk l ns) → Q (.mk l (replaceAll f ns))
  /-- A name that is read goes. -/
  read : ∀ id, P (.ident id .load) → (f id).Everywhere Q

mutual

/-- **What holds everywhere once the names that are read are replaced.** -/
theorem Everywhere.replace {f : String → TreeNode} (hf : Turns f P Q) :
    ∀ n : TreeNode, n.Everywhere P → (n.replace f).Everywhere Q
  | .ident id .load, h => by
      rw [TreeNode.replace]
      exact hf.read id (everywhere_ident.mp h)
  | .ident id .store, h => everywhere_ident.mpr (hf.ident id .store (everywhere_ident.mp h))
  | .ident id .delete, h => everywhere_ident.mpr (hf.ident id .delete (everywhere_ident.mp h))
  | .mk l ns, h => by
      obtain ⟨hown, hparts⟩ := everywhere_mk.mp h
      rw [TreeNode.replace]
      exact everywhere_mk.mpr ⟨hf.node l ns hown, Everywhere.replaceAll hf ns hparts⟩

theorem Everywhere.replaceAll {f : String → TreeNode} (hf : Turns f P Q) :
    ∀ ns : List TreeNode, (∀ n ∈ ns, n.Everywhere P) →
      ∀ n ∈ TreeNode.replaceAll f ns, n.Everywhere Q
  | [], _ => by
      rw [TreeNode.replaceAll]
      exact nofun
  | n :: ns, h => by
      obtain ⟨hn, hns⟩ := List.forall_mem_cons.mp h
      rw [TreeNode.replaceAll]
      exact List.forall_mem_cons.mpr ⟨Everywhere.replace hf n hn, Everywhere.replaceAll hf ns hns⟩

end

end Everywhere

/-! ## §2. What the grammar admits. -/

/-- The name that a dotted name starts with. -/
def root? : TreeNode → Option String
  | .ident id .load => some id
  | .mk (.attribute _) [n] => n.root?
  | _ => none

/-- Whether a node is a literal, by its label: a constant, strings in a row, or numbers with signs. -/
def isLiteral : TreeNode → Bool
  | .mk (.constant _) _ | .mk .joined _ | .mk (.unary _) _ | .mk (.binary _) _ => true
  | _ => false

/-- A literal or a dotted name. -/
def IsFixed (n : TreeNode) : Prop := n.isLiteral = true ∨ n.root?.isSome = true

/-- The parts of a pattern that are expressions: what it compares with, the keys that it looks up, the
class that it asks for. -/
def fixedParts : TreeNode → List TreeNode
  | .mk .valuePattern ns => ns
  | .mk (.mappingPattern _) (.mk .group keys :: _) => keys
  | .mk (.objectPattern _) (cls :: _) => [cls]
  | _ => []

/-- The target that is given a type. -/
def typedTarget? : TreeNode → Option TreeNode
  | .mk (.annAssign _) (target :: _) => some target
  | _ => none

/-- No name that is read is given a type. -/
def StoresTyped (n : TreeNode) : Prop := ∀ id, n.typedTarget? ≠ some (.ident id .load)

/-- What the grammar says about a node beyond its label and the number of its parts. -/
structure Admitted (n : TreeNode) : Prop where
  /-- The expressions of a pattern are literals and dotted names. -/
  fixed : ∀ k ∈ n.fixedParts, k.IsFixed
  /-- A target with a type is written to. -/
  typed : n.StoresTyped

/-- A node that is replaced by a name that is read was such a name. -/
theorem exists_read_of_replace {f : String → TreeNode} {n : TreeNode} {id : String}
    (h : n.replace f = .ident id .load) : ∃ id', n = .ident id' .load := by
  cases n with
  | ident id' use => cases use <;> simp at h ⊢
  | mk l ns => simp at h

/-- Targets with a type stay targets when the names that are read are replaced. -/
theorem typed_replace {f : String → TreeNode} {l : NodeLabel} {ns : List TreeNode}
    (h : (mk l ns).StoresTyped) : (mk l (replaceAll f ns)).StoresTyped := by
  intro id ht
  rw [replaceAll_eq_map] at ht
  cases l with
  | annAssign simple =>
      cases ns with
      | nil => cases ht
      | cons target ns =>
          obtain ⟨id', rfl⟩ := exists_read_of_replace (Option.some.inj ht)
          exact h id' rfl
  | _ => cases ht

/-- The grammar admits a node and all nodes inside of it. -/
def IsReadable (n : TreeNode) : Prop := n.Everywhere Admitted

end TreeNode

/-- Whether the grammar says nothing more about nodes with a label. -/
def NodeLabel.isPlain : NodeLabel → Bool
  | .valuePattern | .mappingPattern _ | .objectPattern _ | .annAssign _ => false
  | _ => true

namespace TreeNode

section Plain

variable {l : NodeLabel} (hl : l.isPlain = true) (ns : List TreeNode)
include hl

theorem fixedParts_plain : (mk l ns).fixedParts = [] := by
  cases l <;> first | rfl | cases hl

theorem typedTarget?_plain : (mk l ns).typedTarget? = none := by
  cases l <;> first | rfl | cases hl

theorem admitted_plain : Admitted (.mk l ns) :=
  ⟨by simp [fixedParts_plain hl], by simp [StoresTyped, typedTarget?_plain hl]⟩

end Plain

section Parts

variable {l : NodeLabel} {ns : List TreeNode} {a b c d : TreeNode}

theorem readable_mk (hl : l.isPlain = true) (h : ∀ n ∈ ns, n.IsReadable) : (mk l ns).IsReadable :=
  everywhere_mk.mpr ⟨admitted_plain hl ns, h⟩

theorem readable_ident (id : String) (use : Use) : (ident id use).IsReadable :=
  everywhere_ident.mpr ⟨nofun, nofun⟩

theorem readable_row (h : ∀ n ∈ ns, n.IsReadable) : (row ns).IsReadable := readable_mk rfl h

theorem readable_leaf (hl : l.isPlain = true) : (mk l []).IsReadable := readable_mk hl nofun

theorem readable_nothing : nothing.IsReadable := readable_leaf rfl

theorem readable_one (hl : l.isPlain = true) (ha : a.IsReadable) : (mk l [a]).IsReadable :=
  readable_mk hl (List.forall_mem_singleton.mpr ha)

theorem readable_two (hl : l.isPlain = true) (ha : a.IsReadable) (hb : b.IsReadable) :
    (mk l [a, b]).IsReadable :=
  readable_mk hl (List.forall_mem_cons.mpr ⟨ha, List.forall_mem_singleton.mpr hb⟩)

theorem readable_three (hl : l.isPlain = true) (ha : a.IsReadable) (hb : b.IsReadable)
    (hc : c.IsReadable) : (mk l [a, b, c]).IsReadable :=
  readable_mk hl (List.forall_mem_cons.mpr ⟨ha, List.forall_mem_cons.mpr
    ⟨hb, List.forall_mem_singleton.mpr hc⟩⟩)

theorem readable_four (hl : l.isPlain = true) (ha : a.IsReadable) (hb : b.IsReadable)
    (hc : c.IsReadable) (hd : d.IsReadable) : (mk l [a, b, c, d]).IsReadable :=
  readable_mk hl (List.forall_mem_cons.mpr ⟨ha, List.forall_mem_cons.mpr
    ⟨hb, List.forall_mem_cons.mpr ⟨hc, List.forall_mem_singleton.mpr hd⟩⟩⟩)

/-- A pattern with expressions in it. -/
theorem readable_fixed (htyped : (mk l ns).typedTarget? = none)
    (hfixed : ∀ k ∈ (mk l ns).fixedParts, k.IsFixed) (h : ∀ n ∈ ns, n.IsReadable) :
    (mk l ns).IsReadable :=
  everywhere_mk.mpr ⟨⟨hfixed, fun _ ht => nomatch htyped.symm.trans ht⟩, h⟩

end Parts

/-! ## §3. Expressions. -/

mutual

/-- **An expression is readable**: it has neither patterns nor statements in it. -/
theorem readable_ofExpr : ∀ e : Expr, (ofExpr e).IsReadable
  | .boolOp _ values => readable_mk rfl (readable_ofExprs values)
  | .named target value => readable_two rfl (readable_ident target .store) (readable_ofExpr value)
  | .binary _ left right => readable_two rfl (readable_ofExpr left) (readable_ofExpr right)
  | .unary _ operand => readable_one rfl (readable_ofExpr operand)
  | .lambda ps body => readable_two rfl (readable_row (readable_ofParams ps)) (readable_ofExpr body)
  | .ifElse test body orElse =>
      readable_three rfl (readable_ofExpr test) (readable_ofExpr body) (readable_ofExpr orElse)
  | .dict es => readable_mk rfl (readable_ofEntries es)
  | .set items | .list items | .tuple items => readable_mk rfl (readable_ofExprs items)
  | .comp _ item cs _ =>
      readable_two rfl (readable_ofExpr item) (readable_row (readable_ofClauses cs))
  | .dictComp key value cs _ =>
      readable_three rfl (readable_ofExpr key) (readable_ofExpr value)
        (readable_row (readable_ofClauses cs))
  | .await value _ | .yieldFrom value _ | .attribute value _ | .starred value _ =>
      readable_one rfl (readable_ofExpr value)
  | .yield value _ => readable_one rfl (readable_ofOption value)
  | .compare left rest =>
      readable_two rfl (readable_ofExpr left) (readable_row (readable_ofComparisons rest))
  | .call func args ks =>
      readable_three rfl (readable_ofExpr func) (readable_row (readable_ofExprs args))
        (readable_row (readable_ofKeywords ks))
  | .joined pieces => readable_mk rfl (readable_ofExprs pieces)
  | .formatted value _ none => readable_two rfl (readable_ofExpr value) readable_nothing
  | .formatted value _ (some spec) =>
      readable_two rfl (readable_ofExpr value) (readable_row (readable_ofExprs spec))
  | .constant _ => readable_leaf rfl
  | .subscript value index => readable_two rfl (readable_ofExpr value) (readable_ofExpr index)
  | .name id use => readable_ident id use
  | .slice lower upper step =>
      readable_three rfl (readable_ofOption lower) (readable_ofOption upper) (readable_ofOption step)

theorem readable_ofOption : ∀ e : Option Expr, (ofOption e).IsReadable
  | none => readable_nothing
  | some e => readable_ofExpr e

theorem readable_ofExprs : ∀ es : List Expr, ∀ n ∈ ofExprs es, n.IsReadable
  | [] => nofun
  | e :: es => List.forall_mem_cons.mpr ⟨readable_ofExpr e, readable_ofExprs es⟩

theorem readable_ofEntries : ∀ es : List Entry, ∀ n ∈ ofEntries es, n.IsReadable
  | [] => nofun
  | .item key value :: es => List.forall_mem_cons.mpr
      ⟨readable_two rfl (readable_ofExpr key) (readable_ofExpr value), readable_ofEntries es⟩
  | .spread value :: es => List.forall_mem_cons.mpr
      ⟨readable_one rfl (readable_ofExpr value), readable_ofEntries es⟩

theorem readable_ofComparisons : ∀ cs : List Comparison, ∀ n ∈ ofComparisons cs, n.IsReadable
  | [] => nofun
  | .mk _ right :: cs => List.forall_mem_cons.mpr
      ⟨readable_one rfl (readable_ofExpr right), readable_ofComparisons cs⟩

theorem readable_ofKeywords : ∀ ks : List Keyword, ∀ n ∈ ofKeywords ks, n.IsReadable
  | [] => nofun
  | .mk _ value _ :: ks => List.forall_mem_cons.mpr
      ⟨readable_one rfl (readable_ofExpr value), readable_ofKeywords ks⟩

theorem readable_ofClauses : ∀ cs : List Clause, ∀ n ∈ ofClauses cs, n.IsReadable
  | [] => nofun
  | .mk _ target iter conditions :: cs => List.forall_mem_cons.mpr
      ⟨readable_three rfl (readable_ofExpr target) (readable_ofExpr iter)
        (readable_row (readable_ofExprs conditions)), readable_ofClauses cs⟩

theorem readable_ofParams : ∀ ps : List Param, ∀ n ∈ ofParams ps, n.IsReadable
  | [] => nofun
  | .mk _ _ type dflt :: ps => List.forall_mem_cons.mpr
      ⟨readable_two rfl (readable_ofOption type) (readable_ofOption dflt), readable_ofParams ps⟩

end

theorem ofExprs_eq_map (es : List Expr) : ofExprs es = es.map ofExpr := by
  induction es with
  | nil => rfl
  | cons e es ih => rw [ofExprs, ih, List.map_cons]

/-- What stands for a name is that name. -/
theorem ofExpr_eq_ident {e : Expr} {id : String} {use : Use} (h : ofExpr e = .ident id use) :
    e = .name id use := by
  rw [← toExpr_ofExpr e, h]
  rfl

end TreeNode

open TreeNode

/-! ## §4. Patterns. -/

/-- The grammar admits a pattern, at every depth. -/
def Pattern.IsReadable (p : Pattern) : Prop := (ofPattern p).IsReadable

section Patterns

variable {e : Expr} {p : Pattern} {ps qs : List Pattern}

theorem readable_ofPatterns : ∀ {ps : List Pattern}, (∀ p ∈ ps, p.IsReadable) →
    ∀ n ∈ ofPatterns ps, n.IsReadable
  | [], _ => nofun
  | _ :: _, h => List.forall_mem_cons.mpr
      ⟨h _ List.mem_cons_self, readable_ofPatterns fun p hp => h p (List.mem_cons_of_mem _ hp)⟩

theorem readable_value (h : (ofExpr e).IsFixed) : (Pattern.value e).IsReadable :=
  readable_fixed rfl (List.forall_mem_singleton.mpr h)
    (List.forall_mem_singleton.mpr (readable_ofExpr e))

theorem readable_singleton (c : Constant) : (Pattern.singleton c).IsReadable := readable_leaf rfl

theorem readable_sequence (h : ∀ p ∈ ps, p.IsReadable) : (Pattern.sequence ps).IsReadable :=
  readable_mk rfl (readable_ofPatterns h)

theorem readable_star (name : Option String) : (Pattern.star name).IsReadable := readable_leaf rfl

theorem readable_mapping {keys : List Expr} (hkeys : ∀ e ∈ keys, (ofExpr e).IsFixed)
    (h : ∀ p ∈ ps, p.IsReadable) (rest : Option String) :
    (Pattern.mapping keys ps rest).IsReadable := by
  refine readable_fixed rfl ?_ (List.forall_mem_cons.mpr ⟨readable_row (readable_ofExprs keys),
    List.forall_mem_singleton.mpr (readable_row (readable_ofPatterns h))⟩)
  show ∀ k ∈ ofExprs keys, k.IsFixed
  rw [ofExprs_eq_map]
  exact List.forall_mem_map.mpr hkeys

theorem readable_object (hcls : (ofExpr e).root?.isSome = true) (hps : ∀ p ∈ ps, p.IsReadable)
    (hqs : ∀ p ∈ qs, p.IsReadable) (names : List String) :
    (Pattern.object e ps names qs).IsReadable :=
  readable_fixed rfl (List.forall_mem_singleton.mpr (.inr hcls)) (List.forall_mem_cons.mpr
    ⟨readable_ofExpr e, List.forall_mem_cons.mpr ⟨readable_row (readable_ofPatterns hps),
      List.forall_mem_singleton.mpr (readable_row (readable_ofPatterns hqs))⟩⟩)

theorem readable_capture (name : Option String) : (Pattern.capture none name).IsReadable :=
  readable_one rfl readable_nothing

theorem readable_captured (h : p.IsReadable) (name : Option String) :
    (Pattern.capture (some p) name).IsReadable :=
  readable_one rfl h

theorem readable_either (h : ∀ p ∈ ps, p.IsReadable) : (Pattern.either ps).IsReadable :=
  readable_mk rfl (readable_ofPatterns h)

end Patterns

/-! ## §5. Statements. -/

/-- The grammar admits a statement, at every depth. -/
def Stmt.IsReadable (s : Stmt) : Prop := (ofStmt s).IsReadable

/-- The grammar admits the statements of a block. -/
def ReadableBlock (b : List Line) : Prop := ∀ n ∈ ofBlock b, n.IsReadable

/-- The grammar admits a handler. -/
def Handler.IsReadable (h : Handler) : Prop := ∀ n ∈ ofHandlers [h], n.IsReadable

/-- The grammar admits a case. -/
def Case.IsReadable (c : Case) : Prop := ∀ n ∈ ofCases [c], n.IsReadable

section Blocks

variable {s : Stmt} {a b body orElse final : List Line} {p : Pattern} {hs : List Handler}
  {cs : List Case}

theorem readableBlock_nil : ReadableBlock [] := nofun

theorem readableBlock_append (ha : ReadableBlock a) (hb : ReadableBlock b) :
    ReadableBlock (a ++ b) := by
  induction a with
  | nil => exact hb
  | cons l ls ih =>
      obtain ⟨n, s⟩ := l
      obtain ⟨hl, hls⟩ := List.forall_mem_cons.mp ha
      exact List.forall_mem_cons.mpr ⟨hl, ih hls⟩

theorem readableBlock_flatten {bs : List (List Line)} (h : ∀ b ∈ bs, ReadableBlock b) :
    ReadableBlock bs.flatten := by
  induction bs with
  | nil => exact readableBlock_nil
  | cons b bs ih =>
      rw [List.flatten_cons]
      exact readableBlock_append (h b List.mem_cons_self)
        (ih fun c hc => h c (List.mem_cons_of_mem _ hc))

theorem readable_line (h : s.IsReadable) (line : Nat) : ReadableBlock [.mk line s] :=
  List.forall_mem_singleton.mpr (readable_one rfl h)

/-- Lines are readable one by one. -/
theorem readable_lines {ls : List Line} (h : ∀ l ∈ ls, ReadableBlock [l]) : ReadableBlock ls := by
  induction ls with
  | nil => exact readableBlock_nil
  | cons l ls ih =>
      exact readableBlock_append (h l List.mem_cons_self)
        (ih fun l hl => h l (List.mem_cons_of_mem _ hl))

theorem readable_handler (hbody : ReadableBlock body) (type : Option Expr) (name : Option String)
    (line : Nat) : (Handler.mk type name body line).IsReadable :=
  List.forall_mem_singleton.mpr (readable_two rfl (readable_ofOption type) (readable_row hbody))

theorem readable_handlers (h : ∀ a ∈ hs, a.IsReadable) : ∀ n ∈ ofHandlers hs, n.IsReadable := by
  induction hs with
  | nil => exact nofun
  | cons a hs ih =>
      obtain ⟨type, name, body, line⟩ := a
      exact List.forall_mem_cons.mpr ⟨h _ List.mem_cons_self _ List.mem_cons_self,
        ih fun a ha => h a (List.mem_cons_of_mem _ ha)⟩

theorem readable_case (hp : p.IsReadable) (hbody : ReadableBlock body) (guard : Option Expr)
    (line : Nat) : (Case.mk p guard body line).IsReadable :=
  List.forall_mem_singleton.mpr
    (readable_three rfl hp (readable_ofOption guard) (readable_row hbody))

theorem readable_cases (h : ∀ c ∈ cs, c.IsReadable) : ∀ n ∈ ofCases cs, n.IsReadable := by
  induction cs with
  | nil => exact nofun
  | cons c cs ih =>
      obtain ⟨p, guard, body, line⟩ := c
      exact List.forall_mem_cons.mpr ⟨h _ List.mem_cons_self _ List.mem_cons_self,
        ih fun c hc => h c (List.mem_cons_of_mem _ hc)⟩

theorem readable_annAssign {target : Expr} (h : ∀ id, target ≠ .name id .load) (type : Expr)
    (value : Option Expr) (simple : Bool) : (Stmt.annAssign target type value simple).IsReadable :=
  everywhere_mk.mpr ⟨⟨nofun, fun id ht => h id (ofExpr_eq_ident (Option.some.inj ht))⟩,
    List.forall_mem_cons.mpr ⟨readable_ofExpr target, List.forall_mem_cons.mpr
      ⟨readable_ofExpr type, List.forall_mem_singleton.mpr (readable_ofOption value)⟩⟩⟩

theorem readable_expr (e : Expr) : (Stmt.expr e).IsReadable := readable_one rfl (readable_ofExpr e)

theorem readable_assign (targets : List Expr) (value : Expr) :
    (Stmt.assign targets value).IsReadable :=
  readable_two rfl (readable_row (readable_ofExprs targets)) (readable_ofExpr value)

theorem readable_ofAliases (names : List Alias) : ∀ n ∈ ofAliases names, n.IsReadable :=
  List.forall_mem_map.mpr fun _ _ => readable_leaf rfl

theorem readable_importFrom (source : Option String) (names : List Alias) (level : Nat) :
    (Stmt.importFrom source names level).IsReadable :=
  readable_mk rfl (readable_ofAliases names)

theorem readable_ifElse (test : Expr) (hbody : ReadableBlock body) (horElse : ReadableBlock orElse) :
    (Stmt.ifElse test body orElse).IsReadable :=
  readable_three rfl (readable_ofExpr test) (readable_row hbody) (readable_row horElse)

theorem readable_tryBlock (hbody : ReadableBlock body) (hhs : ∀ a ∈ hs, a.IsReadable)
    (horElse : ReadableBlock orElse) (hfinal : ReadableBlock final) (groups : Bool) :
    (Stmt.tryBlock body hs orElse final groups).IsReadable :=
  readable_four rfl (readable_row hbody) (readable_row (readable_handlers hhs))
    (readable_row horElse) (readable_row hfinal)

end Blocks

end TagTemplate.Script
