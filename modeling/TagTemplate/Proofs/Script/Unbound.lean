/-
  TagTemplate.Proofs.Script.Unbound
  ────────────────────────────────
  **A NAME THAT IS BOUND NOWHERE BELONGS TO NO SCOPE.**

  Whether a program binds a name is known without its scopes: it does if it
  mentions the name as bound somewhere.  Going through the program, no scope
  then learns that it owns the name, neither those of its functions nor those
  of its comprehensions, at any depth.

    • `OpenScope.Lacks` — a scope that does not own a name, so far,
    • `Scoping.Avoids` — a part of a program after which that is still so,
    • `Scoping.stmt_avoids` and its like — a part that does not bind the name,
    • `namesOf_lacks`, `Opens.lack` — what follows for functions and
      comprehensions.
-/
import TagTemplate.Machine.Variable
import TagTemplate.Proofs.Script.Scopes
import TagTemplate.Proofs.Script.Readable

namespace TagTemplate.Script

/-! ## §1. Scopes that lack a name. -/

/-- A scope binds a name, imports it, or declares it global. -/
def NameFacts.isClaimed (k : NameFacts) : Bool := k.isBound || k.isImported || k.isGlobal

/-- A scope makes no claim to a name, and no comprehension in it hands the name out. -/
structure OpenScope.Lacks (s : OpenScope) (name : String) : Prop where
  /-- What the scope knows of the name. -/
  facts : ∀ k, (name, k) ∈ s.names → k.isClaimed = false
  /-- What is handed out. -/
  carried : name ∉ s.carried

theorem OpenScope.Lacks.fresh {name : String} (kind : ScopeKind) (line : Nat) :
    ({ kind, line } : OpenScope).Lacks name :=
  ⟨fun _ h => absurd h List.not_mem_nil, List.not_mem_nil⟩

namespace Scoping

variable {α β : Type} {name : String}

/-- After a part of a program, a scope that lacked a name still lacks it. -/
def Avoids (name : String) (x : Scoping α) : Prop :=
  ∀ (s : OpenScope) (a : α) (s' : OpenScope), s.Lacks name → x.run s = .ok (a, s') → s'.Lacks name

namespace Avoids

theorem pure (a : α) : Avoids name (pure a : Scoping α) := by
  intro s b s' hs hrun
  cases hrun
  exact hs

theorem bind {x : Scoping α} {f : α → Scoping β} (hx : Avoids name x)
    (hf : ∀ a, Avoids name (f a)) : Avoids name (x >>= f) := by
  intro s b s' hs hrun
  rw [StateT.run_bind] at hrun
  cases hstep : x.run s with
  | error line =>
      rw [hstep] at hrun
      cases hrun
  | ok r =>
      rw [hstep] at hrun
      exact hf r.1 r.2 b s' (hx s r.1 r.2 hs hstep) hrun

/-- One part after another. -/
theorem after {x : Scoping Unit} {y : Scoping β} (hx : Avoids name x) (hy : Avoids name y) :
    Avoids name (do x; y) :=
  hx.bind fun _ => hy

theorem get : Avoids name (get : Scoping OpenScope) := by
  intro s b s' hs hrun
  cases hrun
  exact hs

theorem throw (line : Nat) : Avoids name (throw line : Scoping α) := nofun

theorem modify {f : OpenScope → OpenScope} (hf : ∀ s, s.Lacks name → (f s).Lacks name) :
    Avoids name (modify f : Scoping Unit) := by
  intro s b s' hs hrun
  cases hrun
  exact hf s hs

theorem forM {f : α → Scoping Unit} : ∀ {l : List α}, (∀ a ∈ l, Avoids name (f a)) →
    Avoids name (l.forM f)
  | [], _ => .pure ()
  | _ :: _, h => .after (h _ List.mem_cons_self) (forM fun a ha => h a (List.mem_cons_of_mem _ ha))

/-- One part after another that may be left out. -/
theorem perhaps {c : Prop} [Decidable c] {x : Scoping Unit} {f : Unit → Scoping β}
    (hx : Avoids name x) (hf : Avoids name (f ())) : Avoids name (if c then x >>= f else f ()) := by
  split
  · exact hx.bind fun _ => hf
  · exact hf

/-- A check comes first. -/
theorem guarded {c : Prop} [Decidable c] {line : Nat} {x : Scoping α} (hx : Avoids name x) :
    Avoids name (if c then MonadExcept.throw line else x) := by
  split
  · exact .throw line
  · exact hx

end Avoids

/-! ## §2. What a scope learns. -/

theorem mem_learned {other : String} {f : NameFacts → NameFacts} {names : List (String × NameFacts)}
    {k : NameFacts} (h : (name, k) ∈ learned other f names) :
    (name, k) ∈ names ∨ other = name ∧ ∃ k', (k' = {} ∨ (name, k') ∈ names) ∧ k = f k' := by
  unfold learned at h
  split at h
  · obtain ⟨⟨n, k'⟩, hmem, heq⟩ := List.mem_map.mp h
    dsimp only at heq
    split at heq
    next hn =>
      cases heq
      exact .inr ⟨(beq_iff_eq.mp hn).symm, k', .inr hmem, rfl⟩
    next =>
      cases heq
      exact .inl hmem
  · rcases List.mem_append.mp h with h | h
    · exact .inl h
    · cases List.mem_singleton.mp h
      exact .inr ⟨rfl, {}, .inl rfl, rfl⟩

section Learning

variable {other : String}

/-- Learning about another name claims nothing, and neither does learning that a name is read. -/
theorem learn_avoids {f : NameFacts → NameFacts}
    (h : other = name → ∀ k, k.isClaimed = false → (f k).isClaimed = false) :
    Avoids name (learn other f) := by
  intro s a s' hs hrun
  rw [learn_run] at hrun
  cases hrun
  refine ⟨fun k hk => ?_, hs.carried⟩
  rcases mem_learned hk with hk | ⟨hother, k', hk', rfl⟩
  · exact hs.facts k hk
  · refine h hother k' ?_
    rcases hk' with rfl | hk'
    · rfl
    · exact hs.facts k' hk'

theorem facts_avoids : Avoids name (facts other) := Avoids.get.bind fun _ => .pure _

theorem bound_avoids (h : other ≠ name) : Avoids name (bound other) :=
  Avoids.get.bind fun _ => learn_avoids fun heq => absurd heq h

theorem parameter_avoids (h : other ≠ name) : Avoids name (parameter other) := by
  refine facts_avoids.bind fun k => ?_
  split
  · exact Avoids.get.bind fun _ => .throw _
  · exact learn_avoids fun heq => absurd heq h

theorem declare_avoids (h : other ≠ name) (line : Nat) (f : NameFacts → NameFacts) :
    Avoids name (declare line f other) :=
  facts_avoids.bind fun _ => .guarded <| .after (learn_avoids fun heq => absurd heq h)
    (.modify fun _ hs => ⟨hs.facts, hs.carried⟩)

theorem carry_avoids (h : other ≠ name) (line : Nat) : Avoids name (carry line other) := by
  refine Avoids.get.bind fun s => ?_
  split
  · refine facts_avoids.bind fun _ => .guarded <| .modify fun s hs => ⟨hs.facts, ?_⟩
    intro hmem
    rcases List.mem_append.mp hmem with hmem | hmem
    · exact hs.carried hmem
    · exact h (List.mem_singleton.mp hmem).symm
  · exact .throw _
  · exact bound_avoids h

/-- A scope inside another one hands out no name that it lacks. -/
theorem inside_avoids {body : Scoping Unit} (h : Avoids name body) (kind : ScopeKind) (line : Nat) :
    Avoids name (inside kind line body) := by
  intro outer a outer' houter hrun
  unfold inside at hrun
  rw [StateT.run_bind] at hrun
  cases hbody : body.run { kind, line } with
  | error flaw =>
      rw [hbody] at hrun
      cases hrun
  | ok r =>
      obtain ⟨⟨⟩, inner⟩ := r
      rw [hbody] at hrun
      have hinner : inner.Lacks name := h _ () inner (.fresh kind line) hbody
      have hrest : Avoids name (do
          modify fun outer : OpenScope => { outer with
            inner := outer.inner ++ [.mk inner.kind inner.line inner.names inner.declared inner.inner] }
          inner.carried.forM (carry line)) := by
        refine .after (.modify fun _ hs => ⟨hs.facts, hs.carried⟩) (.forM fun n hn => ?_)
        have hne : n ≠ name := fun heq => hinner.carried (heq ▸ hn)
        exact carry_avoids hne line
      exact hrest outer a outer' houter hrun

theorem asSource_avoids {body : Scoping Unit} (h : Avoids name body) :
    Avoids name (asSource body) :=
  Avoids.get.bind fun _ => .after (.modify fun _ hs => ⟨hs.facts, hs.carried⟩) <| .after h <|
    .modify fun _ hs => ⟨hs.facts, hs.carried⟩

theorem asTargetOf_avoids {body : Scoping Unit} (h : Avoids name body) :
    Avoids name (asTargetOf body) :=
  .after (.modify fun _ hs => ⟨hs.facts, hs.carried⟩) <| .after h <|
    .modify fun _ hs => ⟨hs.facts, hs.carried⟩

theorem handsOut_avoids (line : Nat) : Avoids name (handsOut line) := by
  refine Avoids.get.bind fun _ => ?_
  split
  · exact .throw _
  · exact .pure ()

end Learning

/-! ## §3. Expressions. -/

theorem of_append {m : Mention} {a b : List Mention} (h : m ∉ a ++ b) : m ∉ a ∧ m ∉ b :=
  not_or.mp fun hor => h (List.mem_append.mpr hor)

theorem of_cons {other : String} {ms : List Mention} (h : .binds name ∉ Mention.binds other :: ms) :
    other ≠ name ∧ .binds name ∉ ms :=
  ⟨fun heq => h (heq ▸ List.mem_cons_self), fun hmem => h (List.mem_cons_of_mem _ hmem)⟩

mutual

theorem expr_avoids : ∀ (e : Expr) (line : Nat), .binds name ∉ Mention.inExpr e →
    Avoids name (expr line e)
  | .boolOp _ values, line, h => exprs_avoids values line h
  | .named target value, line, h => by
      obtain ⟨htarget, hvalue⟩ := of_cons h
      refine Avoids.get.bind fun _ => .perhaps (.throw line) <| Avoids.get.bind fun _ =>
        .perhaps (carry_avoids htarget line) <| (expr_avoids value line hvalue).after <|
          Avoids.get.bind fun s => ?_
      split
      · exact bound_avoids htarget
      · exact .pure ()
  | .binary _ left right, line, h =>
      (expr_avoids left line (of_append h).1).after (expr_avoids right line (of_append h).2)
  | .unary _ operand, line, h => expr_avoids operand line h
  | .lambda ps body, line, h =>
      (defaults_avoids ps line (of_append h).1).after (inside_avoids
        ((paramNames_avoids ps (of_append h).1).after (expr_avoids body line (of_append h).2)) _ _)
  | .ifElse test body orElse, line, h =>
      (expr_avoids test line (of_append (of_append h).1).1).after
        ((expr_avoids body line (of_append (of_append h).1).2).after
          (expr_avoids orElse line (of_append h).2))
  | .dict es, line, h => entries_avoids es line h
  | .set items, line, h | .list items, line, h | .tuple items, line, h => exprs_avoids items line h
  | .comp _ item cs at_, line, h =>
      (source_avoids cs at_ (of_append h).2).after (inside_avoids
        ((clauses_avoids cs at_ true (of_append h).2).after (expr_avoids item at_ (of_append h).1))
        _ _)
  | .dictComp key value cs at_, line, h => by
      obtain ⟨hkv, hcs⟩ := of_append h
      exact (source_avoids cs at_ hcs).after (inside_avoids ((clauses_avoids cs at_ true hcs).after
        ((expr_avoids value at_ (of_append hkv).2).after (expr_avoids key at_ (of_append hkv).1)))
        _ _)
  | .await value _, line, h => expr_avoids value line h
  | .yield none at_, _, _ => handsOut_avoids at_
  | .yield (some value) at_, line, h | .yieldFrom value at_, line, h =>
      (expr_avoids value line h).after (handsOut_avoids at_)
  | .compare left rest, line, h =>
      (expr_avoids left line (of_append h).1).after (comparisons_avoids rest line (of_append h).2)
  | .call func args ks, line, h =>
      (expr_avoids func line (of_append (of_append h).1).1).after
        ((exprs_avoids args line (of_append (of_append h).1).2).after
          (keywords_avoids ks line (of_append h).2))
  | .joined pieces, line, h => exprs_avoids pieces line h
  | .formatted value _ none, line, h => expr_avoids value line h
  | .formatted value _ (some spec), line, h =>
      (expr_avoids value line (of_append h).1).after (exprs_avoids spec line (of_append h).2)
  | .constant _, _, _ => .pure ()
  | .attribute value _, line, h | .starred value _, line, h => expr_avoids value line h
  | .subscript value index, line, h =>
      (expr_avoids value line (of_append h).1).after (expr_avoids index line (of_append h).2)
  | .name id .load, _, _ => learn_avoids fun _ _ hk => hk
  | .name id .store, _, h | .name id .delete, _, h => bound_avoids (of_cons h).1
  | .slice lower upper step, line, h =>
      (option_avoids lower line (of_append (of_append h).1).1).after
        ((option_avoids upper line (of_append (of_append h).1).2).after
          (option_avoids step line (of_append h).2))

theorem option_avoids : ∀ (e : Option Expr) (line : Nat), .binds name ∉ Mention.inOption e →
    Avoids name (option line e)
  | none, _, _ => .pure ()
  | some e, line, h => expr_avoids e line h

theorem exprs_avoids : ∀ (es : List Expr) (line : Nat), .binds name ∉ Mention.inExprs es →
    Avoids name (exprs line es)
  | [], _, _ => .pure ()
  | e :: es, line, h =>
      (expr_avoids e line (of_append h).1).after (exprs_avoids es line (of_append h).2)

theorem entries_avoids : ∀ (es : List Entry) (line : Nat), .binds name ∉ Mention.inEntries es →
    Avoids name (entries line es)
  | [], _, _ => .pure ()
  | .item key value :: es, line, h =>
      (expr_avoids key line (of_append (of_append h).1).1).after
        ((expr_avoids value line (of_append (of_append h).1).2).after
          (entries_avoids es line (of_append h).2))
  | .spread value :: es, line, h =>
      (expr_avoids value line (of_append h).1).after (entries_avoids es line (of_append h).2)

theorem comparisons_avoids : ∀ (cs : List Comparison) (line : Nat),
    .binds name ∉ Mention.inComparisons cs → Avoids name (comparisons line cs)
  | [], _, _ => .pure ()
  | .mk _ right :: cs, line, h =>
      (expr_avoids right line (of_append h).1).after (comparisons_avoids cs line (of_append h).2)

theorem keywords_avoids : ∀ (ks : List Keyword) (line : Nat), .binds name ∉ Mention.inKeywords ks →
    Avoids name (keywords line ks)
  | [], _, _ => .pure ()
  | .mk _ value _ :: ks, line, h =>
      (expr_avoids value line (of_append h).1).after (keywords_avoids ks line (of_append h).2)

theorem source_avoids : ∀ (cs : List Clause) (line : Nat), .binds name ∉ Mention.inClauses cs →
    Avoids name (source line cs)
  | [], _, _ => .pure ()
  | .mk _ _ iter _ :: _, line, h =>
      asSource_avoids (expr_avoids iter line (of_append (of_append (of_append h).1).1).2)

theorem clauses_avoids : ∀ (cs : List Clause) (line : Nat) (first : Bool),
    .binds name ∉ Mention.inClauses cs → Avoids name (clauses line first cs)
  | [], _, _, _ => .pure ()
  | .mk _ target iter conditions :: cs, line, first, h => by
      obtain ⟨hclause, hcs⟩ := of_append h
      obtain ⟨hparts, hconditions⟩ := of_append hclause
      obtain ⟨htarget, hiter⟩ := of_append hparts
      exact (asTargetOf_avoids (expr_avoids target line htarget)).after <|
        .perhaps (asSource_avoids (expr_avoids iter line hiter)) <|
          (exprs_avoids conditions line hconditions).after (clauses_avoids cs line false hcs)

theorem defaults_avoids : ∀ (ps : List Param) (line : Nat), .binds name ∉ Mention.inParams ps →
    Avoids name (defaults line ps)
  | [], _, _ => .pure ()
  | .mk _ _ type dflt :: ps, line, h => by
      obtain ⟨hparts, hps⟩ := of_append (of_cons h).2
      exact (option_avoids dflt line (of_append hparts).2).after (defaults_avoids ps line hps)

theorem paramNames_avoids : ∀ (ps : List Param), .binds name ∉ Mention.inParams ps →
    Avoids name (paramNames ps)
  | [], _ => .pure ()
  | .mk _ _ _ _ :: ps, h =>
      (parameter_avoids (of_cons h).1).after (paramNames_avoids ps (of_append (of_cons h).2).2)

theorem types_avoids : ∀ (ps : List Param) (line : Nat), .binds name ∉ Mention.inParams ps →
    Avoids name (types line ps)
  | [], _, _ => .pure ()
  | .mk _ _ type _ :: ps, line, h => by
      obtain ⟨hparts, hps⟩ := of_append (of_cons h).2
      exact (option_avoids type line (of_append hparts).1).after (types_avoids ps line hps)

end

/-! ## §4. Patterns. -/

theorem boundIf_avoids (other : Option String) (h : .binds name ∉ Mention.binder other) :
    Avoids name (boundIf other) := by
  cases other with
  | none => exact .pure ()
  | some n => exact bound_avoids (of_cons h).1

mutual

theorem pattern_avoids : ∀ (p : Pattern) (line : Nat), .binds name ∉ Mention.inPattern p →
    Avoids name (pattern line p)
  | .value e, line, h => expr_avoids e line h
  | .singleton _, _, _ => .pure ()
  | .sequence items, line, h | .either items, line, h => patterns_avoids items line h
  | .star n, _, h | .capture none n, _, h => boundIf_avoids n h
  | .mapping keys items rest, line, h =>
      (exprs_avoids keys line (of_append (of_append h).1).1).after
        ((patterns_avoids items line (of_append (of_append h).1).2).after
          (boundIf_avoids rest (of_append h).2))
  | .object cls items _ named, line, h =>
      (expr_avoids cls line (of_append (of_append h).1).1).after
        ((patterns_avoids items line (of_append (of_append h).1).2).after
          (patterns_avoids named line (of_append h).2))
  | .capture (some inner) n, line, h =>
      (pattern_avoids inner line (of_append h).1).after (boundIf_avoids n (of_append h).2)

theorem patterns_avoids : ∀ (ps : List Pattern) (line : Nat), .binds name ∉ Mention.inPatterns ps →
    Avoids name (patterns line ps)
  | [], _, _ => .pure ()
  | p :: ps, line, h =>
      (pattern_avoids p line (of_append h).1).after (patterns_avoids ps line (of_append h).2)

end

/-! ## §5. Statements. -/

open TreeNode (ofStmt ofBlock ofHandlers ofCases ofExpr StoresTyped Everywhere)

theorem withItems_avoids (items : List WithItem) (line : Nat)
    (h : .binds name ∉ Mention.inWithItems items) : Avoids name (withItems line items) := by
  refine .forM fun i hi => ?_
  have hitem : .binds name ∉ Mention.inExpr i.manager ++ Mention.inOption i.target :=
    fun hmem => h (List.mem_flatMap.mpr ⟨i, hi, hmem⟩)
  exact (expr_avoids i.manager line (of_append hitem).1).after
    (option_avoids i.target line (of_append hitem).2)

theorem boundByImport_avoids {a : Alias} (h : Mention.ofAlias a ≠ .binds name) (line : Nat) :
    Avoids name (boundByImport line a) := by
  unfold boundByImport
  split
  · refine Avoids.get.bind fun _ => ?_
    split
    · exact .throw line
    · exact .pure ()
  · split
    next n hn =>
      exact learn_avoids fun heq => absurd (heq ▸ hn) h
    next => exact .pure ()

theorem imports_avoids {names : List Alias} (h : .binds name ∉ names.map Mention.ofAlias) (line : Nat) :
    Avoids name (names.forM (boundByImport line)) :=
  .forM fun a ha => boundByImport_avoids (fun heq => h (List.mem_map.mpr ⟨a, ha, heq⟩)) line

theorem declarations_avoids {names : List String} (h : .binds name ∉ names.map Mention.binds)
    (line : Nat) (f : NameFacts → NameFacts) : Avoids name (names.forM (declare line f)) :=
  .forM fun n hn => declare_avoids (fun heq => h (List.mem_map.mpr ⟨n, hn, congrArg Mention.binds heq⟩)) line f

theorem typed_avoids {target : Expr} (h : .binds name ∉ Mention.inExpr target)
    (hstored : ∀ id, target ≠ .name id .load) (line : Nat) (simple given : Bool) :
    Avoids name (typed line target simple given) := by
  unfold typed
  split
  next id use =>
    have hid : id ≠ name := by
      cases use with
      | load => exact absurd rfl (hstored id)
      | store | delete => exact (of_cons h).1
    refine facts_avoids.bind fun k => Avoids.get.bind fun _ => .perhaps (.throw line) ?_
    split
    · exact learn_avoids fun heq => absurd heq hid
    · split
      · exact bound_avoids hid
      · exact .pure ()
  next => exact expr_avoids target line h

mutual

/-- **A statement that binds a name nowhere claims it for no scope.** -/
theorem stmt_avoids : ∀ (s : Stmt) (line : Nat), .binds name ∉ Mention.inStmt s →
    (ofStmt s).Everywhere StoresTyped → Avoids name (stmt line s)
  | .funcDef _ other ps body decorators returns, line, h, ht => by
      obtain ⟨hother, hrest⟩ := of_cons h
      obtain ⟨hparts, hreturns⟩ := of_append hrest
      obtain ⟨hparts, hdecorators⟩ := of_append hparts
      obtain ⟨hps, hbody⟩ := of_append hparts
      exact (bound_avoids hother).after <| (defaults_avoids ps line hps).after <|
        (types_avoids ps line hps).after <| (option_avoids returns line hreturns).after <|
        (exprs_avoids decorators line hdecorators).after <| inside_avoids
          ((paramNames_avoids ps hps).after (block_avoids body hbody (ht.row (by simp)))) _ _
  | .classDef other bases ks body decorators, line, h, ht => by
      obtain ⟨hother, hrest⟩ := of_cons h
      obtain ⟨hparts, hdecorators⟩ := of_append hrest
      obtain ⟨hparts, hbody⟩ := of_append hparts
      obtain ⟨hbases, hks⟩ := of_append hparts
      exact (bound_avoids hother).after <| (exprs_avoids bases line hbases).after <|
        (keywords_avoids ks line hks).after <| (exprs_avoids decorators line hdecorators).after <|
        inside_avoids (block_avoids body hbody (ht.row (by simp))) _ _
  | .ret value, line, h, _ => option_avoids value line h
  | .delete targets, line, h, _ => exprs_avoids targets line h
  | .assign targets value, line, h, _ =>
      (exprs_avoids targets line (of_append h).1).after (expr_avoids value line (of_append h).2)
  | .augAssign target _ value, line, h, _ =>
      (expr_avoids target line (of_append h).1).after (expr_avoids value line (of_append h).2)
  | .annAssign target type value simple, line, h, ht => by
      obtain ⟨hparts, hvalue⟩ := of_append h
      obtain ⟨htarget, htype⟩ := of_append hparts
      have hstored : ∀ id, target ≠ .name id .load := by
        rintro id rfl
        exact ht [] _ rfl id rfl
      exact (typed_avoids htarget hstored line simple _).after <|
        (expr_avoids type line htype).after (option_avoids value line hvalue)
  | .forLoop _ target iter body orElse, line, h, ht => by
      obtain ⟨hparts, horElse⟩ := of_append h
      obtain ⟨hparts, hbody⟩ := of_append hparts
      obtain ⟨htarget, hiter⟩ := of_append hparts
      exact (expr_avoids target line htarget).after <| (expr_avoids iter line hiter).after <|
        (block_avoids body hbody (ht.row (by simp))).after
          (block_avoids orElse horElse (ht.row (by simp)))
  | .whileLoop test body orElse, line, h, ht | .ifElse test body orElse, line, h, ht => by
      obtain ⟨hparts, horElse⟩ := of_append h
      obtain ⟨htest, hbody⟩ := of_append hparts
      exact (expr_avoids test line htest).after <|
        (block_avoids body hbody (ht.row (by simp))).after
          (block_avoids orElse horElse (ht.row (by simp)))
  | .withBlock _ items body, line, h, ht =>
      (withItems_avoids items line (of_append h).1).after
        (block_avoids body (of_append h).2 (ht.row (by simp)))
  | .matchCases subject cs, line, h, ht =>
      (expr_avoids subject line (of_append h).1).after
        (cases_avoids cs (of_append h).2 (ht.row (by simp)))
  | .raiseError error cause, line, h, _ =>
      (option_avoids error line (of_append h).1).after (option_avoids cause line (of_append h).2)
  | .tryBlock body hs orElse final _, line, h, ht => by
      obtain ⟨hparts, hfinal⟩ := of_append h
      obtain ⟨hparts, horElse⟩ := of_append hparts
      obtain ⟨hbody, hhs⟩ := of_append hparts
      exact (block_avoids body hbody (ht.row (by simp))).after <|
        (block_avoids orElse horElse (ht.row (by simp))).after <|
        (handlers_avoids hs hhs (ht.row (by simp))).after
          (block_avoids final hfinal (ht.row (by simp)))
  | .assertTrue test message, line, h, _ =>
      (expr_avoids test line (of_append h).1).after (option_avoids message line (of_append h).2)
  | .importNames names, line, h, _ | .importFrom _ names _, line, h, _ => imports_avoids h line
  | .globalNames names, line, h, _ | .nonlocalNames names, line, h, _ =>
      declarations_avoids h line _
  | .expr value, line, h, _ => expr_avoids value line h
  | .pass, _, _, _ | .breakLoop, _, _, _ | .continueLoop, _, _, _ => .pure ()

theorem block_avoids : ∀ b : List Line, .binds name ∉ Mention.inBlock b →
    (∀ n ∈ ofBlock b, n.Everywhere StoresTyped) → Avoids name (block b)
  | [], _, _ => .pure ()
  | .mk line s :: b, h, ht => by
      obtain ⟨hs, hb⟩ := of_append h
      obtain ⟨hts, htb⟩ := List.forall_mem_cons.mp ht
      have hstmt : (ofStmt s).Everywhere StoresTyped :=
        (TreeNode.everywhere_mk.mp hts).2 _ (List.mem_singleton_self _)
      exact (stmt_avoids s line hs hstmt).after (block_avoids b hb htb)

theorem handlers_avoids : ∀ hs : List Handler, .binds name ∉ Mention.inHandlers hs →
    (∀ n ∈ ofHandlers hs, n.Everywhere StoresTyped) → Avoids name (handlers hs)
  | [], _, _ => .pure ()
  | .mk type other body line :: hs, h, ht => by
      obtain ⟨hparts, hrest⟩ := of_append h
      obtain ⟨hparts, hbody⟩ := of_append hparts
      obtain ⟨htype, hother⟩ := of_append hparts
      obtain ⟨htfirst, htrest⟩ := List.forall_mem_cons.mp ht
      exact (option_avoids type line htype).after <| (boundIf_avoids other hother).after <|
        (block_avoids body hbody (htfirst.row (by simp))).after (handlers_avoids hs hrest htrest)

theorem cases_avoids : ∀ cs : List Case, .binds name ∉ Mention.inCases cs →
    (∀ n ∈ ofCases cs, n.Everywhere StoresTyped) → Avoids name (cases cs)
  | [], _, _ => .pure ()
  | .mk p guard body line :: cs, h, ht => by
      obtain ⟨hparts, hrest⟩ := of_append h
      obtain ⟨hparts, hbody⟩ := of_append hparts
      obtain ⟨hp, hguard⟩ := of_append hparts
      obtain ⟨htfirst, htrest⟩ := List.forall_mem_cons.mp ht
      exact (pattern_avoids p line hp).after <| (option_avoids guard line hguard).after <|
        (block_avoids body hbody (htfirst.row (by simp))).after (cases_avoids cs hrest htrest)

end

end Scoping

end TagTemplate.Script

namespace TagTemplate.Machine

open Script

open TreeNode (ofTree ofStmt ofExpr StoresTyped)

/-! ## §6. Functions and comprehensions. -/

/-- A function or a comprehension neither owns a name nor declares it global. -/
def OwnNames.Lack (n : OwnNames) (name : String) : Prop := name ∉ n.own ∧ name ∉ n.globals

/-- What code of a program opens a frame for: the body of a function, or a comprehension. -/
inductive Opens (t : Tree) : OwnNames → Prop
  /-- A function with a name. -/
  | function {path : List Nat} {isAsync : Bool} {name : String} {ps : List Param} {body : List Line}
      {decorators : List Expr} {returns : Option Expr}
      (h : (ofTree t).at? path = some (ofStmt (.funcDef isAsync name ps body decorators returns))) :
      Opens t (namesOfFunction ps (.block body))
  /-- A function without a name. -/
  | lambda {path : List Nat} {ps : List Param} {body : Expr}
      (h : (ofTree t).at? path = some (ofExpr (.lambda ps body))) :
      Opens t (namesOfFunction ps (.expr body))
  /-- A comprehension. -/
  | comp {path : List Nat} {kind : CompKind} {item : Expr} {cs : List Clause} {line : Nat}
      (h : (ofTree t).at? path = some (ofExpr (.comp kind item cs line))) :
      Opens t { own := (namesOfClauses cs).own }
  /-- A comprehension of a mapping. -/
  | dictComp {path : List Nat} {key value : Expr} {cs : List Clause} {line : Nat}
      (h : (ofTree t).at? path = some (ofExpr (.dictComp key value cs line))) :
      Opens t { own := (namesOfClauses cs).own }

section Lack

variable {name : String} {t : Tree}

/-- What does not claim a name while a scope is built leaves the name to others. -/
theorem namesOf_lacks {build : Scoping Unit} (h : Scoping.Avoids name build) (kind : ScopeKind) :
    (namesOf kind build).Lack name := by
  unfold namesOf
  split
  next s hrun =>
    have hs : s.Lacks name := h _ () s (.fresh kind 0) hrun
    have hfacts : ∀ k, (name, k) ∈ s.names →
        (k.isBound = false ∧ k.isImported = false) ∧ k.isGlobal = false := by
      intro k hk
      have hclaimed := hs.facts k hk
      rwa [NameFacts.isClaimed, Bool.or_eq_false_iff, Bool.or_eq_false_iff] at hclaimed
    constructor
    · intro hmem
      obtain ⟨⟨n, k⟩, he, rfl⟩ := List.mem_map.mp hmem
      obtain ⟨hin, hown⟩ := List.mem_filter.mp he
      obtain ⟨⟨hbound, himported⟩, -⟩ := hfacts k hin
      simp [hbound, himported] at hown
    · intro hmem
      obtain ⟨⟨n, k⟩, he, rfl⟩ := List.mem_map.mp hmem
      obtain ⟨hin, hglobal⟩ := List.mem_filter.mp he
      exact Bool.false_ne_true ((hfacts k hin).2.symm.trans hglobal)
  next => exact ⟨nofun, nofun⟩

theorem namesOfClauses_lacks {cs : List Clause} (h : .binds name ∉ Mention.inClauses cs) :
    (namesOfClauses cs).Lack name :=
  namesOf_lacks (Scoping.clauses_avoids cs 0 true h) .comprehension

/-- **A name that a program binds nowhere belongs to none of its functions and comprehensions.** -/
theorem Opens.lack {n : OwnNames} (h : Opens t n) (hname : .binds name ∉ Mention.inBlock t)
    (ht : (ofTree t).Everywhere StoresTyped) : n.Lack name := by
  have hinside : ∀ {path : List Nat} {k : TreeNode}, (ofTree t).at? path = some k →
      .binds name ∉ k.mentions := by
    intro path k hk hmem
    have hprogram := TreeNode.mentions_inside hk hmem
    rw [ofTree, TreeNode.mentions_row, TreeNode.mem_mentionsAll_ofBlock] at hprogram
    exact hname hprogram
  cases h with
  | function h =>
      have hstmt := hinside h
      rw [TreeNode.mem_mentions_ofStmt] at hstmt
      obtain ⟨-, hrest⟩ := Scoping.of_cons hstmt
      obtain ⟨hps, hbody⟩ := Scoping.of_append (Scoping.of_append (Scoping.of_append hrest).1).1
      exact namesOf_lacks ((Scoping.paramNames_avoids _ hps).after
        (Scoping.block_avoids _ hbody ((ht.inside h).row (by simp)))) .function
  | lambda h =>
      have hexpr := hinside h
      rw [TreeNode.mentions_ofExpr] at hexpr
      obtain ⟨hps, hbody⟩ := Scoping.of_append hexpr
      exact namesOf_lacks ((Scoping.paramNames_avoids _ hps).after
        (Scoping.expr_avoids _ 0 hbody)) .function
  | comp h | dictComp h =>
      have hexpr := hinside h
      rw [TreeNode.mentions_ofExpr] at hexpr
      exact ⟨(namesOfClauses_lacks (Scoping.of_append hexpr).2).1, List.not_mem_nil⟩

end Lack

end TagTemplate.Machine
