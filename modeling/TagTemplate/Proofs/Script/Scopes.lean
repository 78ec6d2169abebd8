/-
  TagTemplate.Proofs.Script.Scopes
  ────────────────────────────────
  **THE SCOPES OF GENERATED CODE.**

  Code that is written by rule declares no name and imports none, so that its
  scopes have no flaw; a function owns its parameters and the names that its
  body binds outside of inner functions (`Suite.binders`).

    • `Sentence.scoped`: going through a statement binds these names in the
      scope around, and what it adds to the inner scopes has no flaw.
    • `scopeFlaw_suite`, `namesOfFunction_suite`: what follows for programs
      and for functions.
-/
import TagTemplate.Machine.Variable
import TagTemplate.Proofs.Script.Suite

namespace TagTemplate.Script

/-! ## §1. What a scope learns. -/

/-- A scope declares and imports nothing. -/
def NameFacts.isPlain (k : NameFacts) : Bool := !k.isGlobal && !k.isOuter && !k.isImported

/-- A scope binds exactly the given names, declares and imports nothing, and has no flaw inside. -/
structure OpenScope.Knows (s : OpenScope) (names : List String) : Prop where
  /-- Nothing is declared or imported. -/
  plain : ∀ e ∈ s.names, e.2.isPlain = true
  /-- The bound names. -/
  bound : ∀ n, s.names.any (fun e => e.1 == n && e.2.isBound) = names.contains n
  /-- No comprehension binds a name here. -/
  carried : s.carried = []
  /-- The inner scopes have no flaw. -/
  inner : ∀ around, flaws around s.inner = none

theorem OpenScope.Knows.fresh (kind : ScopeKind) (line : Nat) :
    ({ kind, line } : OpenScope).Knows [] :=
  ⟨nofun, fun _ => rfl, rfl, fun _ => rfl⟩

namespace Scoping

/-- The names of a scope after something is learned about one of them. -/
def learned (name : String) (f : NameFacts → NameFacts) (names : List (String × NameFacts)) :
    List (String × NameFacts) :=
  if names.any (·.1 == name) then names.map fun (n, k) => if n == name then (n, f k) else (n, k)
  else names ++ [(name, f {})]

section Learning

variable {name : String} {f : NameFacts → NameFacts} {names : List (String × NameFacts)}

theorem learn_run (s : OpenScope) :
    (learn name f).run s = .ok ((), { s with names := learned name f s.names }) := by
  show Except.ok _ = _
  unfold learned
  cases h : s.names.any (·.1 == name) <;> simp [h]

theorem learned_isPlain (hf : ∀ k, k.isPlain = true → (f k).isPlain = true)
    (h : ∀ e ∈ names, e.2.isPlain = true) : ∀ e ∈ learned name f names, e.2.isPlain = true := by
  intro e he
  unfold learned at he
  split at he
  · obtain ⟨⟨n, k⟩, hmem, rfl⟩ := List.mem_map.mp he
    have hk : k.isPlain = true := h _ hmem
    dsimp only
    split
    · exact hf k hk
    · exact hk
  · rcases List.mem_append.mp he with he | he
    · exact h e he
    · rw [List.mem_singleton.mp he]
      exact hf {} rfl

theorem learned_isBound {binds : Bool} (hf : ∀ k, (f k).isBound = (k.isBound || binds))
    (n : String) : (learned name f names).any (fun e => e.1 == n && e.2.isBound)
      = (names.any (fun e => e.1 == n && e.2.isBound) || (binds && name == n)) := by
  unfold learned
  split
  next h =>
    -- the name is there already, so it is bound afterwards if this binds it
    obtain ⟨⟨_, k⟩, hmem, heq⟩ := List.any_eq_true.mp h
    cases beq_iff_eq.mp heq
    rw [List.any_map, Bool.eq_iff_iff]
    simp only [Bool.or_eq_true, List.any_eq_true, Function.comp]
    grind
  next h => simp [hf, Bool.and_comm]

/-- What a scope knows after it learned something about a name, which may bind the name. -/
theorem knows_learned (name : String) (f : NameFacts → NameFacts) (binds : Bool) {s : OpenScope}
    {before : List String} (hs : s.Knows before) (hplain : ∀ k, k.isPlain = true → (f k).isPlain = true)
    (hbound : ∀ k, (f k).isBound = (k.isBound || binds)) :
    ({ s with names := learned name f s.names } : OpenScope).Knows
      (before ++ if binds then [name] else []) := by
  refine ⟨learned_isPlain hplain hs.plain, fun n => ?_, hs.carried, hs.inner⟩
  rw [learned_isBound hbound, hs.bound, List.contains_eq_mem, List.contains_eq_mem]
  cases binds <;> simp [Bool.beq_eq_decide_eq, eq_comm]

end Learning

/-! ## §2. Parts of programs. -/

/-- A part of a program binds names and does nothing else to its scope that matters. -/
def Binds (x : Scoping Unit) (names : List String) : Prop :=
  ∀ (s : OpenScope) (before : List String), s.Knows before →
    ∃ s', x.run s = .ok ((), s') ∧ s'.Knows (before ++ names)

section Parts

variable {x y : Scoping Unit} {a b : List String}

theorem Binds.pure : Binds (pure ()) [] := by
  intro s before hs
  exact ⟨s, rfl, by rwa [List.append_nil]⟩

theorem Binds.bind (hx : Binds x a) (hy : Binds y b) : Binds (do x; y) (a ++ b) := by
  intro s before hs
  obtain ⟨s', hrun, hs'⟩ := hx s before hs
  obtain ⟨s'', hrun', hs''⟩ := hy s' _ hs'
  refine ⟨s'', ?_, by rwa [← List.append_assoc]⟩
  rw [StateT.run_bind, hrun]
  exact hrun'

/-- A part that binds nothing, before another one. -/
theorem Binds.after (hx : Binds x []) (hy : Binds y b) : Binds (do x; y) b := hx.bind hy

theorem Binds.read (name : String) : Binds (learn name fun k => { k with isRead := true }) [] :=
  fun s _ hs =>
    ⟨_, learn_run s, knows_learned name (fun k => { k with isRead := true }) false hs
      (fun _ hk => hk) fun _ => (Bool.or_false _).symm⟩

theorem Binds.bound (name : String) : Binds (bound name) [name] := by
  intro s before hs
  let f : NameFacts → NameFacts :=
    fun k => { k with isBound := true, isTarget := k.isTarget || s.inTarget }
  exact ⟨_, learn_run (f := f) s, knows_learned name f true hs (fun _ hk => hk)
    fun _ => (Bool.or_true _).symm⟩

theorem flaws_append (around : List String) (ss ts : List Scope) :
    flaws around (ss ++ ts) = (flaws around ss).or (flaws around ts) := by
  induction ss with
  | nil => simp [flaws]
  | cons s ss ih =>
      rw [List.cons_append, flaws, flaws, ih]
      cases s.flaw (some around) <;> rfl

theorem badOuter_plain (around : Option (List String)) (declared : List (String × Nat)) :
    ∀ {names : List (String × NameFacts)}, (∀ e ∈ names, e.2.isPlain = true) →
      badOuter around declared names = none
  | [], _ => rfl
  | (n, k) :: names, h => by
      have hk : k.isOuter = false := by
        have hplain : k.isPlain = true := h _ List.mem_cons_self
        unfold NameFacts.isPlain at hplain
        simp_all
      rw [badOuter.eq_def]
      simp only [hk, Bool.false_and, Bool.false_eq_true, if_false]
      exact badOuter_plain around declared fun e he => h e (List.mem_cons_of_mem _ he)


/-- An inner scope without a flaw binds nothing in the scope around. -/
theorem Binds.inside {kind : ScopeKind} {line : Nat} {s : OpenScope} {names : List String}
    (hrun : x.run { kind, line } = .ok ((), s)) (hs : s.Knows names) :
    Binds (inside kind line x) [] := by
  intro outer before hknows
  obtain ⟨kind', line', names', declared, scopes, inSource, inTarget, carried⟩ := s
  cases hs.carried
  refine ⟨{ outer with inner := outer.inner ++ [.mk kind' line' names' declared scopes] }, ?_,
    hknows.plain, fun n => ?_, hknows.carried, fun around => ?_⟩
  · unfold Scoping.inside
    rw [StateT.run_bind, hrun]
    rfl
  · rw [hknows.bound, List.append_nil]
  · rw [flaws_append, hknows.inner]
    simp only [flaws, Scope.flaw, badOuter_plain _ _ hs.plain, hs.inner]
    rfl

/-- What a scope learns about a parameter. -/
def asParameter (k : NameFacts) : NameFacts := { k with isParam := true, isBound := true }

theorem parameter_run {name : String} {s : OpenScope}
    (h : ((s.names.lookup name).getD {}).isParam = false) :
    (parameter name).run s = .ok ((), { s with names := learned name asParameter s.names }) := by
  unfold parameter facts
  rw [StateT.run_bind]
  show StateT.run (if ((s.names.lookup name).getD {}).isParam then _ else _) s = _
  rw [h]
  exact learn_run (f := asParameter) s

/-- The parameters of a function are bound in its scope. -/
theorem paramNames_run (ps : Parameters) (kind : ScopeKind) (line : Nat) :
    ∃ s, (paramNames ps.trees).run { kind, line } = .ok ((), s)
      ∧ s.Knows [ps.first.text, ps.second.text] := by
  have hfirst := knows_learned ps.first.text asParameter true (.fresh kind line) (fun _ hk => hk)
    fun _ => (Bool.or_true _).symm
  have hboth := knows_learned ps.second.text asParameter true hfirst (fun _ hk => hk)
    fun _ => (Bool.or_true _).symm
  have hnew : ((learned ps.first.text asParameter []).lookup ps.second.text) = none := by
    have hne : ps.second.text ≠ ps.first.text := by
      intro h
      have hdistinct := ps.distinct
      rw [h, beq_self_eq_true] at hdistinct
      cases hdistinct
    simp [learned, List.lookup_cons, beq_eq_false_iff_ne.mpr hne]
  refine ⟨_, ?_, hboth⟩
  show StateT.run (do parameter ps.first.text; parameter ps.second.text; pure ()) _ = _
  rw [StateT.run_bind, parameter_run rfl]
  show StateT.run (do parameter ps.second.text; pure ()) _ = _
  rw [StateT.run_bind, parameter_run (by rw [hnew]; rfl)]
  rfl

end Parts

/-! ## §3. Expressions. -/

end Scoping

open Scoping (Binds)

mutual

/-- An operand reads names and binds none. -/
theorem Primary.scoped : ∀ (e : Primary) (at_ line : Nat), Binds (Scoping.expr at_ (e.tree line)) []
  | .name w, _, _ => .read w.text
  | .none, _, _ | .text _, _, _ | .number _, _, _ | .empty, _, _ => .pure
  | .member e _, at_, line => e.scoped at_ line
  | .item e key, at_, line => (e.scoped at_ line).after (key.scoped at_ line)
  | .call f args, at_, line => (f.scoped at_ line).after ((args.scoped at_ line).after .pure)
  | .whole e, at_, line => (e.scoped at_ line).after (.after .pure (.after .pure .pure))
  | .list e, at_, line => (e.scoped at_ line).after .pure
  | .extended base es, at_, line => (base.scoped at_ line).after (es.scoped at_ line)

/-- An expression reads names and binds none. -/
theorem Phrase.scoped : ∀ (e : Phrase) (at_ line : Nat), Binds (Scoping.expr at_ (e.tree line)) []
  | .plain e, at_, line | .await e, at_, line => e.scoped at_ line
  | .present e, at_, line => (e.scoped at_ line).after (.after .pure .pure)
  | .either a b, at_, line => (a.scoped at_ line).after ((b.scoped at_ line).after .pure)

theorem Phrases.scoped : ∀ (es : Phrases) (at_ line : Nat),
    Binds (Scoping.exprs at_ (es.trees line)) []
  | .nil, _, _ => .pure
  | .cons e es, at_, line => (e.scoped at_ line).after (es.scoped at_ line)

theorem Entries.scoped : ∀ (es : Entries) (at_ line : Nat),
    Binds (Scoping.entries at_ (es.trees line)) []
  | .nil, _, _ => .pure
  | .spread e es, at_, line => (e.scoped at_ line).after (es.scoped at_ line)
  | .item key value es, at_, line =>
      (key.scoped at_ line).after ((value.scoped at_ line).after (es.scoped at_ line))

end

/-! ## §4. Statements. -/

/-- The name that an assignment binds. -/
def Goal.binders : Goal → List String
  | .name w => [w.text]
  | .member _ _ | .whole _ => []

theorem Goal.scoped (goal : Goal) (at_ line : Nat) :
    Binds (Scoping.expr at_ (goal.tree line)) goal.binders := by
  cases goal with
  | name w => exact .bound w.text
  | member e w => exact e.scoped at_ line
  | whole e => exact (Primary.whole e).scoped at_ line

mutual

/-- The names that a statement binds in the scope around. -/
def Sentence.binders : Sentence → List String
  | .expr _ | .ret _ | .raise | .raiseFrom _ _ => []
  | .assign goal _ => goal.binders
  | .define _ name _ _ => [name.text]
  | .when _ body => body.binders
  | .guard body handlers => body.binders ++ handlers.binders

/-- The names that some statements bind in the scope around. -/
def Suite.binders : Suite → List String
  | .one s => s.binders
  | .cons s rest => s.binders ++ rest.binders

/-- The names that some handlers bind in the scope around. -/
def Handlers.binders : Handlers → List String
  | .one _ name body => (name.map Ident.text).toList ++ body.binders
  | .cons _ name body rest => (name.map Ident.text).toList ++ body.binders ++ rest.binders

end

theorem Scoping.Binds.boundIf (name : Option Ident) :
    Binds (Scoping.boundIf (name.map Ident.text)) (name.map Ident.text).toList := by
  cases name with
  | none => exact .pure
  | some w => exact .bound w.text

/-- The default values of parameters bind nothing. -/
theorem Parameters.scoped_defaults (ps : Parameters) (at_ : Nat) :
    Binds (Scoping.defaults at_ ps.trees) [] := by
  obtain ⟨_, _, spare, _⟩ := ps
  cases spare <;> exact .after .pure (.after .pure .pure)

/-- Parameters have no types. -/
theorem Parameters.scoped_types (ps : Parameters) (at_ : Nat) :
    Binds (Scoping.types at_ ps.trees) [] :=
  .after .pure (.after .pure .pure)

/-- The scope of a function. -/
theorem Suite.scoped_function {body : Suite} {line : Nat} (ps : Parameters)
    (hbody : Binds (Scoping.block (body.lines line)) body.binders) (at_ : Nat) :
    ∃ s, (do Scoping.paramNames ps.trees; Scoping.block (body.lines line) : Scoping Unit).run
        { kind := .function, line := at_ } = .ok ((), s)
      ∧ s.Knows ([ps.first.text, ps.second.text] ++ body.binders) := by
  obtain ⟨s, hrun, hs⟩ := Scoping.paramNames_run ps .function at_
  obtain ⟨s', hrun', hs'⟩ := hbody s _ hs
  refine ⟨s', ?_, hs'⟩
  rw [StateT.run_bind, hrun]
  exact hrun'

mutual

/-- **A statement binds its names in the scope around**, and its functions have scopes without a
flaw. -/
theorem Sentence.scoped : ∀ (s : Sentence) (at_ line : Nat),
    Binds (Scoping.stmt at_ (s.stmt line)) s.binders
  | .expr e, at_, line | .ret e, at_, line => e.scoped at_ line
  | .raise, _, _ => .after .pure .pure
  | .raiseFrom e cause, at_, line => (e.scoped at_ line).after (cause.scoped at_ line)
  | .assign goal e, at_, line => by
      have h := ((goal.scoped at_ line).bind .pure).bind (e.scoped at_ line)
      rwa [List.append_nil, List.append_nil] at h
  | .define _ name ps body, at_, line => by
      obtain ⟨s, hrun, hs⟩ := Suite.scoped_function ps (body.scoped (line + 1)) at_
      have h := (Scoping.Binds.bound name.text).bind ((ps.scoped_defaults at_).after
        ((ps.scoped_types at_).after (.after .pure (.after .pure (.inside hrun hs)))))
      rwa [List.append_nil] at h
  | .when test body, at_, line => by
      have h := (test.scoped at_ line).after ((body.scoped (line + 1)).bind .pure)
      rwa [List.append_nil] at h
  | .guard body handlers, at_, line => by
      have h := (body.scoped (line + 1)).bind (.after .pure
        ((handlers.scoped (line + (1 + Code.heights body.codes))).bind .pure))
      rwa [List.append_nil] at h

theorem Suite.scoped : ∀ (b : Suite) (line : Nat), Binds (Scoping.block (b.lines line)) b.binders
  | .one s, line => by
      have h := (s.scoped line line).bind .pure
      rwa [List.append_nil] at h
  | .cons s rest, line => (s.scoped line line).bind (rest.scoped _)

theorem Handlers.scoped : ∀ (hs : Handlers) (line : Nat),
    Binds (Scoping.handlers (hs.trees line)) hs.binders
  | .one type name body, line => by
      have h := (type.scoped line line).after ((Scoping.Binds.boundIf name).bind
        ((body.scoped (line + 1)).bind .pure))
      rwa [List.append_nil] at h
  | .cons type name body rest, line => by
      have h := (type.scoped line line).after ((Scoping.Binds.boundIf name).bind
        ((body.scoped (line + 1)).bind (rest.scoped (line + (1 + Code.heights body.codes)))))
      rwa [← List.append_assoc] at h

end

/-! ## §5. Programs and functions. -/

/-- **The scopes of generated code have no flaw.** -/
theorem scopeFlaw_suite (b : Suite) (line : Nat) : scopeFlaw (b.lines line) = none := by
  obtain ⟨s, hrun, hs⟩ := b.scoped line _ _ (.fresh .program 0)
  unfold scopeFlaw
  rw [hrun]
  simp only [Scope.flaw, Scoping.badOuter_plain _ _ hs.plain, hs.inner]

/-- The names that belong to a scope, and those that it declares. -/
theorem OpenScope.Knows.names {s : OpenScope} {names : List String} (hs : s.Knows names) :
    (s.names.filter fun (_, k) => k.isGlobal).map (·.1) = []
      ∧ ∀ name, ((s.names.filter fun (_, k) =>
          (k.isBound || k.isImported) && !k.isGlobal && !k.isOuter).map (·.1)).contains name
        = names.contains name := by
  have hplain : ∀ e ∈ s.names, e.2.isGlobal = false ∧ e.2.isOuter = false
      ∧ e.2.isImported = false := by
    intro e he
    have h := hs.plain e he
    unfold NameFacts.isPlain at h
    simp only [Bool.and_eq_true, Bool.not_eq_true'] at h
    exact ⟨h.1.1, h.1.2, h.2⟩
  refine ⟨?_, fun name => ?_⟩
  · rw [List.map_eq_nil_iff, List.filter_eq_nil_iff]
    exact fun e he => by simp [(hplain e he).1]
  · have hbound : s.names.filter (fun (_, k) =>
        (k.isBound || k.isImported) && !k.isGlobal && !k.isOuter)
          = s.names.filter fun e => e.2.isBound :=
      List.filter_congr fun e he => by simp [hplain e he]
    rw [hbound, ← hs.bound, Bool.eq_iff_iff, List.contains_iff_mem, List.any_eq_true, List.mem_map]
    constructor
    · rintro ⟨e, he, rfl⟩
      obtain ⟨hmem, hb⟩ := List.mem_filter.mp he
      exact ⟨e, hmem, by rw [hb, beq_self_eq_true, Bool.true_and]⟩
    · rintro ⟨e, hmem, he⟩
      rw [Bool.and_eq_true, beq_iff_eq] at he
      exact ⟨e, List.mem_filter.mpr ⟨hmem, he.2⟩, he.1⟩

/-- **The names of a function**: it owns its parameters and what its body binds, and declares
nothing. -/
theorem namesOfFunction_suite (ps : Parameters) (body : Suite) (line : Nat) :
    (Machine.namesOfFunction ps.trees (.block (body.lines line))).globals = []
      ∧ ∀ name, (Machine.namesOfFunction ps.trees (.block (body.lines line))).own.contains name
          = ([ps.first.text, ps.second.text] ++ body.binders).contains name := by
  obtain ⟨s, hrun, hs⟩ := Suite.scoped_function ps (body.scoped line) 0
  unfold Machine.namesOfFunction Machine.namesOf
  rw [show (do Scoping.paramNames ps.trees; Scoping.block (body.lines line) : Scoping Unit).run
    { kind := .function, line := 0 } = .ok ((), s) from hrun]
  exact hs.names

end TagTemplate.Script
