/-
  TagTemplate.Proofs.Machine.Reconfigured
  ────────────────────────────────
  **ENVIRONMENTS MADE FROM OTHERS.**

  A host configures an environment and gets another one.  The machine only
  grows by this: cells for the values of new global names, the environment,
  or the error that it could not be made (`Grows`).  So an environment is
  never changed by what is made from it, and what is made in two steps can be
  compared with what is made in one.

  The values of global names live in cells.  An environment either has those
  of the one it was made from, or new ones for the data it was given
  (`MadeOf`); two environments have equal globals if both have the same of
  these (`SameGlobals`).

    • `ofFields_grows` — data become values in new cells,
    • `configure_cases` — what configuring gives,
    • `configure_composes` — two steps and one.
-/
import TagTemplate.Machine.Host
import TagTemplate.Proofs.Machine.Ends
import TagTemplate.Proofs.Settings.Merging

namespace TagTemplate.Machine

/-! ## §1. Machines that grow. -/

/-- Cells and environments have been added to a machine, and nothing else has changed. -/
def Grows (m m' : Machine) : Prop :=
  ∃ cells added, m' = { m with heap := m.heap ++ cells, environments := m.environments ++ added }

namespace Grows

variable {m m₁ m₂ : Machine}

theorem refl (m : Machine) : Grows m m :=
  ⟨#[], #[], by rw [Array.append_empty, Array.append_empty]⟩

theorem trans (h₁ : Grows m m₁) (h₂ : Grows m₁ m₂) : Grows m m₂ := by
  obtain ⟨cells, added, rfl⟩ := h₁
  obtain ⟨cells', added', rfl⟩ := h₂
  refine ⟨cells ++ cells', added ++ added', ?_⟩
  rw [← Array.append_assoc, ← Array.append_assoc]

theorem withCell (m : Machine) (c : Cell) : Grows m (m.withCell c) := by
  refine ⟨#[c], #[], ?_⟩
  rw [Array.append_empty, ← Array.push_eq_append]
  rfl

theorem addEnvironment (m : Machine) (s : Shared) :
    Grows m { m with environments := m.environments.push s } := by
  refine ⟨#[], #[s], ?_⟩
  rw [Array.append_empty, Array.push_eq_append]

/-- An environment stays what it is. -/
theorem environments (h : Grows m m₁) {id : Nat} {s : Shared} (hs : m.environments[id]? = some s) :
    m₁.environments[id]? = some s := by
  obtain ⟨cells, added, rfl⟩ := h
  have hlt := (Array.getElem?_eq_some_iff.mp hs).1
  exact (Array.getElem?_append_left hlt).trans hs

theorem color (h : Grows m m₁) : m₁.color = m.color := by
  obtain ⟨cells, added, rfl⟩ := h
  rfl

end Grows

/-! ## §2. Data as values. -/

mutual

/-- **A datum becomes a value**, with new cells for all of it that can change. -/
theorem ofDatum_grows : ∀ (d : Datum) (m : Machine),
    ∃ v m', Ends (ofDatum d) m v m' ∧ Grows m m'
  | .none, m | .bool _, m | .int _, m | .str _, m | .markup _, m | .function _ _, m | .trim _, m
  | .kind _, m => ⟨_, m, rfl, .refl m⟩
  | .list items, m => by
      obtain ⟨vs, m₁, hends, hgrows⟩ := ofData_grows items m
      exact ⟨_, _, hends.bind (.new _), hgrows.trans (.withCell m₁ _)⟩
  | .tuple items, m => by
      obtain ⟨vs, m₁, hends, hgrows⟩ := ofData_grows items m
      exact ⟨_, _, hends.bind .pure, hgrows⟩
  | .dict fields, m => by
      obtain ⟨vs, m₁, hends, hgrows⟩ := ofFields_grows fields m
      exact ⟨_, _, hends.bind (.new _), hgrows.trans (.withCell m₁ _)⟩
  | .html content, m => by
      obtain ⟨v, m₁, hends, hgrows⟩ := ofDatum_grows content m
      exact ⟨_, _, hends.bind (.new _), hgrows.trans (.withCell m₁ _)⟩
  | .object fields, m => by
      obtain ⟨vs, m₁, hends, hgrows⟩ := ofFields_grows fields m
      exact ⟨_, _, hends.bind (.new _), hgrows.trans (.withCell m₁ _)⟩

/-- So do several data. -/
theorem ofData_grows : ∀ (ds : List Datum) (m : Machine),
    ∃ vs m', Ends (ofData ds) m vs m' ∧ Grows m m'
  | [], m => ⟨_, m, rfl, .refl m⟩
  | d :: ds, m => by
      obtain ⟨v, m₁, hends, hgrows⟩ := ofDatum_grows d m
      obtain ⟨vs, m₂, hends', hgrows'⟩ := ofData_grows ds m₁
      exact ⟨_, _, hends.bind (hends'.bind .pure), hgrows.trans hgrows'⟩

/-- So do data with names. -/
theorem ofFields_grows : ∀ (fields : List (String × Datum)) (m : Machine),
    ∃ vs m', Ends (ofFields fields) m vs m' ∧ Grows m m'
  | [], m => ⟨_, m, rfl, .refl m⟩
  | (_, d) :: fields, m => by
      obtain ⟨v, m₁, hends, hgrows⟩ := ofDatum_grows d m
      obtain ⟨vs, m₂, hends', hgrows'⟩ := ofFields_grows fields m₁
      exact ⟨_, _, hends.bind (hends'.bind .pure), hgrows.trans hgrows'⟩

end

/-! ## §3. Errors. -/

/-- The error that a fault is raised as, with colours or without. -/
def raisedOf (color : Bool) : Fault → Raised
  | .template e => { className := e.className, args := [.str (e.message color)], report := some e }
  | .script className text => { className, args := [.str text], text := some text }

theorem failWith_raises {α : Type} (f : Fault) (m : Machine) :
    (failWith f : Eval α).run m
      = (.error (.raised m.heap.size), m.withCell (.error (raisedOf m.color f))) := by
  cases f <;> rfl

/-- A computation raises an error. -/
def Raises {α : Type} (x : Eval α) (m : Machine) (e : Raised) : Prop :=
  ∃ id m', x.run m = (.error (.raised id), m') ∧ m'.heap[id]? = some (.error e)

/-! ## §4. Configuring. -/

/-- The values of global names are made of data, and live in cells of their own. -/
def MadeOf (fields : List (String × Datum)) (globals : List (String × Value)) (m : Machine) : Prop :=
  ∃ before after, Ends (ofFields fields) before globals after ∧ Grows after m

/-- An environment that is made from another one by overrides. -/
structure MadeFrom (s : Shared) (o : Overrides) (s' : Shared) (m' : Machine) : Prop where
  /-- The environment itself. -/
  environment : s.environment.configure o = .ok s'.environment
  /-- A function that filters is kept, unless the filter is replaced. -/
  filter : s'.filter = if o.filter.isSome then none else s.filter
  /-- The global names are kept, unless they are replaced. -/
  globals : match o.globals with
    | some fields => MadeOf fields s'.globals m'
    | none => s'.globals = s.globals

/-- What configuring puts on the machine, once the environment and the values of the global names are
there. -/
def Shared.withOthers (s : Shared) (o : Overrides) (e : Environment)
    (globals : List (String × Value)) : Shared where
  environment := e
  globals := globals
  filter := if o.filter.isSome then none else s.filter

section Configure

variable {m : Machine} {env : Nat} {s : Shared}

theorem configure_error (hs : m.environments[env]? = some s) {o : Overrides} {f : Fault}
    (h : s.environment.configure o = .error f) :
    (configure env o).run m
      = (.error (.raised m.heap.size), m.withCell (.error (raisedOf m.color f))) := by
  unfold configure
  rw [run_bind_ok (sharedAt_run hs), h]
  exact run_bind_error (failWith_raises f m) _

/-- A new environment is added when the values of its global names are there. -/
theorem configure_adds (hs : m.environments[env]? = some s) {o : Overrides} {e : Environment}
    (h : s.environment.configure o = .ok e) :
    ∃ globals m₁, (configure env o).run m = (addEnvironment (s.withOthers o e globals)).run m₁
      ∧ Grows m m₁ ∧ ∀ m', Grows m₁ m' → match o.globals with
        | some fields => MadeOf fields globals m'
        | none => globals = s.globals := by
  have haccepted : Ends (ofExcept (s.environment.configure o)) m e m := by
    rw [h]
    exact .pure
  unfold configure
  rw [run_bind_ok (sharedAt_run hs), run_bind_ok haccepted]
  cases o.globals with
  | none => exact ⟨s.globals, m, run_bind_ok (x := pure s.globals) rfl _, .refl m, fun _ _ => rfl⟩
  | some fields =>
      obtain ⟨vs, m₁, hends, hgrows⟩ := ofFields_grows fields m
      exact ⟨vs, m₁, run_bind_ok hends _, hgrows, fun _ h => ⟨m, m₁, hends, h⟩⟩

theorem configure_ok (hs : m.environments[env]? = some s) {o : Overrides} {e : Environment}
    (h : s.environment.configure o = .ok e) :
    ∃ id s' m', Ends (configure env o) m id m' ∧ m'.environments[id]? = some s'
      ∧ MadeFrom s o s' m' ∧ Grows m m' := by
  obtain ⟨globals, m₁, hrun, hgrows, hmade⟩ := configure_adds hs h
  have hadd := Grows.addEnvironment m₁ (s.withOthers o e globals)
  exact ⟨m₁.environments.size, _, _, hrun, Array.getElem?_push_size, ⟨h, rfl, hmade _ hadd⟩,
    hgrows.trans hadd⟩

/-- **What configuring gives**: an environment, or an error. -/
theorem configure_cases (hs : m.environments[env]? = some s) (o : Overrides) :
    (∃ f, s.environment.configure o = .error f
        ∧ (configure env o).run m
          = (.error (.raised m.heap.size), m.withCell (.error (raisedOf m.color f))))
      ∨ ∃ id s' m', Ends (configure env o) m id m' ∧ m'.environments[id]? = some s'
        ∧ MadeFrom s o s' m' ∧ Grows m m' := by
  cases h : s.environment.configure o with
  | error f => exact .inl ⟨f, rfl, configure_error hs h⟩
  | ok e => exact .inr (configure_ok hs h)

theorem configure_grows (hs : m.environments[env]? = some s) (o : Overrides) :
    Grows m ((configure env o).run m).2 := by
  rcases configure_cases hs o with ⟨f, _, hrun⟩ | ⟨id, s', m', hends, _, _, hgrows⟩
  · rw [hrun]
    exact .withCell m _
  · rw [show (configure env o).run m = (.ok id, m') from hends]
    exact hgrows

/-- Where configuring ends, it has made an environment. -/
theorem configure_inv (hs : m.environments[env]? = some s) {o : Overrides} {id : Nat} {m' : Machine}
    (h : Ends (configure env o) m id m') :
    ∃ s', m'.environments[id]? = some s' ∧ MadeFrom s o s' m' ∧ Grows m m' := by
  rcases configure_cases hs o with ⟨f, _, hrun⟩ | ⟨id', s', m'', hends, hs', hmade, hgrows⟩
  · cases hrun.symm.trans h
  · have hsame := hends.symm.trans h
    obtain rfl : id' = id := Except.ok.inj (congrArg Prod.fst hsame)
    obtain rfl : m'' = m' := congrArg Prod.snd hsame
    exact ⟨s', hs', hmade, hgrows⟩

/-- Without overrides, the same environment is there once more. -/
theorem configure_nothing_ends (hs : m.environments[env]? = some s)
    (hmade : s.environment.IsMade) :
    ∃ id m', Ends (configure env {}) m id m' ∧ m'.environments[id]? = some s := by
  have hnothing := Environment.configure_nothing hmade
  obtain ⟨id, s', m', hends, hs', hmadeFrom, _⟩ := configure_ok hs hnothing
  have henvironment : s.environment = s'.environment :=
    Except.ok.inj (hnothing.symm.trans hmadeFrom.environment)
  have hsame : s' = s := by
    have hglobals : s'.globals = s.globals := hmadeFrom.globals
    have hfilter : s'.filter = s.filter := hmadeFrom.filter
    cases s
    cases s'
    congr 1
    exact henvironment.symm
  exact ⟨id, m', hends, hsame ▸ hs'⟩

end Configure

/-! ## §5. Two steps and one. -/

/-- Global names of two environments that are made from a third one: both have the values of that
one, which are what they were, or both have new values for the same data. -/
inductive SameGlobals (m : Machine) (s : Shared) (m₁ : Machine) (s₁ : Shared) (m₂ : Machine)
    (s₂ : Shared) : Prop
  /-- The values that were there. -/
  | kept (h₁ : s₁.globals = s.globals) (h₂ : s₂.globals = s.globals) (hgrows₁ : Grows m m₁)
    (hgrows₂ : Grows m m₂)
  /-- New ones. -/
  | made (fields : List (String × Datum)) (h₁ : MadeOf fields s₁.globals m₁)
    (h₂ : MadeOf fields s₂.globals m₂)

/-- **Two computations give the same environment**, each made from one that was there, **or raise
the same error**.  Environments are the same if their blueprints are (where templates come from, the
primitives, the data of the globals, the limit, and the options in their order), their limits, the
settings of the scanner and of the generator, what filters, and the values of the globals. -/
inductive SameOutcome (m : Machine) (s : Shared) (x : Eval Nat) (mx : Machine) (y : Eval Nat)
    (my : Machine) : Prop
  /-- Both raise an error of the same class, with the same text. -/
  | raises (e : Raised) (hx : Raises x mx e) (hy : Raises y my e)
  /-- Both give an environment. -/
  | ends {id₁ id₂ : Nat} {m₁ m₂ : Machine} {s₁ s₂ : Shared} (hx : Ends x mx id₁ m₁)
    (hy : Ends y my id₂ m₂) (h₁ : m₁.environments[id₁]? = some s₁)
    (h₂ : m₂.environments[id₂]? = some s₂) (environment : s₁.environment = s₂.environment)
    (filter : s₁.filterValue = s₂.filterValue) (globals : SameGlobals m s m₁ s₁ m₂ s₂)

section Compose

variable {m m₁ m₂ m₃ : Machine} {s s₁ s₂ s₃ : Shared} {o later : Overrides}

theorem MadeOf.grows {fields : List (String × Datum)} {globals : List (String × Value)}
    (h : MadeOf fields globals m) (hgrows : Grows m m₁) : MadeOf fields globals m₁ := by
  obtain ⟨before, after, hends, hafter⟩ := h
  exact ⟨before, after, hends, hafter.trans hgrows⟩

/-- What filters in an environment made in two steps. -/
theorem MadeFrom.filter_twice (h₁ : MadeFrom s o s₁ m₁) (h₂ : MadeFrom s₁ later s₂ m₂)
    (h₃ : MadeFrom s (o.followedBy later) s₃ m₃) : s₂.filter = s₃.filter := by
  rw [h₂.filter, h₁.filter, h₃.filter]
  unfold Overrides.followedBy
  cases later.filter <;> cases o.filter <;> rfl

/-- The global names of an environment made in two steps.  They are those of the second step, if it
replaces them, else those of the first one, if that does. -/
theorem MadeFrom.globals_twice (h₁ : MadeFrom s o s₁ m₁) (h₂ : MadeFrom s₁ later s₂ m₂)
    (h₃ : MadeFrom s (o.followedBy later) s₃ m₃) (hgrows₁ : Grows m m₁) (hgrows₂ : Grows m₁ m₂)
    (hgrows₃ : Grows m m₃) : SameGlobals m s m₂ s₂ m₃ s₃ := by
  have hfirst := h₁.globals
  have hsecond := h₂.globals
  have hboth := h₃.globals
  unfold Overrides.followedBy at hboth
  dsimp only at hboth
  cases hlater : later.globals with
  | some fields =>
      rw [hlater] at hsecond hboth
      exact .made fields hsecond hboth
  | none =>
      rw [hlater] at hsecond hboth
      cases ho : o.globals with
      | some fields =>
          rw [ho] at hfirst hboth
          exact .made fields (hsecond ▸ hfirst.grows hgrows₂) hboth
      | none =>
          rw [ho] at hfirst hboth
          exact .kept (hsecond.trans hfirst) hboth (hgrows₁.trans hgrows₂) hgrows₃

/-- **What is made in two steps, and in one.** -/
theorem MadeFrom.sameOutcome {env id : Nat} (h : MadeFrom s o s₁ m₁)
    (hs : m.environments[env]? = some s) (hs₁ : m₁.environments[id]? = some s₁) (hgrows : Grows m m₁)
    (later : Overrides) :
    SameOutcome m s (configure id later) m₁ (configure env (o.followedBy later)) m := by
  have htwice := Environment.configure_twice h.environment later
  rcases configure_cases hs₁ later with ⟨f, hf, hrun⟩ | ⟨id₂, s₂, m₂, hends₂, hs₂, hsecond, hgrows₂⟩
  · rw [htwice] at hf
    rw [hgrows.color] at hrun
    exact .raises (raisedOf m.color f) ⟨_, _, hrun, withCell_new⟩
      ⟨_, _, configure_error hs hf, withCell_new⟩
  · have hone := hsecond.environment
    rw [htwice] at hone
    obtain ⟨id₃, s₃, m₃, hends₃, hs₃, hboth, hgrows₃⟩ := configure_ok hs hone
    have henvironment : s₂.environment = s₃.environment :=
      Except.ok.inj (hone.symm.trans hboth.environment)
    have hfilter : s₂.filterValue = s₃.filterValue := by
      unfold Shared.filterValue
      rw [h.filter_twice hsecond hboth, henvironment]
    exact .ends hends₂ hends₃ hs₂ hs₃ henvironment hfilter
      (h.globals_twice hsecond hboth hgrows hgrows₂ hgrows₃)

end Compose

/-- An environment with reports, and with a prefix of its own for raw tags. -/
def exclaiming : Shared where
  environment := {
    blueprint := {
      options := [("debug", .data (.bool true)), ("raw_prefix", .data (.str "!"))] }
    maxDepth := 50
    scan := { rawMark := some '!', debug := true }
    code := { debug := true } }

/-- A filter, global names and options, one of which the environment has already. -/
def dashing : Overrides where
  filter := some .dash
  globals := some [("xs", .list [.int 1])]
  options := [("use_with", .data (.bool true)), ("debug", .data (.bool false))]

end TagTemplate.Machine
