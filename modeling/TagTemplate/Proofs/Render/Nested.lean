/-
  TagTemplate.Proofs.Render.Nested
  ────────────────────────────────
  **RENDERS INSIDE OF RENDERS.**

  A render that has begun is a level (`Begun`).  Its lines may come to ask for
  another template, by a function or as a layout (`Asks`); the render of that
  one is the next level.  Levels one inside the other are a chain.

    • `Begun.run`: a render ends as its core does.
    • `Asks.run`: what a template asks for is rendered where it asks.
    • `Chain.raises`: an error of the library leaves every level as it is.
-/
import TagTemplate.Proofs.Machine.ErrorClass
import TagTemplate.Proofs.Render.Choice

namespace TagTemplate

open Script Machine

namespace Machine

/-! ## §1. The template that is asked for. -/

/-- A fault is no value. -/
theorem not_ends_failWith {α : Type} {fault : Fault} {m m' : Machine} {a : α} :
    ¬ Ends (failWith fault) m a m' := by
  intro h
  obtain ⟨id, m₁, _, hraised⟩ := failWith_run fault m
  have hrun : ((.error (.raised id), m₁) : Except Signal α × Machine) = (.ok a, m') :=
    hraised.symm.trans h
  cases congrArg Prod.fst hrun

/-- A template belongs to an environment, and has options of its own. -/
structure Belongs (t : Template) (env : Nat) (isAsync : Bool) (m : Machine) : Prop where
  environment : t.environment = env
  isAsync : t.isAsync = isAsync
  options : ∃ id, t.options = .ref id ∧ m.heap[id]? = some (optionsCell t)

section Load

variable {p : Powers} {env : Nat} {parent : Option String} {isAsync : Bool} {m m' : Machine}
  {t : Template}

theorem compileTemplate_belongs {source : String} {name filename : Option String}
    (h : Ends (compileTemplate p env source name filename (some isAsync)) m t m') :
    Belongs t env isAsync m' ∧ t.name = name := by
  unfold compileTemplate at h
  obtain ⟨shared, m₁, _, h⟩ := h.of_bind
  obtain ⟨m₂, _, _, h⟩ := h.of_bind
  obtain ⟨⟨code, tree⟩, m₃, _, h⟩ := h.of_bind
  obtain ⟨f, m₄, _, h⟩ := h.of_bind
  obtain ⟨fr, m₅, _, h⟩ := h.of_bind
  obtain ⟨options, m₆, hoptions, h⟩ := h.of_bind
  obtain ⟨rfl, rfl⟩ := Ends.unique h .pure
  obtain ⟨rfl, rfl⟩ := Ends.unique hoptions (Ends.new _)
  exact ⟨⟨rfl, rfl, _, rfl, withCell_new⟩, rfl⟩

/-- So does one that is loaded by a name, and it has the name that this one stands for. -/
theorem loadTemplate_belongs {wanted : String}
    (h : Ends (loadTemplate p env (.str wanted) parent (some isAsync)) m t m') :
    Belongs t env isAsync m' ∧ t.name = some (resolveName wanted parent) := by
  unfold loadTemplate at h
  obtain ⟨shared, m₁, _, h⟩ := h.of_bind
  dsimp only at h
  cases hloader : shared.environment.blueprint.loader with
  | none =>
      rw [hloader] at h
      obtain ⟨_, m₂, _, h⟩ := h.of_bind
      exact absurd h not_ends_failWith
  | some loader =>
      rw [hloader] at h
      obtain ⟨_, m₂, _, h⟩ := h.of_bind
      obtain ⟨loaded, m₃, _, h⟩ := h.of_bind
      obtain ⟨_, m₄, _, h⟩ := h.of_bind
      exact compileTemplate_belongs h

/-- The name of a template that asks, from its options. -/
theorem parentName_ends {id : Nat} (h : m.heap[id]? = some (optionsCell t)) :
    Ends (parentName (.ref id)) m t.name m := by
  have hmember : Ends (getMember (.ref id) "name") m (ofText? t.name) m :=
    Ends.getMember_object h rfl
  refine Ends.bind hmember ?_
  cases t.name <;> exact .pure

end Load

/-- The template that a name stands for, to a template with some options. -/
def wantedTemplate (p : Powers) (env : Nat) (isAsync : Bool) (wanted : String) (options : Value) :
    Eval Template := do
  loadTemplate p env (.str wanted) (← parentName options) (some isAsync)

theorem renderNamed_eq (p : Powers) (env : Nat) (isAsync : Bool) (wanted : String)
    (data options : Value) :
    renderNamed p env isAsync (.str wanted) data options = (do
      let t ← wantedTemplate p env isAsync wanted options
      if isAsync then t.renderAsync p data else t.render p data) := by
  unfold renderNamed wantedTemplate
  rw [bind_assoc]

end Machine

namespace RenderFunction

/-! ## §2. Levels. -/

/-- A render whose lines have started. -/
structure Level where
  /-- Calls may nest so deep below its lines. -/
  depth : Nat
  /-- What the template runs. -/
  program : Program
  /-- The template. -/
  template : Template
  /-- Where its lines run. -/
  stage : Stage
  /-- The books, as they were opened. -/
  books : Books
  /-- The machine on which the lines start. -/
  start : Machine

/-- **A render has begun**: the template is loaded, and its lines have started. -/
structure Begun (env : Nat) (isAsync : Bool) (wanted : String) (data options : Value) (m : Machine)
    (L : Level) : Prop where
  started : ∃ m₀ c, Ends (wantedTemplate (powers (L.depth + 2)) env isAsync wanted options) m
      L.template m₀
    ∧ Keeps m m₀ ∧ m₀.context = m.context ∧ HasFunction L.program L.template c m₀
    ∧ Starts L.program L.depth L.template c data m₀ L.stage L.books L.start

section Begun

variable {env : Nat} {isAsync : Bool} {wanted : String} {data options : Value} {m : Machine}
  {L : Level} {shared : Shared}

theorem wantedTemplate_belongs {p : Powers} {t : Template} {m' : Machine}
    (h : Ends (wantedTemplate p env isAsync wanted options) m t m') : Belongs t env isAsync m' := by
  obtain ⟨parent, m₁, _, h⟩ := Ends.of_bind h
  exact (loadTemplate_belongs h).1

/-- The name that is asked for is seen from the template that asks. -/
theorem Begun.name (h : Begun env isAsync wanted data options m L) {parent : Option String}
    (hparent : Ends (parentName options) m parent m) :
    L.template.name = some (resolveName wanted parent) := by
  obtain ⟨m₀, c, hload, _⟩ := h.started
  obtain ⟨parent', m₁, hparent', hloaded⟩ := Ends.of_bind hload
  obtain ⟨rfl, rfl⟩ := hparent'.unique hparent
  exact (loadTemplate_belongs hloaded).2

theorem Begun.isAsync_eq (h : Begun env isAsync wanted data options m L) :
    L.program.isAsync = isAsync := by
  obtain ⟨m₀, c, hload, _, _, hfunction, _⟩ := h.started
  exact hfunction.isAsync.symm.trans (wantedTemplate_belongs hload).isAsync

theorem Begun.environment_eq (h : Begun env isAsync wanted data options m L) :
    L.stage.environment = env := by
  obtain ⟨m₀, c, hload, _, _, _, hstarts⟩ := h.started
  exact hstarts.environment.trans (wantedTemplate_belongs hload).environment

theorem Begun.underway (h : Begun env isAsync wanted data options m L) :
    Underway L.stage L.books #[] L.start := by
  obtain ⟨m₀, c, _, _, _, _, hstarts⟩ := h.started
  exact hstarts.underway

theorem Begun.keeps (h : Begun env isAsync wanted data options m L) : Keeps m L.start := by
  obtain ⟨m₀, c, _, hkeeps, _, _, hstarts⟩ := h.started
  exact hkeeps.trans hstarts.keeps.1

/-- No layout has been asked for before the lines start. -/
theorem Begun.layout (h : Begun env isAsync wanted data options m L) : L.books.layout = .none := by
  obtain ⟨m₀, c, _, _, _, _, hstarts⟩ := h.started
  obtain ⟨out, ld, hfresh, _⟩ := hstarts.fresh
  rw [hfresh]
  rfl

/-- The books are younger than what is there when the render begins. -/
theorem Begun.younger (h : Begun env isAsync wanted data options m L) :
    m.heap.size ≤ L.stage.state ∧ m.heap.size ≤ L.books.output := by
  obtain ⟨m₀, c, _, hkeeps, _, _, hstarts⟩ := h.started
  obtain ⟨hstate, houtput⟩ := hstarts.younger
  exact ⟨Nat.le_trans hkeeps.size_le hstate, Nat.le_trans hkeeps.size_le houtput⟩

/-- Its data are those that it was given. -/
theorem Begun.mapping {fields : List (String × Value)} (h : Begun env isAsync wanted data options m L)
    (hdata : LayoutData data fields m) : IsMapping L.stage.data fields L.start := by
  obtain ⟨m₀, c, _, hkeeps, _, _, hstarts⟩ := h.started
  obtain ⟨m₁, hgiven, hkept, _⟩ := hstarts.kept
  cases hdata with
  | nothing =>
      obtain ⟨hid, rfl⟩ := hgiven.unique (Ends.new _)
      rw [hid]
      exact ⟨⟨_, rfl, hkept.cells withCell_new⟩, List.nodup_nil⟩
  | mapping hmapping =>
      obtain ⟨id, rfl, hcell⟩ := hmapping.cell
      obtain ⟨hid, rfl⟩ := hgiven.unique Ends.pure
      rw [hid]
      exact hmapping.ofCells fun hcell => hkept.cells (hkeeps.cells hcell)

/-- The template keeps its own options. -/
theorem Begun.ownOptions (h : Begun env isAsync wanted data options m L) :
    ∃ id, L.stage.options = .ref id ∧ L.start.heap[id]? = some (optionsCell L.template) := by
  obtain ⟨m₀, c, hload, _, _, _, hstarts⟩ := h.started
  obtain ⟨id, hid, hcell⟩ := (wantedTemplate_belongs hload).options
  exact ⟨id, hstarts.options.trans hid, hstarts.keeps.1.cells hcell⟩

/-- Where errors are reported, the error that is handled has a name. -/
theorem Begun.handles (h : Begun env isAsync wanted data options m L)
    (hsource : L.program.source.isSome = true) :
    L.stage.locals.contains errorName.text = true := by
  obtain ⟨m₀, c, _, _, _, hfunction, hstarts⟩ := h.started
  rw [hstarts.site.1]
  exact hfunction.isRender.handles hsource

theorem Begun.shared_eq (h : Begun env isAsync wanted data options m L)
    (hshared : m.environments[env]? = some shared) : L.stage.shared = shared := by
  obtain ⟨m₀, c, hload, hkeeps, _, _, hstarts⟩ := h.started
  refine hstarts.shared_eq ?_
  rw [(wantedTemplate_belongs hload).environment, hkeeps.environments]
  exact hshared

theorem Begun.context_eq (h : Begun env isAsync wanted data options m L)
    (hshared : m.environments[env]? = some shared) :
    L.start.context = some (entered m.context L.template shared.environment.maxDepth) := by
  have heq := h.shared_eq hshared
  obtain ⟨m₀, c, _, _, hcontext, _, hstarts⟩ := h.started
  rw [hstarts.keeps.2, heq, hcontext]

/-- **A render ends as its core does**, in the context before it. -/
theorem Begun.run (h : Begun env isAsync wanted data options m L)
    (hshared : m.environments[env]? = some shared)
    (hentered : RenderContext.enter m.context L.template.name L.template.filename
        shared.environment.maxDepth
      = .ok (entered m.context L.template shared.environment.maxDepth))
    {r : Except Signal Value} {m₂ : Machine}
    (hcore : (block (powers (L.depth + 1)) L.stage.here L.program.core >>= finish).run L.start
      = (r, m₂))
    (hleaves : isAsync = true → Leaves r m₂) :
    (renderNamed (powers (L.depth + 2)) env isAsync (.str wanted) data options).run m
      = (r, { m₂ with context := m.context }) := by
  have hsharedEq := h.shared_eq hshared
  have hasync := h.isAsync_eq
  obtain ⟨m₀, c, hload, _, hcontext, hfunction, hstarts⟩ := h.started
  rw [← hcontext, ← hsharedEq] at hentered
  have hrun := hstarts.run hfunction hentered hcore (hasync ▸ hleaves)
  rw [hasync, hcontext] at hrun
  rw [renderNamed_eq]
  exact (run_bind_ok hload _).trans hrun

end Begun

/-! ## §3. Contexts. -/

/-- What is asked for by the render of a template. -/
def entryOf (limit : Int) (t : Template) : Entry := ⟨t.name, t.filename, limit⟩

/-- The context inside of the renders of templates, innermost first. -/
def contextWithin (limit : Int) (around : List Template) : Option RenderContext :=
  contextOf (around.map (entryOf limit))

section Contexts

variable {limit : Int} {around : List Template}

theorem rootLimit_entryOf (limit : Int) (t : Template) (outer : List Template) :
    rootLimit (entryOf limit t) (outer.map (entryOf limit)) = limit := by
  induction outer generalizing t with
  | nil => rfl
  | cons o outer ih => exact ih o

/-- A render that is refused raises the failure of the library, and nothing else changes. -/
theorem render_refused {isAsync : Bool} {t : Template} {m : Machine} {shared : Shared}
    {e : TemplateError} (hasync : t.isAsync = isAsync)
    (hshared : m.environments[t.environment]? = some shared)
    (hrefused : RenderContext.enter m.context t.name t.filename shared.environment.maxDepth
      = .error (.template e))
    (hbelow : ErrorClass.isBelow e.className "TemplateError" = true) (p : Powers) (data : Value) :
    ∃ id made m', (if isAsync then t.renderAsync p data else t.render p data).run m
        = (.error (.raised id), m')
      ∧ m'.heap[id]? = some (.error made) ∧ made.className = e.className ∧ made.report = some e
      ∧ Keeps m m' ∧ m'.context = m.context := by
  obtain ⟨d, m₁, hdata, hkeeps, hcontext⟩ := dataOf_ends data m
  let made : Raised :=
    { className := e.className, args := [.str (e.message m₁.color)], report := some e }
  have hraised : (failWith (.template e) : Eval Value).run m₁
      = (.error (.raised m₁.heap.size), m₁.withCell (.error made)) := rfl
  rw [← hcontext] at hrefused
  have hinner : (do
      let d ← dataOf data
      inContext t (launch isAsync p t.function [d, t.options])).run m
        = (.error (.raised m₁.heap.size), m₁.withCell (.error made)) :=
    (run_bind_ok hdata _).trans
      ((inContext_refused (hkeeps.environments ▸ hshared) hrefused _).trans hraised)
  have hleaves : Leaves (.error (.raised m₁.heap.size) : Except Signal Value)
      (m₁.withCell (.error made)) := ⟨made, withCell_new, ErrorClass.isBelow_stop hbelow⟩
  refine ⟨m₁.heap.size, made, _, ?_, withCell_new, rfl, rfl, hkeeps.trans (.withCell m₁ _), hcontext⟩
  rw [render_eq_settled hasync]
  exact settled_run hinner fun _ => hleaves

/-- As long as there are no more renders around than the limit allows, one more is entered. -/
theorem enter_within (hroom : (around.length : Int) ≤ limit) (t : Template) :
    RenderContext.enter (contextWithin limit around) t.name t.filename limit
      = .ok (entered (contextWithin limit around) t limit) := by
  refine enter_below (fun c hc => ?_) t limit
  obtain ⟨e, outer, heq, rfl⟩ := mem_contextOf hc
  obtain _ | ⟨o, rest⟩ := around
  · cases heq
  · obtain ⟨rfl, rfl⟩ := List.cons.inj heq
    show ((rest.map (entryOf limit)).length : Int) < rootLimit (entryOf limit o) _
    rw [rootLimit_entryOf, List.length_map]
    rw [List.length_cons] at hroom
    omega

/-- Its context is that of one more render. -/
theorem entered_within (limit : Int) (around : List Template) (t : Template) :
    some (entered (contextWithin limit around) t limit) = contextWithin limit (t :: around) := by
  cases around with
  | nil => rfl
  | cons o rest => exact congrArg some (child_context (entryOf limit o) (entryOf limit t) _)

/-- At the limit it is refused. -/
theorem enter_refused {o : Template} (hfull : limit ≤ (around.length : Int)) (t : Template) :
    ∃ c ∈ contextWithin limit (o :: around),
      c = (entryOf limit o).context (around.map (entryOf limit))
        ∧ RenderContext.enter (contextWithin limit (o :: around)) t.name t.filename limit
          = .error (.template (.failure (c.depthReport t.name))) := by
  have hisFull : isFull (entryOf limit o :: around.map (entryOf limit)) = true := by
    refine decide_eq_true ?_
    rw [rootLimit_entryOf, List.length_map]
    exact hfull
  refine ⟨_, rfl, rfl, ?_⟩
  unfold RenderContext.enter contextWithin
  simp only [List.map_cons, contextOf]
  rw [checkDepth_full hisFull]
  rfl

end Contexts

/-! ## §4. What levels ask for. -/

/-- What is left to do when the lines of a template are done. -/
def thenChoice (P : Program) (p : Powers) (s : Stage) : Flow → Eval Flow
  | .next => block p s.here P.choice
  | flow => return flow

/-- **The lines of a level come to ask for another template**, with some data.  The environment is asked
on a machine on which calls may nest some number of times; the lines go on from there with the text.
They ask by a function, or, when they are done, for the layout that they have written down. -/
inductive Asks (L : Level) : Nat → String → Value → (Value → Eval Flow) → Machine → Prop where
  | inclusion {wanted : String} {data f : Value} {args : List Value} {rest : Value → Eval Flow}
      {n : Nat} {m m₁ : Machine}
      (hrun : (block (powers (L.depth + 1)) L.stage.here L.program.own).run L.start
        = (launch L.program.isAsync (powers (n + 2)) f args >>= rest).run m)
      (hspares : Spares L.start m) (hargs : Passes args (.str wanted) data)
      (hasked : Asked L.program.isAsync L.stage m (.str wanted) data f m₁) :
      Asks L (askLevel L.program.isAsync n) wanted data
        (fun v => rest v >>= thenChoice L.program (powers (L.depth + 1)) L.stage) m₁
  | layout {wanted : String} {f : Value} {b : Books} {texts : List String}
      {fields more : List (String × Value)} {n : Nat} {m m₁ : Machine} (hn : L.depth = n + 1)
      (hrun : Ends (block (powers (L.depth + 1)) L.stage.here L.program.own) L.start .next m)
      (hspares : Spares L.start m) (hbooks : Underway L.stage b (texts.map .str).toArray m)
      (hwanted : b.layout = .str wanted) (hdata : IsMapping L.stage.data fields m)
      (hmore : IsMapping b.layoutData more m)
      (hasked : Asked L.program.isAsync L.stage
        (m.withCell (mappingCell (merged fields ("".intercalate texts) more))) (.str wanted)
        (.ref m.heap.size) f m₁) :
      Asks L (askLevel L.program.isAsync n) wanted (.ref m.heap.size)
        (replaceOutput (powers (L.depth + 1)) L.stage) m₁

section Asks

variable {env : Nat} {isAsync : Bool} {wanted wanted' : String} {data data' options : Value}
  {m m₁ : Machine} {L : Level} {k : Nat} {rest : Value → Eval Flow}

theorem Asks.spares (h : Asks L k wanted data rest m₁) : Spares L.start m₁ := by
  cases h with
  | inclusion hrun hspares hargs hasked =>
      exact hspares.trans (.ofKeeps hasked.keeps.1 hasked.keeps.2)
  | layout hn hrun hspares hbooks hwanted hdata hmore hasked =>
      have hkeeps := (Keeps.withCell _ _).trans hasked.keeps.1
      exact hspares.trans (.ofKeeps hkeeps hasked.keeps.2)

/-- A level asks in its own name. -/
theorem Asks.parentName (hbegun : Begun env isAsync wanted data options m L)
    (h : Asks L k wanted' data' rest m₁) :
    Ends (Machine.parentName L.stage.options) m₁ L.template.name m₁ := by
  obtain ⟨id, hid, hcell⟩ := hbegun.ownOptions
  rw [hid]
  exact parentName_ends (h.spares.options hcell)

/-- **What the lines of a level ask for is rendered there**, and they go on with the text. -/
theorem Asks.run (hbegun : Begun env isAsync wanted data options m L)
    (h : Asks L k wanted' data' rest m₁) :
    (block (powers (L.depth + 1)) L.stage.here L.program.inner).run L.start
      = (renderNamed (powers k) env isAsync (.str wanted') data' L.stage.options >>= rest).run m₁ := by
  rw [← hbegun.environment_eq, ← hbegun.isAsync_eq]
  unfold Program.inner
  rw [block_append]
  cases h with
  | @inclusion _ _ f args rest n m₀ _ hrun hspares hargs hasked =>
      obtain ⟨b, items, hunderway⟩ := hspares.renders hbegun.underway
      have hasked := hasked.run hunderway hargs n
      have hlines := (run_bind_congr hrun (thenChoice L.program (powers (L.depth + 1)) L.stage))
      rw [bind_assoc] at hlines
      show (block _ _ L.program.own >>= thenChoice L.program _ L.stage).run _ = _
      exact hlines.trans (run_bind_congr hasked _)
  | layout hn hrun hspares hbooks hwanted hdata hmore hasked =>
      rw [← hwanted] at hasked ⊢
      have hchoice := Program.choice_asks hbooks (by rw [hwanted]; simp) hdata hmore hasked
      rw [hn] at hrun ⊢
      exact (run_bind_ok hrun _).trans (hchoice _)

end Asks

/-! ## §5. Levels one inside the other. -/

/-- **Levels one inside the other**: those that ask, outermost first, and the innermost one. -/
inductive Chain (env : Nat) (isAsync : Bool) :
    Nat → String → Value → Value → Machine → List Level → Level → Prop where
  | last {wanted : String} {data options : Value} {m : Machine} {L : Level}
      (hbegun : Begun env isAsync wanted data options m L) :
      Chain env isAsync (L.depth + 2) wanted data options m [] L
  | more {wanted wanted' : String} {data data' options : Value} {m m₁ : Machine} {L inner : Level}
      {levels : List Level} {k : Nat} {rest : Value → Eval Flow}
      (hbegun : Begun env isAsync wanted data options m L) (hasks : Asks L k wanted' data' rest m₁)
      (hrest : Chain env isAsync k wanted' data' L.stage.options m₁ levels inner) :
      Chain env isAsync (L.depth + 2) wanted data options m (L :: levels) inner

/-- The templates around the innermost level of a chain, innermost first. -/
def templatesOf (levels : List Level) : List Template := (levels.map Level.template).reverse

theorem templatesOf_cons (L : Level) (levels : List Level) (around : List Template) :
    templatesOf (L :: levels) ++ around = templatesOf levels ++ L.template :: around := by
  simp [templatesOf]

/-- Their names, outermost first. -/
def namesOf (levels : List Level) : List String :=
  levels.map fun L => RenderContext.nameOr L.template.name

/-- What the context of the innermost level says of the levels around it. -/
theorem context_stack (limit : Int) (t : Template) (levels : List Level) :
    ((entryOf limit t).context ((templatesOf levels).map (entryOf limit))).stack = namesOf levels := by
  have hlabel : ∀ L : Level, (entryOf limit L.template).label = RenderContext.nameOr L.template.name :=
    fun L => (nameOr_eq_label _).symm
  simp [Entry.context, templatesOf, namesOf, hlabel, Function.comp_def]

section Chain

variable {env : Nat} {isAsync : Bool} {k : Nat} {wanted : String} {data options : Value}
  {m : Machine} {levels : List Level} {inner : Level} {shared : Shared} {around : List Template}

/-- What is known of the innermost level. -/
structure Innermost (env : Nat) (isAsync : Bool) (shared : Shared) (around : List Template)
    (L : Level) : Prop where
  begun : ∃ wanted data options m, Begun env isAsync wanted data options m L
  environment : L.stage.environment = env
  context : L.start.context = contextWithin shared.environment.maxDepth (L.template :: around)
  shared : L.stage.shared = shared

theorem Begun.innermost (h : Begun env isAsync wanted data options m inner)
    (hshared : m.environments[env]? = some shared)
    (hcontext : m.context = contextWithin shared.environment.maxDepth around) :
    Innermost env isAsync shared around inner := by
  refine ⟨⟨_, _, _, _, h⟩, h.environment_eq, ?_, h.shared_eq hshared⟩
  rw [h.context_eq hshared, hcontext, entered_within]

/-- The world and the context on the way to the next level. -/
theorem Asks.world {wanted' : String} {data' : Value} {rest : Value → Eval Flow} {m₁ : Machine}
    {L : Level} (h : Begun env isAsync wanted data options m L) (hasks : Asks L k wanted' data' rest m₁)
    (hshared : m.environments[env]? = some shared)
    (hcontext : m.context = contextWithin shared.environment.maxDepth around) :
    m₁.environments[env]? = some shared
      ∧ m₁.context = contextWithin shared.environment.maxDepth (L.template :: around) := by
  rw [hasks.spares.environments, hasks.spares.context, h.keeps.environments]
  exact ⟨hshared, (h.innermost hshared hcontext).context⟩

theorem Chain.innermost (h : Chain env isAsync k wanted data options m levels inner)
    (hshared : m.environments[env]? = some shared)
    (hcontext : m.context = contextWithin shared.environment.maxDepth around) :
    Innermost env isAsync shared (templatesOf levels ++ around) inner := by
  induction h generalizing around with
  | last hbegun => exact hbegun.innermost hshared hcontext
  | more hbegun hasks hrest ih =>
      obtain ⟨hshared, hcontext⟩ := hasks.world hbegun hshared hcontext
      rw [templatesOf_cons]
      exact ih hshared hcontext

/-- **An error of the library leaves every level as it is**, and the context before the outermost one
is back. -/
theorem Chain.raises (h : Chain env isAsync k wanted data options m levels inner)
    (hshared : m.environments[env]? = some shared)
    (hcontext : m.context = contextWithin shared.environment.maxDepth around)
    (hroom : ((around.length + levels.length : Nat) : Int) ≤ shared.environment.maxDepth)
    {id : Nat} {e : Raised} {m₂ : Machine}
    (hcore : (block (powers (inner.depth + 1)) inner.stage.here inner.program.core).run inner.start
      = (.error (.raised id), m₂))
    (hspares : Spares inner.start m₂) (hcell : m₂.heap[id]? = some (.error e))
    (hbelow : ErrorClass.isBelow e.className "TemplateError" = true) :
    (renderNamed (powers k) env isAsync (.str wanted) data options).run m
        = (.error (.raised id), { m₂ with context := m.context })
      ∧ Spares m { m₂ with context := m.context } := by
  have hleaves : Leaves (.error (.raised id) : Except Signal Value) m₂ :=
    ⟨e, hcell, ErrorClass.isBelow_stop hbelow⟩
  induction h generalizing around with
  | last hbegun =>
      have hwithin : (around.length : Int) ≤ shared.environment.maxDepth := by simpa using hroom
      have hentered := enter_within hwithin
      rw [← hcontext] at hentered
      exact ⟨hbegun.run hshared (hentered _) (run_bind_error hcore _) fun _ => hleaves,
        .inside hbegun.keeps hspares⟩
  | @more _ _ _ _ _ m m₁ L inner levels k rest hbegun hasks hrest ih =>
      obtain ⟨hshared', hcontext'⟩ := hasks.world hbegun hshared hcontext
      have hroom' : (((L.template :: around).length + levels.length : Nat) : Int)
          ≤ shared.environment.maxDepth := by
        simp only [List.length_cons] at hroom ⊢
        omega
      obtain ⟨hrender, hspares'⟩ := ih hshared' hcontext' hroom' hcore hspares
      have hpast := hasks.spares.trans hspares'
      -- the handlers of this level let the error pass
      obtain ⟨b, items, hunderway⟩ := hpast.renders hbegun.underway
      obtain ⟨vars, hat, _⟩ := hunderway.frame
      have hinner := (hasks.run hbegun).trans (run_bind_error hrender _)
      have hcore' := Program.core_raises hinner hat hcell hbelow
      have hwithin : (around.length : Int) ≤ shared.environment.maxDepth := by
        rw [List.length_cons] at hroom
        omega
      have hentered := enter_within hwithin
      rw [← hcontext] at hentered
      have hrun := hbegun.run hshared (hentered _) (run_bind_error hcore' finish) fun _ => hleaves
      have hinside := Spares.inside hbegun.keeps hpast
      exact ⟨hrun, hinside⟩

end Chain

end RenderFunction

end TagTemplate
