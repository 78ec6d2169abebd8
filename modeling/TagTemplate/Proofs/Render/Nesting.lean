/-
  TagTemplate.Proofs.Render.Nesting
  ────────────────────────────────
  **HOW RENDERS NEST.**

  Renders are entered and left in any order in which this is possible:
  an entry may be refused, and a render may end with an error.  What the
  machine keeps is the current context and, for every render that is still
  open, the context to go back to (`Nesting`).

  The list of the entries that are still open says all of it: it is evolved
  by itself (`stillOpen`), and every context is read off from it
  (`contextOf`).

      events:    enter a   enter b   raise    enter c
      open:      [a]       [b, a]    [a]      [c, a]
-/
import TagTemplate.Machine.Render

namespace TagTemplate

/-! ## §1. Entering and leaving. -/

/-- What is asked for by a render that begins. -/
structure Entry where
  /-- The name of the template. -/
  name : Option String
  /-- The path of its file. -/
  filename : Option String
  /-- The limit of its environment. -/
  limit : Int

/-- The current context, and what the open renders go back to, innermost first. -/
structure Nesting where
  /-- The current context. -/
  current : Option RenderContext := none
  /-- The contexts to go back to. -/
  around : List (Option RenderContext) := []

namespace Nesting

/-- Enter a render. -/
def enter (s : Nesting) (e : Entry) : Except Fault Nesting := do
  let c ← RenderContext.enter s.current e.name e.filename e.limit
  return { current := some c, around := s.current :: s.around }

/-- Leave the innermost render. -/
def leave (s : Nesting) : Nesting :=
  match s.around with
  | before :: around => { current := before, around }
  | [] => s

/-- What may happen to renders. -/
inductive Event where
  /-- One is asked for. -/
  | enter (e : Entry)
  /-- The innermost one ends. -/
  | finish
  /-- The innermost one ends with an error. -/
  | raise

/-- What an event does; an entry that is refused does nothing. -/
def step (s : Nesting) : Event → Nesting
  | .enter e =>
    match s.enter e with
    | .ok inner => inner
    | .error _ => s
  | .finish | .raise => s.leave

/-- What events do, from outside all renders. -/
def run (events : List Event) : Nesting := events.foldl step {}

end Nesting

/-! ## §2. The entries that are still open. -/

/-- The name under which other renders know this one. -/
def Entry.label (e : Entry) : String :=
  match e.name with
  | some name => if name = "" then "<string>" else name
  | none => "<string>"

/-- The limit of the outermost render. -/
def rootLimit (e : Entry) : List Entry → Int
  | [] => e.limit
  | o :: outer => rootLimit o outer

/-- The context of an open render with others around it, innermost first. -/
def Entry.context (e : Entry) (outer : List Entry) : RenderContext where
  templateName := e.name
  filename := e.filename
  depth := outer.length
  limit := rootLimit e outer
  stack := (outer.map Entry.label).reverse

/-- The context inside of open renders. -/
def contextOf : List Entry → Option RenderContext
  | [] => none
  | e :: outer => some (e.context outer)

theorem mem_contextOf {entries : List Entry} {c : RenderContext} (h : c ∈ contextOf entries) :
    ∃ e outer, entries = e :: outer ∧ c = e.context outer := by
  cases entries with
  | nil => exact absurd h (by simp [contextOf])
  | cons e outer =>
      injection h with h
      exact ⟨e, outer, rfl, h.symm⟩

/-- The contexts around each of the open renders. -/
def contextsAround : List Entry → List (Option RenderContext)
  | [] => []
  | _ :: outer => contextOf outer :: contextsAround outer

/-- Whether one more render is refused: there are as many around the innermost one as the outermost
one allows. -/
def isFull : List Entry → Bool
  | [] => false
  | e :: outer => decide (rootLimit e outer ≤ outer.length)

/-- What an event does to the open entries. -/
def stillOpen (entries : List Entry) : Nesting.Event → List Entry
  | .enter e => if isFull entries then entries else e :: entries
  | .finish | .raise => entries.tail

/-- The entries that are open after some events. -/
def openAfter (events : List Nesting.Event) : List Entry := events.foldl stillOpen []

/-! ## §3. What one event preserves. -/

theorem nameOr_eq_label (e : Entry) : RenderContext.nameOr e.name = e.label := by
  unfold RenderContext.nameOr Report.given Entry.label
  cases e.name with
  | none => rfl
  | some name =>
      by_cases h : name = ""
      · subst h
        rfl
      · rw [Option.filter_some_pos (by simp [h])]
        show name = if name = "" then "<string>" else name
        rw [if_neg h]

/-- The context of a render that another one asks for. -/
theorem child_context (o e : Entry) (outer : List Entry) :
    (o.context outer).child e.name e.filename = e.context (o :: outer) := by
  unfold RenderContext.child
  rw [show (o.context outer).templateName = o.name from rfl, nameOr_eq_label]
  simp [Entry.context, rootLimit]

/-- At the limit an entry is refused. -/
theorem checkDepth_full {o : Entry} {outer : List Entry} (hfull : isFull (o :: outer) = true)
    (name : Option String) :
    (o.context outer).checkDepth name
      = .error (.template (.failure ((o.context outer).depthReport name))) := by
  unfold RenderContext.checkDepth
  exact if_pos (of_decide_eq_true hfull)

/-- Below the limit it is not. -/
theorem checkDepth_not_full {o : Entry} {outer : List Entry} (hfull : isFull (o :: outer) = false)
    (name : Option String) : (o.context outer).checkDepth name = .ok () := by
  unfold RenderContext.checkDepth
  exact if_neg (of_decide_eq_false hfull)

/-- A state is what the open entries say. -/
structure Nesting.Shows (s : Nesting) (entries : List Entry) : Prop where
  /-- The current context. -/
  current : s.current = contextOf entries
  /-- The contexts to go back to. -/
  around : s.around = contextsAround entries

namespace Nesting.Shows

variable {s : Nesting} {entries : List Entry}

/-- An entry that is refused fails with the depth of the current context. -/
theorem enter_full (h : s.Shows entries) (hfull : isFull entries = true) (e : Entry) :
    ∃ c ∈ s.current,
      s.enter e = .error (.template (.failure (c.depthReport e.name))) := by
  cases entries with
  | nil => exact absurd hfull (by simp [isFull])
  | cons o outer =>
      refine ⟨o.context outer, h.current, ?_⟩
      unfold Nesting.enter RenderContext.enter
      rw [h.current]
      simp only [contextOf]
      rw [checkDepth_full hfull]
      rfl

/-- An entry that is not refused opens a render with its own context. -/
theorem enter_not_full (h : s.Shows entries) (hfull : isFull entries = false) (e : Entry) :
    s.enter e = .ok ⟨contextOf (e :: entries), contextsAround (e :: entries)⟩ := by
  unfold Nesting.enter RenderContext.enter
  rw [h.current, h.around]
  cases entries with
  | nil => rfl
  | cons o outer =>
      simp only [contextOf]
      rw [checkDepth_not_full hfull, ← child_context]
      rfl

/-- **A state goes on showing the open entries**, whatever happens. -/
theorem step (h : s.Shows entries) (event : Event) :
    (s.step event).Shows (stillOpen entries event) := by
  have hleave : s.leave.Shows entries.tail := by
    unfold Nesting.leave
    rw [h.around]
    cases entries with
    | nil => exact h
    | cons e outer => exact ⟨rfl, rfl⟩
  cases event with
  | enter e =>
      show (match s.enter e with | .ok inner => inner | .error _ => s : Nesting).Shows
        (if isFull entries then entries else e :: entries)
      cases hfull : isFull entries with
      | true =>
          obtain ⟨_, _, hrefused⟩ := h.enter_full hfull e
          rw [hrefused]
          exact h
      | false =>
          rw [h.enter_not_full hfull e]
          exact ⟨rfl, rfl⟩
  | finish => exact hleave
  | raise => exact hleave

/-- From one state on, any number of events. -/
theorem foldl : ∀ (events : List Event) {s : Nesting} {entries : List Entry}, s.Shows entries →
    (events.foldl Nesting.step s).Shows (events.foldl stillOpen entries)
  | [], _, _, h => h
  | event :: events, _, _, h => foldl events (h.step event)

end Nesting.Shows

/-- No more renders are open than the outermost one allows, unless it allows none. -/
def IsBounded : List Entry → Prop
  | [] => True
  | e :: outer => 0 ≤ rootLimit e outer → (outer.length : Int) ≤ rootLimit e outer

theorem IsBounded.step {entries : List Entry} (h : IsBounded entries) (event : Nesting.Event) :
    IsBounded (stillOpen entries event) := by
  have hleave : IsBounded entries.tail := by
    cases entries with
    | nil => trivial
    | cons e outer =>
        cases outer with
        | nil => trivial
        | cons o outer =>
            -- the outermost entry stays, and there is one less around the innermost
            intro hroot
            have := h hroot
            simp only [rootLimit, List.length_cons] at this
            show (outer.length : Int) ≤ rootLimit o outer
            omega
  cases event with
  | enter e =>
      show IsBounded (if isFull entries then entries else e :: entries)
      cases hfull : isFull entries with
      | true => exact h
      | false =>
          cases entries with
          | nil => exact fun hroot => hroot
          | cons o outer =>
              -- below the limit there is room for one more
              intro _
              have hbelow : ¬ rootLimit o outer ≤ outer.length := of_decide_eq_false hfull
              show ((o :: outer).length : Int) ≤ rootLimit o outer
              rw [List.length_cons]
              omega
  | finish => exact hleave
  | raise => exact hleave

theorem IsBounded.foldl : ∀ (events : List Nesting.Event) {entries : List Entry},
    IsBounded entries → IsBounded (events.foldl stillOpen entries)
  | [], _, h => h
  | event :: events, _, h => IsBounded.foldl events (h.step event)

/-! ## §4. The machine. -/

namespace Machine

variable {α β : Type} {m m' : Machine}

/-- A computation goes on behind a part that succeeds. -/
theorem run_bind_ok {x : Eval α} {a : α} (h : x.run m = (.ok a, m')) (f : α → Eval β) :
    (x >>= f).run m = (f a).run m' := by
  show ExceptT.bindCont f (x.run m).1 (x.run m).2 = _
  rw [h]
  rfl

/-- A computation ends with a part that fails. -/
theorem run_bind_error {x : Eval α} {e : Signal} (h : x.run m = (.error e, m'))
    (f : α → Eval β) : (x >>= f).run m = (.error e, m') := by
  show ExceptT.bindCont f (x.run m).1 (x.run m).2 = _
  rw [h]
  rfl

/-- A fault is raised as an error, and the context stays as it is. -/
theorem failWith_run (fault : Fault) (m : Machine) :
    ∃ id m', m'.context = m.context
      ∧ ∀ {α : Type}, (failWith fault : Eval α).run m = (.error (.raised id), m') := by
  cases fault with
  | template e => exact ⟨m.heap.size, { m with heap := m.heap.push _ }, rfl, rfl⟩
  | script className text => exact ⟨m.heap.size, { m with heap := m.heap.push _ }, rfl, rfl⟩

theorem sharedAt_run {id : Nat} {shared : Shared} (h : m.environments[id]? = some shared) :
    (sharedAt id).run m = (.ok shared, m) := by
  unfold sharedAt
  rw [run_bind_ok (x := get) rfl, h]
  rfl

theorem ofOutcome_run (r : Except Signal α) (m : Machine) :
    (handling.ofOutcome r).run m = (r, m) := by
  cases r with
  | ok a => rfl
  | error e => rfl

/-- A render that is refused does not begin. -/
theorem inContext_refused {t : Template} {shared : Shared} {fault : Fault}
    (hshared : m.environments[t.environment]? = some shared)
    (hrefused : RenderContext.enter m.context t.name t.filename shared.environment.maxDepth
      = .error fault) (body : Eval α) :
    (inContext t body).run m = (failWith fault : Eval α).run m := by
  obtain ⟨id, m', _, hraised⟩ := failWith_run fault m
  unfold inContext
  rw [run_bind_ok (sharedAt_run hshared), run_bind_ok (x := get) rfl]
  dsimp only
  rw [hrefused]
  exact (run_bind_error hraised _).trans hraised.symm

/-- A render that is not refused runs in its context, and the context before it is back however the
render ends. -/
theorem inContext_entered {t : Template} {shared : Shared} {c : RenderContext}
    (hshared : m.environments[t.environment]? = some shared)
    (hentered : RenderContext.enter m.context t.name t.filename shared.environment.maxDepth
      = .ok c) (body : Eval α) :
    (inContext t body).run m
      = ((body.run { m with context := some c }).1,
          { (body.run { m with context := some c }).2 with context := m.context }) := by
  unfold inContext
  rw [run_bind_ok (sharedAt_run hshared), run_bind_ok (x := get) rfl]
  dsimp only
  rw [hentered, run_bind_ok (x := ofExcept (.ok c)) rfl,
      run_bind_ok (x := modify fun m => { m with context := some c }) rfl,
      run_bind_ok (x := outcome body) rfl,
      run_bind_ok (x := modify fun s => { s with context := m.context }) rfl, ofOutcome_run]
  rfl

end Machine

namespace Nesting

/-- Renders of templates enter and leave as a state says: one that is refused raises its fault and
does not begin, any other runs inside, and however it ends it is left. -/
def Renders (s : Nesting) : Prop :=
  ∀ {α : Type} (t : Machine.Template) (body : Machine.Eval α) (m : Machine)
    (shared : Machine.Shared), m.context = s.current →
    m.environments[t.environment]? = some shared →
    match s.enter ⟨t.name, t.filename, shared.environment.maxDepth⟩ with
    | .error fault =>
      (Machine.inContext t body).run m = (Machine.failWith fault : Machine.Eval α).run m
        ∧ ((Machine.inContext t body).run m).2.context = m.context
    | .ok inner =>
      let ended := body.run { m with context := inner.current }
      (Machine.inContext t body).run m
        = (ended.1, { ended.2 with context := inner.leave.current })

theorem renders (s : Nesting) : s.Renders := by
  intro α t body m shared hm hshared
  unfold Nesting.enter
  simp only
  cases hr : RenderContext.enter s.current t.name t.filename shared.environment.maxDepth with
  | error fault =>
      rw [← hm] at hr
      have hrun := Machine.inContext_refused hshared hr body
      obtain ⟨id, m', hm', hraised⟩ := Machine.failWith_run fault m
      refine ⟨hrun, ?_⟩
      rw [hrun, hraised]
      exact hm'
  | ok c =>
      rw [← hm] at hr ⊢
      exact Machine.inContext_entered hshared hr body

/-! ## §5. THE THEOREM. -/

/-- What holds while renders are entered and left, given the entries that are still open. -/
structure IsNested (s : Nesting) (entries : List Entry) : Prop extends s.Shows entries where
  /-- The depth is the number of the names that are kept. -/
  depth_eq : ∀ c ∈ s.current, c.depth = c.stack.length
  /-- The depth is within the limit. -/
  depth_le : ∀ c ∈ s.current, 0 ≤ c.limit → c.depth ≤ c.limit
  /-- An outermost render is never refused. -/
  outermost : s.current = none → ∀ e, ∃ inner, s.enter e = .ok inner
  /-- Any other is refused at the limit, and only there. -/
  refused_iff : ∀ c ∈ s.current, 0 ≤ c.limit →
    ∀ e, (∃ fault, s.enter e = .error fault) ↔ c.depth = c.limit
  /-- A refused entry fails with the depth of the current context and changes nothing. -/
  refused : ∀ e fault, s.enter e = .error fault → s.step (.enter e) = s
    ∧ ∃ c ∈ s.current, ∃ error : TemplateError, fault = .template error
      ∧ error = .failure (c.depthReport e.name) ∧ error.className = "IncludeDepthError"
  /-- Renders of templates enter and leave in this way. -/
  renders : s.Renders

namespace Shows

variable {s : Nesting} {entries : List Entry}

/-- Within the limit, an entry is refused when the depth has reached it, and only then. -/
theorem refused_iff (h : s.Shows entries) (hbounded : IsBounded entries) {c : RenderContext}
    (hc : c ∈ s.current) (hlimit : 0 ≤ c.limit) (e : Entry) :
    (∃ fault, s.enter e = .error fault) ↔ c.depth = c.limit := by
  rw [h.current] at hc
  obtain ⟨o, outer, rfl, rfl⟩ := mem_contextOf hc
  have hle : (outer.length : Int) ≤ rootLimit o outer := hbounded hlimit
  show _ ↔ (outer.length : Int) = rootLimit o outer
  -- within the limit, to have reached it is to be at it
  cases hfull : isFull (o :: outer) with
  | true =>
      obtain ⟨_, _, hrefused⟩ := h.enter_full hfull e
      have hge : rootLimit o outer ≤ outer.length := of_decide_eq_true hfull
      exact ⟨fun _ => by omega, fun _ => ⟨_, hrefused⟩⟩
  | false =>
      have hlt : ¬ rootLimit o outer ≤ outer.length := of_decide_eq_false hfull
      rw [h.enter_not_full hfull e]
      exact ⟨fun ⟨_, hf⟩ => absurd hf (by simp), fun heq => absurd heq (by omega)⟩

/-- A refused entry fails with the depth of the current context and changes nothing. -/
theorem refused (h : s.Shows entries) {e : Entry} {fault : Fault}
    (hfault : s.enter e = .error fault) :
    s.step (.enter e) = s ∧ ∃ c ∈ s.current, ∃ error : TemplateError, fault = .template error
      ∧ error = .failure (c.depthReport e.name) ∧ error.className = "IncludeDepthError" := by
  have hstep : s.step (.enter e) = s := by
    show (match s.enter e with | .ok inner => inner | .error _ => s) = s
    rw [hfault]
  cases hfull : isFull entries with
  | true =>
      obtain ⟨c, hc, hrefused⟩ := h.enter_full hfull e
      rw [hfault] at hrefused
      injection hrefused with hrefused
      exact ⟨hstep, c, hc, _, hrefused, rfl, rfl⟩
  | false =>
      rw [h.enter_not_full hfull e] at hfault
      exact absurd hfault (by simp)

/-- A state that shows open entries within their limit is nested. -/
theorem isNested (h : s.Shows entries) (hbounded : IsBounded entries) : s.IsNested entries := by
  refine { h with depth_eq := ?_, depth_le := ?_, outermost := ?_,
                  refused_iff := fun c hc hlimit e => h.refused_iff hbounded hc hlimit e,
                  refused := fun e fault hfault => h.refused hfault, renders := s.renders }
  · intro c hc
    rw [h.current] at hc
    obtain ⟨e, outer, rfl, rfl⟩ := mem_contextOf hc
    simp [Entry.context]
  · intro c hc hlimit
    rw [h.current] at hc
    obtain ⟨e, outer, rfl, rfl⟩ := mem_contextOf hc
    exact hbounded hlimit
  · intro hnone e
    rw [h.current] at hnone
    cases entries with
    | nil => exact ⟨_, h.enter_not_full rfl e⟩
    | cons o outer => exact absurd hnone (by simp [contextOf])

end Shows

/-- **RENDERS NEST**: whatever is entered, refused, left and raised from outside all renders, the
current context is that of the innermost render that is still open, those around it are as they
were, and an entry is refused exactly at the limit of the outermost render. -/
theorem run_isNested (events : List Event) : (run events).IsNested (openAfter events) :=
  Shows.isNested (Shows.foldl events ⟨rfl, rfl⟩) (IsBounded.foldl events trivial)

/-- The limit of the outermost render holds, and an error leaves only the innermost one. -/
example :
    (run [.enter ⟨some "page", none, 1⟩, .enter ⟨some "", none, 9⟩, .enter ⟨some "nav", none, 9⟩,
      .raise]).current = some { templateName := some "page", limit := 1 } :=
  rfl

end Nesting

end TagTemplate
