/-
  TagTemplate.Proofs.Render.DepthLimit
  ────────────────────────────────
  **TEMPLATES THAT ASK FOR ONE ANOTHER WITHOUT END STOP AT THE LIMIT.**

  A template that always asks for the next one (`ComesToAsk`) makes a chain as
  long as there are calls to spare (`exists_chain`).  A level that is at the
  limit is refused the next template, and the failure leaves the whole chain.

    • `cycle_stops`: a cycle of templates, with the error that it ends with.
    • `Terminates.linesEnd`: lines that end do so below the limit.
-/
import TagTemplate.Proofs.Render.Loaded
import TagTemplate.Proofs.Render.Reports

namespace TagTemplate

open Script Machine

namespace RenderFunction

/-! ## §1. Templates that ask for the next one. -/

/-- **A template always asks for another one**: wherever it is asked for by a name that stands for it,
on a machine and with data that are `Ready`, its lines start and come to ask for the next one, again
with `Ready` data.  This takes no more than `cost` calls. -/
def ComesToAsk (env : Nat) (isAsync : Bool) (Ready : Machine → Value → Prop) (cost : Nat)
    (name next : String) : Prop :=
  ∀ {m : Machine} {wanted : String} {parent : Option String} {options data : Value},
    Ready m data → Ends (parentName options) m parent m → resolveName wanted parent = name →
    ∀ n, cost ≤ n → ∃ L, L.depth = n ∧ L.template.name = some name
      ∧ Begun env isAsync wanted data options m L
      ∧ ∃ k rest data' m₁, n ≤ k + cost ∧ Asks L k next data' rest m₁ ∧ Ready m₁ data'

/-- What the innermost level of a chain comes to ask for. -/
structure AsksNext (Ready : Machine → Value → Prop) (L : Level) (k : Nat) (next : String)
    (data : Value) (rest : Value → Eval Flow) (m : Machine) : Prop where
  asks : Asks L k next data rest m
  ready : Ready m data

/-- **A template whose only line includes another one always asks for it.** -/
theorem comesToAsk_include {env : Nat} {shared : Shared} {loader : Loader} {name text : String}
    {filename : Option String} {q : Quotation} (h : standsAlone (callWith includeName q).row = true)
    (hplain : IsPlain shared.environment)
    (hrecorded : (shared.environment.scan.debug && shared.environment.code.debug) = false)
    (hloader : shared.environment.blueprint.loader = some loader)
    (hloaded : ∀ files, loader.get files name = .ok ⟨text, filename⟩)
    (hplace : IsPlace (some name) filename)
    (hcut : scanTags shared.environment.scan.delimiters text.toList
      = ([([], (callAction includeName q h).span none)], [])) :
    ComesToAsk env false (fun m _ => m.environments[env]? = some shared) 1 name
      (String.ofList q.value) := by
  intro m wanted parent options data hready hparent hname n hn
  subst hname
  obtain ⟨n, rfl⟩ := Nat.exists_eq_add_of_le' hn
  obtain ⟨L, m₁, hdepth, hnamed, hbegun, _, hasks, hkeeps⟩ := exists_including h hready
    hplain hrecorded hloader hparent (hloaded _) hplace hcut data n
  refine ⟨L, hdepth, hnamed, hbegun, n, _, .none, m₁, Nat.le_refl _, hasks, ?_⟩
  show m₁.environments[env]? = some shared
  rw [hkeeps.environments, hbegun.keeps.environments]
  exact hready

section Sequence

variable {env : Nat} {isAsync : Bool} {Ready : Machine → Value → Prop} {cost : Nat}
  (name next : Nat → String)
  (hasks : ∀ i, ComesToAsk env isAsync Ready cost (name i) (next i))
  (hnext : ∀ i, resolveName (next i) (some (name i)) = name (i + 1))

include hasks hnext in
/-- **Templates that go on asking make a chain of any length**, if enough calls may nest. -/
theorem exists_chain (j : Nat) : ∀ (i : Nat) {m : Machine} {wanted : String} {parent : Option String}
    {options data : Value} (k : Nat), Ready m data → Ends (parentName options) m parent m →
    resolveName wanted parent = name i → (cost + 2) * (j + 1) ≤ k →
    ∃ levels L, Chain env isAsync k wanted data options m levels L ∧ levels.length = j
      ∧ levels.map (·.template.name) = (List.range j).map (fun n => some (name (i + n)))
      ∧ L.template.name = some (name (i + j))
      ∧ ∃ k' rest data' m₁, k ≤ k' + (cost + 2) * (j + 1)
        ∧ AsksNext Ready L k' (next (i + j)) data' rest m₁ := by
  induction j with
  | zero =>
      intro i m wanted parent options data k hready hparent hname hk
      obtain ⟨L, hdepth, hnamed, hbegun, k', rest, data', m₁, hk', hasked, hready'⟩ :=
        hasks i hready hparent hname (k - 2) (by omega)
      have hchain := Chain.last hbegun
      rw [show L.depth + 2 = k by omega] at hchain
      exact ⟨[], L, hchain, rfl, rfl, hnamed, k', rest, data', m₁, by omega, hasked, hready'⟩
  | succ j ih =>
      intro i m wanted parent options data k hready hparent hname hk
      have hroom : (cost + 2) * (j + 1 + 1) = (cost + 2) * (j + 1) + (cost + 2) := Nat.mul_succ _ _
      obtain ⟨L, hdepth, hnamed, hbegun, k', rest, data', m₁, hk', hasked, hready'⟩ :=
        hasks i hready hparent hname (k - 2) (by omega)
      have hown := hasked.parentName hbegun
      rw [hnamed] at hown
      obtain ⟨levels, inner, hchain, hlength, hnames, hinner, k₂, rest₂, data₂, m₂, hk₂, hasks₂⟩ :=
        ih (i + 1) k' hready' hown (hnext i) (by omega)
      have hchain' := Chain.more hbegun hasked hchain
      rw [show L.depth + 2 = k by omega] at hchain'
      have hshift : ∀ n, i + 1 + n = i + (n + 1) := by omega
      refine ⟨L :: levels, inner, hchain', by rw [List.length_cons, hlength], ?_, ?_, k₂, rest₂, data₂,
        m₂, by omega, ?_⟩
      · rw [List.map_cons, hnames, List.range_succ_eq_map, List.map_cons, List.map_map, hnamed]
        simp only [hshift]
        rfl
      · rw [hinner, hshift]
      · rw [← hshift]
        exact hasks₂

end Sequence

/-! ## §2. The limit. -/

/-- **The renders of levels are entered one inside of the other**, each in its own context. -/
def AllEntered (limit : Int) : List Template → List Level → Prop
  | _, [] => True
  | around, L :: levels =>
    RenderContext.enter (contextWithin limit around) L.template.name L.template.filename limit
        = .ok (entered (contextWithin limit around) L.template limit)
      ∧ L.start.context = some (entered (contextWithin limit around) L.template limit)
      ∧ AllEntered limit (L.template :: around) levels

/-- **A level asks for a template, and is refused it**, in some context. -/
def IsRefused (env : Nat) (isAsync : Bool) (limit : Int) (L : Level) (wanted : String)
    (c : RenderContext) : Prop :=
  ∃ k rest data m t m₁, Asks L k wanted data rest m
    ∧ Ends (wantedTemplate (powers k) env isAsync wanted L.stage.options) m t m₁ ∧ Keeps m m₁
    ∧ m₁.context = m.context
    ∧ RenderContext.enter m₁.context t.name t.filename limit
      = .error (.template (.failure (c.depthReport t.name)))

section Limit

variable {env : Nat} {isAsync : Bool} {k : Nat} {wanted : String} {data options : Value}
  {m : Machine} {levels : List Level} {last L : Level} {shared : Shared} {around : List Template}

/-- As many renders as the limit allows are entered. -/
theorem Chain.allEntered (h : Chain env isAsync k wanted data options m levels last)
    (hshared : m.environments[env]? = some shared)
    (hcontext : m.context = contextWithin shared.environment.maxDepth around)
    (hroom : ((around.length + levels.length : Nat) : Int) ≤ shared.environment.maxDepth) :
    AllEntered shared.environment.maxDepth around (levels ++ [last]) := by
  induction h generalizing around with
  | last hbegun =>
      have hentered := hbegun.context_eq hshared
      rw [hcontext] at hentered
      exact ⟨enter_within (by simpa using hroom) _, hentered, trivial⟩
  | more hbegun hasks hrest ih =>
      have hentered := hbegun.context_eq hshared
      obtain ⟨hshared', hcontext'⟩ := hasks.world hbegun hshared hcontext
      rw [hcontext] at hentered
      simp only [List.length_cons] at hroom
      exact ⟨enter_within (by omega) _, hentered,
        ih hshared' hcontext' (by simp only [List.length_cons]; omega)⟩

/-- What is refused is a failure of the level that asks. -/
theorem IsRefused.run {c : RenderContext} (hinnermost : Innermost env isAsync shared around L)
    {next : String} (h : IsRefused env isAsync shared.environment.maxDepth L next c) :
    ∃ id made name m', (block (powers (L.depth + 1)) L.stage.here L.program.inner).run L.start
        = (.error (.raised id), m')
      ∧ m'.heap[id]? = some (.error made) ∧ made.className = "IncludeDepthError"
      ∧ made.report = some (.failure (c.depthReport name)) ∧ Spares L.start m' := by
  obtain ⟨k, rest, data', m₁, t, m₂, hasks, hload, hkeeps, hcontext, hrefused⟩ := h
  obtain ⟨wanted, data, options, m, hbegun⟩ := hinnermost.begun
  obtain ⟨vars, hat, _⟩ := hbegun.underway.frame
  have hbelongs := wantedTemplate_belongs hload
  have hthere : m₂.environments[t.environment]? = some shared := by
    rw [hbelongs.environment, hkeeps.environments, hasks.spares.environments,
      ← hinnermost.environment, ← hinnermost.shared]
    exact hat.shared
  obtain ⟨id, made, m₃, hrun, hmade, hclass, hreport, hkeeps₃, hcontext₃⟩ :=
    render_refused hbelongs.isAsync hthere hrefused
      (show ErrorClass.isBelow "IncludeDepthError" "TemplateError" = true by decide +kernel)
      (powers k) data'
  have hrender : (renderNamed (powers k) env isAsync (.str next) data' L.stage.options).run m₁
      = (.error (.raised id), m₃) := by
    rw [renderNamed_eq]
    exact (run_bind_ok hload _).trans hrun
  refine ⟨id, made, t.name, m₃, (hasks.run hbegun).trans (run_bind_error hrender _), hmade, hclass,
    hreport, hasks.spares.trans ?_⟩
  exact .ofKeeps (hkeeps.trans hkeeps₃) (hcontext₃.trans hcontext)

/-- **A level at the limit is refused the template that it asks for**, in its own context. -/
theorem Innermost.isRefused (h : Innermost env isAsync shared around L)
    (hfull : shared.environment.maxDepth ≤ (around.length : Int)) {next : String} {data' : Value}
    {rest : Value → Eval Flow} {m₁ : Machine} {L' : Level}
    (hasks : Asks L (L'.depth + 2) next data' rest m₁)
    (hbegun : Begun env isAsync next data' L.stage.options m₁ L') :
    IsRefused env isAsync shared.environment.maxDepth L next
      ((entryOf shared.environment.maxDepth L.template).context
        (around.map (entryOf shared.environment.maxDepth))) := by
  -- the next template is loaded, and the context is that of the level
  obtain ⟨m₂, c₂, hload, hkeeps, hcontext, _⟩ := hbegun.started
  have hwithin : m₂.context = contextWithin shared.environment.maxDepth (L.template :: around) := by
    rw [hcontext, hasks.spares.context, h.context]
  obtain ⟨c, _, rfl, hrefused⟩ := enter_refused (o := L.template) hfull L'.template
  rw [← hwithin] at hrefused
  exact ⟨L'.depth + 2, rest, data', m₁, L'.template, m₂, hasks, hload, hkeeps, hcontext, hrefused⟩

/-- **The failure of a level that is refused a template is one of the library**, so it leaves the levels
around it as it is. -/
theorem Chain.refused (h : Chain env isAsync k wanted data options m levels L)
    (hshared : m.environments[env]? = some shared)
    (hcontext : m.context = contextWithin shared.environment.maxDepth around)
    (hroom : ((around.length + levels.length : Nat) : Int) ≤ shared.environment.maxDepth)
    {next : String} {c : RenderContext}
    (hrefused : IsRefused env isAsync shared.environment.maxDepth L next c) :
    ∃ id made asked m', (renderNamed (powers k) env isAsync (.str wanted) data options).run m
        = (.error (.raised id), m')
      ∧ m'.heap[id]? = some (.error made) ∧ made.className = "IncludeDepthError"
      ∧ made.report = some (.failure (c.depthReport asked)) ∧ m'.context = m.context := by
  have hinnermost := h.innermost hshared hcontext
  obtain ⟨_, _, _, _, hbegun⟩ := hinnermost.begun
  obtain ⟨id, made, asked, m₂, hinner, hmade, hclass, hreport, hspares⟩ := hrefused.run hinnermost
  obtain ⟨b, items, hunderway⟩ := hspares.renders hbegun.underway
  obtain ⟨vars, hat, _⟩ := hunderway.frame
  have hbelow : ErrorClass.isBelow made.className "TemplateError" = true := by
    rw [hclass]
    decide +kernel
  have hcore := Program.core_raises hinner hat hmade hbelow
  obtain ⟨hrun, _⟩ := h.raises hshared hcontext hroom hcore hspares hmade hbelow
  exact ⟨id, made, asked, _, hrun, hmade, hclass, hreport, rfl⟩

end Limit

/-! ## §3. Cycles. -/

/-- **A render that goes around in a cycle stops at the limit.**  As many renders as the limit allows are
entered inside of the first one, and the next one is refused.  The failure that leaves the first one
names the template that asked last and all that were around it, and no context is left behind. -/
def StopsAtLimit (env : Nat) (isAsync : Bool) (limit : Nat) (name next : Nat → String) (period k : Nat)
    (data : Value) (m : Machine) : Prop :=
  ∃ levels L id e r m', Chain env isAsync k (name 0) data .none m levels L
    ∧ (levels ++ [L]).map (·.template.name)
      = (List.range (limit + 1)).map (fun i => some (name (i % period)))
    ∧ AllEntered limit [] (levels ++ [L])
    ∧ (∃ c, IsRefused env isAsync limit L (next (limit % period)) c)
    ∧ (renderNamed (powers k) env isAsync (.str (name 0)) data .none).run m = (.error (.raised id), m')
    ∧ m'.heap[id]? = some (.error e) ∧ e.className = "IncludeDepthError"
    ∧ e.report = some (.failure r) ∧ r.templateName = some (name (limit % period))
    ∧ r.stack = (List.range limit).map (fun i => RenderContext.nameOr (some (name (i % period))))
    ∧ m'.context = none

/-- Templates that ask for one another in a cycle do so, if enough calls may nest. -/
theorem cycle_stops {env : Nat} {isAsync : Bool} {Ready : Machine → Value → Prop} {cost : Nat}
    {name next : Nat → String} {period : Nat} (hperiod : 0 < period)
    (hasks : ∀ i < period, ComesToAsk env isAsync Ready cost (name i) (next i))
    (hnext : ∀ i < period, resolveName (next i) (some (name i)) = name ((i + 1) % period))
    {m : Machine} {shared : Shared} {limit : Nat} {data : Value}
    (hshared : m.environments[env]? = some shared) (hlimit : shared.environment.maxDepth = limit)
    (houtside : m.context = none) (hready : Ready m data) :
    ∃ enough, ∀ k, enough ≤ k → StopsAtLimit env isAsync limit name next period k data m := by
  have hmod : ∀ i, i % period < period := fun i => Nat.mod_lt i hperiod
  have hasks' : ∀ i, ComesToAsk env isAsync Ready cost (name (i % period)) (next (i % period)) :=
    fun i => hasks _ (hmod i)
  have hnext' : ∀ i, resolveName (next (i % period)) (some (name (i % period)))
      = name ((i + 1) % period) := by
    intro i
    rw [hnext _ (hmod i), Nat.mod_add_mod]
  refine ⟨(cost + 2) * (limit + 2), fun k hk => ?_⟩
  have hsucc : (cost + 2) * (limit + 2) = (cost + 2) * (limit + 1) + (cost + 2) := Nat.mul_succ _ _
  have hparent : Ends (parentName .none) m none m := .pure
  have hfirst : resolveName (name 0) none = name (0 % period) := by
    rw [Nat.zero_mod]
    rfl
  obtain ⟨levels, L, hchain, hlength, hnames, hnamed, k', rest, data', m₁, hk', hasked, hready'⟩ :=
    exists_chain (fun i => name (i % period)) (fun i => next (i % period)) hasks' hnext' limit 0 k hready
      hparent hfirst (by omega)
  simp only [Nat.zero_add] at hnames hnamed hasked
  have hcontext : m.context = contextWithin shared.environment.maxDepth [] := houtside
  have hroom : ((([] : List Template).length + levels.length : Nat) : Int)
      ≤ shared.environment.maxDepth := by
    rw [hlength, hlimit]
    simp
  have hinnermost := hchain.innermost hshared hcontext
  rw [List.append_nil] at hinnermost
  -- the last level comes to ask for one more
  obtain ⟨_, _, _, _, hbegun⟩ := hinnermost.begun
  have hown := hasked.parentName hbegun
  rw [hnamed] at hown
  obtain ⟨L', hdepth', -, hbegun', -⟩ :=
    hasks' (limit + 1) hready' hown (hnext' limit) (k' - 2) (by omega)
  obtain rfl : L'.depth + 2 = k' := by omega
  have hfull : shared.environment.maxDepth ≤ ((templatesOf levels).length : Int) := by
    simp [templatesOf, hlength, hlimit]
  have hrefused := hinnermost.isRefused hfull hasked hbegun'
  obtain ⟨id, made, asked, m', hrun, hmade, hclass, hreport, hcontext'⟩ :=
    hchain.refused hshared hcontext hroom hrefused
  have hallEntered := hchain.allEntered hshared hcontext hroom
  rw [hlimit] at hallEntered hrefused
  refine ⟨levels, L, id, made, _, m', hchain, ?_, hallEntered, ⟨_, hrefused⟩, hrun, hmade, hclass,
    hreport, hnamed, (context_stack _ L.template levels).trans ?_, hcontext'.trans houtside⟩
  · rw [List.map_append, hnames, List.range_succ, List.map_append, List.map_singleton, hnamed]
    rfl
  · have hall : namesOf levels = (levels.map (·.template.name)).map RenderContext.nameOr := by
      simp [namesOf]
    rw [hall, hnames, List.map_map]
    rfl

/-! ## §4. Renders that end. -/

/-- An error is no failure of depth; where errors are reported, it is one of the library, or the handler
catches it on a line that is recorded. -/
def Shallow (debug : Bool) (s : Stage) (id : Nat) (m : Machine) : Prop :=
  ∃ e, m.heap[id]? = some (.error e) ∧ ErrorClass.isBelow e.className "StopIteration" = false
    ∧ ErrorClass.isBelow e.className "IncludeDepthError" = false
    ∧ (debug = true → ErrorClass.isBelow e.className "TemplateError" = false →
      Catches s m e.className ∧ ∃ b items line, Underway s b items m ∧ b.line = .int line ∧ line ≠ 0)

/-- **The lines of a level end, with templates inside of it nested no deeper than some number**: they go
on to the end, or fail, or ask for a template whose lines end, one level less deep, and end behind
it. -/
inductive Terminates (env : Nat) (isAsync debug : Bool) : Nat → Level → Eval Flow → Machine → Prop
  | done {d : Nat} {L : Level} {x : Eval Flow} {b : Books} {texts : List String} {m m' : Machine}
      (hrun : Ends x m .next m') (hspares : Spares m m')
      (hbooks : Underway L.stage b (texts.map .str).toArray m') : Terminates env isAsync debug d L x m
  | fails {d : Nat} {L : Level} {x : Eval Flow} {id : Nat} {m m' : Machine}
      (hrun : x.run m = (.error (.raised id), m')) (hspares : Spares m m')
      (herror : Shallow debug L.stage id m') : Terminates env isAsync debug d L x m
  | asks {d : Nat} {L inner : Level} {x : Eval Flow} {wanted : String} {data : Value}
      {rest : Value → Eval Flow} {m m₁ : Machine}
      (hrun : x.run m = (renderNamed (powers (inner.depth + 2)) env isAsync (.str wanted) data
        L.stage.options >>= rest).run m₁)
      (hspares : Spares m m₁) (hbegun : Begun env isAsync wanted data L.stage.options m₁ inner)
      (hdebug : inner.program.source.isSome = debug)
      (hinner : Terminates env isAsync debug d inner
        (block (powers (inner.depth + 1)) inner.stage.here inner.program.inner) inner.start)
      (hrest : ∀ v m₂, Spares m₁ m₂ →
        Ends (renderNamed (powers (inner.depth + 2)) env isAsync (.str wanted) data L.stage.options) m₁
          v m₂ → Terminates env isAsync debug d.succ L (rest v) m₂) :
      Terminates env isAsync debug d.succ L x m

/-- How lines end: they go on, or fail with an error that is no failure of depth. -/
inductive LinesEnd (debug : Bool) (L : Level) (x : Eval Flow) (m : Machine) : Prop
  | goesOn {b : Books} {texts : List String} {m' : Machine} (hrun : Ends x m .next m')
      (hspares : Spares m m') (hbooks : Underway L.stage b (texts.map .str).toArray m')
  | fails {id : Nat} {m' : Machine} (hrun : x.run m = (.error (.raised id), m'))
      (hspares : Spares m m') (herror : Shallow debug L.stage id m')

/-- How renders end: with a value, or with an error that is no failure of depth; where errors are
reported, it is one of the library. -/
inductive RenderEnds (debug : Bool) (x : Eval Value) (m : Machine) : Prop
  | value {v : Value} {m' : Machine} (hrun : Ends x m v m') (hspares : Spares m m')
  | fails {id : Nat} {e : Raised} {m' : Machine} (hrun : x.run m = (.error (.raised id), m'))
      (hspares : Spares m m') (hcell : m'.heap[id]? = some (.error e))
      (hstop : ErrorClass.isBelow e.className "StopIteration" = false)
      (hdepth : ErrorClass.isBelow e.className "IncludeDepthError" = false)
      (hlibrary : debug = true → ErrorClass.isBelow e.className "TemplateError" = true)

section Ending

variable {env : Nat} {isAsync debug : Bool} {wanted : String} {data options : Value} {m : Machine}
  {L : Level} {shared : Shared} {around : List Template}

/-- A report is no failure of depth. -/
theorem IsReport.isBelow_depth {made e : Raised} {cause : Nat} {line : Int} {place : Option String}
    {stack : List String} (h : IsReport made e cause line place stack m) :
    ErrorClass.isBelow made.className "IncludeDepthError" = false := by
  by_cases hnames : NamesUndefined e m
  · rw [h.undefined hnames]
    decide +kernel
  · rw [h.other hnames]
    decide +kernel

/-- **What becomes of a level whose lines end.** -/
theorem Begun.ends (h : Begun env isAsync wanted data options m L)
    (hshared : m.environments[env]? = some shared)
    (hcontext : m.context = contextWithin shared.environment.maxDepth around)
    (hroom : (around.length : Int) ≤ shared.environment.maxDepth)
    (hdebug : L.program.source.isSome = debug)
    (hlines : LinesEnd debug L (block (powers (L.depth + 1)) L.stage.here L.program.inner) L.start) :
    RenderEnds debug (renderNamed (powers (L.depth + 2)) env isAsync (.str wanted) data options) m := by
  have hentered := enter_within hroom L.template
  rw [← hcontext] at hentered
  cases hlines with
  | goesOn hinner hspares hbooks =>
    have hcore := L.program.core_returns hinner hbooks
    have hrun := h.run hshared hentered (Ends.bind (f := finish) hcore .pure) fun _ => trivial
    exact .value hrun (.inside h.keeps hspares)
  | @fails id m' hinner hspares herror =>
    obtain ⟨e, hcell, hstop, hdepth, hcaught⟩ := herror
    -- an error that the handlers do not change
    have hsame : (debug = true → ErrorClass.isBelow e.className "TemplateError" = true) →
        RenderEnds debug (renderNamed (powers (L.depth + 2)) env isAsync (.str wanted) data options)
          m := by
      intro hlibrary
      obtain ⟨b, items, hunderway⟩ := hspares.renders h.underway
      obtain ⟨vars, hat, _⟩ := hunderway.frame
      have hcore := Program.core_fails hinner (fun _ => ⟨rfl, rfl⟩)
        fun hsome => handlers_template hat hcell (hlibrary (hdebug ▸ hsome))
      have hrun := h.run hshared hentered (run_bind_error hcore finish) fun _ => ⟨e, hcell, hstop⟩
      exact .fails hrun (.inside h.keeps hspares) hcell hstop hdepth hlibrary
    by_cases hreported : debug = true ∧ ErrorClass.isBelow e.className "TemplateError" = false
    · obtain ⟨hon, hother⟩ := hreported
      obtain ⟨hcatches, b, items, line, hunderway, hline, hne⟩ := hcaught hon hother
      obtain ⟨oid, hoptions, hown⟩ := h.ownOptions
      have hsome := hdebug.trans hon
      have hwithin := hspares.context.trans (h.context_eq hshared)
      obtain ⟨made, id', m₂, hhandlers, hmade, hreport, hspares₂⟩ :=
        handlers_report hunderway (h.handles hsome) hcell hother hcatches hwithin hline hne hoptions
          (hspares.options hown) L.depth L.program.numbers.handlers
      have hcore := Program.core_fails hinner (fun hnone => by rw [hnone] at hsome; cases hsome)
        fun _ => hhandlers
      have hstop' := ErrorClass.isBelow_stop hreport.isBelow
      have hrun := h.run hshared hentered (run_bind_error hcore finish) fun _ => ⟨made, hmade, hstop'⟩
      exact .fails hrun (.inside h.keeps (hspares.trans hspares₂)) hmade hstop' hreport.isBelow_depth
        fun _ => hreport.isBelow
    · refine hsame fun hon => ?_
      rw [not_and, Bool.not_eq_false] at hreported
      exact hreported hon

/-- A level whose last line includes another template ends behind it. -/
theorem Begun.terminates_including {next : String} {data' : Value} {m₁ : Machine} {inner : Level}
    {d : Nat} (h : Begun env isAsync wanted data options m L)
    (hasks : Asks L (inner.depth + 2) next data'
      (fun _ => (return Flow.next) >>= thenChoice L.program (powers (L.depth + 1)) L.stage) m₁)
    (hkeeps : Keeps L.start m₁) (hbegun : Begun env isAsync next data' L.stage.options m₁ inner)
    (hdebug : inner.program.source.isSome = debug)
    (hinner : Terminates env isAsync debug d inner
      (block (powers (inner.depth + 1)) inner.stage.here inner.program.inner) inner.start)
    (hafter : ∀ v m₂, Ends (renderNamed (powers (inner.depth + 2)) env isAsync (.str next) data'
      L.stage.options) m₁ v m₂ → Keeps m₁ m₂) :
    Terminates env isAsync debug d.succ L
      (block (powers (L.depth + 1)) L.stage.here L.program.inner) L.start := by
  refine .asks (hasks.run h) hasks.spares hbegun hdebug hinner fun v m₂ hspares hends => ?_
  have hbooks : Underway L.stage L.books (([] : List String).map .str).toArray m₂ :=
    h.underway.keeps (hkeeps.trans (hafter v m₂ hends))
  exact .done (L.program.choice_none hbooks h.layout) (.refl m₂) hbooks

/-- **Lines that end within the limit are refused no template**: no failure of depth leaves them. -/
theorem Terminates.linesEnd {d : Nat} {x : Eval Flow} (h : Terminates env isAsync debug d L x m)
    (hlevel : Innermost env isAsync shared around L) (hspares : Spares L.start m)
    (hroom : ((around.length + d : Nat) : Int) ≤ shared.environment.maxDepth) :
    LinesEnd debug L x m := by
  induction h generalizing around with
  | done hrun hafter hbooks => exact .goesOn hrun hafter hbooks
  | fails hrun hafter herror => exact .fails hrun hafter herror
  | @asks d L inner x wanted data rest m m₁ hrun hbefore hbegun hdebug _ _ ihinner ihrest =>
      obtain ⟨wanted₀, data₀, options₀, m₀, hbegun₀⟩ := hlevel.begun
      obtain ⟨vars, hat, _⟩ := hbegun₀.underway.frame
      have hthere := hspares.trans hbefore
      have hshared : m₁.environments[env]? = some shared := by
        rw [hthere.environments, ← hlevel.environment, ← hlevel.shared]
        exact hat.shared
      have hcontext := hthere.context.trans hlevel.context
      have hroom' : (((L.template :: around).length + d : Nat) : Int)
          ≤ shared.environment.maxDepth := by
        rw [List.length_cons]
        omega
      have hinner := ihinner (hbegun.innermost hshared hcontext) (.refl _) hroom'
      have hrender := hbegun.ends hshared hcontext (by omega) hdebug hinner
      cases hrender with
      | @value v m₂ hvalue hafter =>
          have hx := hrun.trans (run_bind_ok hvalue rest)
          have hon := hbefore.trans hafter
          cases ihrest v m₂ hafter hvalue hlevel (hthere.trans hafter) hroom with
          | goesOn hends hlast hbooks => exact .goesOn (hx.trans hends) (hon.trans hlast) hbooks
          | fails hfails hlast herror => exact .fails (hx.trans hfails) (hon.trans hlast) herror
      | @fails id e m₂ hraised hafter hcell hstop hdepth hlibrary =>
          refine .fails (hrun.trans (run_bind_error hraised rest)) (hbefore.trans hafter)
            ⟨e, hcell, hstop, hdepth, fun hon hother => ?_⟩
          rw [hlibrary hon] at hother
          cases hother

end Ending

/-! ## §5. THE THEOREM. -/

/-- Two templates that include each other, and one that includes a text, where one render may stand
inside of another one. -/
def circle : Shared where
  environment := {
    blueprint := { loader := some (.mapping [("t0", "<% include('t1') %>"), ("t1", "<% include('t0') %>"),
      ("page", "<% include('part') %>"), ("part", "text")]) }
    maxDepth := 1
    scan := {}
    code := {} }

theorem circle_isPlain : IsPlain circle.environment := ⟨rfl, rfl, rfl, rfl, rfl⟩

theorem circle_asks : ComesToAsk 0 false (fun m _ => m.environments[0]? = some circle) 1 "t0" "t1"
    ∧ ComesToAsk 0 false (fun m _ => m.environments[0]? = some circle) 1 "t1" "t0" := by
  constructor
  · exact comesToAsk_include (q := literalQuotation "t1".toList) (by decide +kernel) circle_isPlain rfl rfl
      (fun _ => rfl) (by unfold IsPlace; decide) (by decide +kernel)
  · exact comesToAsk_include (q := literalQuotation "t0".toList) (by decide +kernel) circle_isPlain rfl rfl
      (fun _ => rfl) (by unfold IsPlace; decide) (by decide +kernel)


/-- The page includes a text that is there. -/
theorem circle_page : ∃ L, L.depth = 988
    ∧ Begun 0 false "page" .none .none { environments := #[circle] } L
    ∧ L.program.source.isSome = false
    ∧ Terminates 0 false false 1 L (block (powers (L.depth + 1)) L.stage.here L.program.inner)
      L.start := by
  let m : Machine := { environments := #[circle] }
  have hshared : m.environments[0]? = some circle := rfl
  have hparent : Ends (parentName .none) m none m := .pure
  have hpage : scanTags circle.environment.scan.delimiters "<% include('part') %>".toList
      = ([([], (callAction includeName (literalQuotation "part".toList) (by decide +kernel)).span none)],
        []) := by decide +kernel
  have hplace : ∀ name, name = "page" ∨ name = "part" → IsPlace (some name) none := by
    rintro name (rfl | rfl) <;> (unfold IsPlace; decide)
  obtain ⟨L, m₁, hdepth, hnamed, hbegun, hsource, hasks, hkeeps⟩ :=
    exists_including (by decide +kernel) hshared circle_isPlain rfl rfl hparent rfl
      (hplace _ (.inl rfl)) hpage .none 987
  have houtside : m.context = contextWithin circle.environment.maxDepth [] := rfl
  obtain ⟨hshared₁, hcontext⟩ := hasks.world hbegun hshared houtside
  have hpart : (scanTags circle.environment.scan.delimiters "text".toList).1 = [] := by decide +kernel
  obtain ⟨hsteps, hone⟩ := isSteps_text false (e := circle.environment) hpart (by decide)
  have hown := hasks.parentName hbegun
  rw [hnamed] at hown
  have hname : resolveName "part" (some (resolveName "page" none)) = "part" := by decide +kernel
  obtain ⟨inner, hinner, hbegun', _, _, hruns⟩ := exists_begun hshared₁ circle_isPlain hsteps rfl hown
    (by rw [hname]; rfl) (hplace _ (.inr hname)) .none 985
  obtain ⟨first, hown⟩ := hruns.own
  rw [hone] at hown
  obtain ⟨m₂, hlines, hspares, hkeeps₂, hbooks⟩ := hbegun'.ends_literal hown
  refine ⟨L, hdepth, hbegun, by rw [hsource]; rfl, ?_⟩
  have hcore := inner.program.core_returns hlines hbooks
  have hwithin : (([L.template] : List Template).length : Int) ≤ 1 := Int.le_refl 1
  have hentered := enter_within hwithin inner.template
  rw [← show m₁.context = contextWithin 1 [L.template] from hcontext] at hentered
  have hrun := hbegun'.run hshared₁ hentered (Ends.bind (f := finish) hcore .pure) fun _ => trivial
  have hask : Asks L (inner.depth + 2) "part" .none
      (fun _ => (return Flow.next) >>= thenChoice L.program (powers (L.depth + 1)) L.stage) m₁ := by
    rw [hinner]
    exact hasks
  refine hbegun.terminates_including hask hkeeps hbegun' ?_ (.done hlines hspares hbooks) ?_
  · rw [hruns.reports]
    rfl
  · intro v m₃ hends
    obtain ⟨_, rfl⟩ := hends.unique hrun
    exact hkeeps₂.trans (.withContext m₂ _)

end RenderFunction

end TagTemplate
