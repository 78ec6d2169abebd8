/-
  TagTemplate.Proofs.Render.Reports
  ────────────────────────────────
  **HOW ERRORS BECOME REPORTS.**

  An error that is no error of the library, and that the handler of a template
  catches, becomes a report in that template: its cause is the error, and it
  names the template, the line of the last tag and the templates around
  (`IsReport`).

    • `handlers_report`: what the handlers raise.
-/
import TagTemplate.Proofs.Machine.Journal
import TagTemplate.Proofs.Render.Nested

namespace TagTemplate

open Script Machine

namespace Machine

/-- The machine with other variables in a frame. -/
def withVars (m : Machine) (f : Nat) (g : List (String × Value) → List (String × Value)) : Machine :=
  { m with frames := m.frames.modify f fun fr => { fr with vars := g fr.vars } }

section Frames

variable {m : Machine} {fr other : Frame} {f k : Nat}
  {g : List (String × Value) → List (String × Value)}

theorem withVars_same (h : m.frames[f]? = some fr) :
    (m.withVars f g).frames[f]? = some { fr with vars := g fr.vars } := by
  show (m.frames.modify f _)[f]? = _
  rw [Array.getElem?_modify, if_pos rfl, h]
  rfl

theorem withVars_other (h : m.frames[k]? = some other) (hne : f ≠ k) :
    (m.withVars f g).frames[k]? = some other := by
  show (m.frames.modify f _)[k]? = _
  rw [Array.getElem?_modify, if_neg hne, h]

theorem lookup_filter_ne {vars : List (String × Value)} {name other : String} (h : other ≠ name) :
    (vars.filter (·.1 != name)).lookup other = vars.lookup other := by
  induction vars with
  | nil => rfl
  | cons e vars ih =>
      obtain ⟨n, v⟩ := e
      by_cases hn : n = name
      · subst hn
        rw [List.filter_cons_of_neg (by simp), ih, List.lookup_cons, beq_false_of_ne h]
      · rw [List.filter_cons_of_pos (by simpa using hn), List.lookup_cons, List.lookup_cons, ih]

end Frames

end Machine

namespace RenderFunction

/-! ## §1. Variables that the code of a render does not read. -/

section Variables

variable {s : Stage} {b : Books} {items : Array Value} {vars vars' : List (String × Value)}
  {m m' : Machine}

theorem Defines.withVars {t : Site} {name : Ident} {ps : Parameters} {body : Suite}
    (h : Defines t name ps body vars m) (hcells : m'.heap = m.heap)
    (hvars : vars'.lookup name.text = vars.lookup name.text) : Defines t name ps body vars' m' := by
  obtain ⟨id, line, hname, hcell⟩ := h
  exact ⟨id, line, hvars.trans hname, hcells ▸ hcell⟩

theorem Variables.withVars (h : Variables s b vars m) (hcells : m'.heap = m.heap)
    (hvars : ∀ name ∈ ownNames, vars'.lookup name = vars.lookup name) : Variables s b vars' m' where
  data := (hvars _ (by decide)).trans h.data
  options := (hvars _ (by decide)).trans h.options
  state := (hvars _ (by decide)).trans h.state
  append := (hvars _ (by decide)).trans h.append
  inclusion := h.inclusion.withVars hcells (hvars _ (by decide))
  inclusionAsync := h.inclusionAsync.withVars hcells (hvars _ (by decide))
  layout := h.layout.withVars hcells (hvars _ (by decide))

/-- Other variables than those that the code of a render reads may change. -/
theorem Underway.withVars {g : List (String × Value) → List (String × Value)}
    (hg : ∀ vars, ∀ name ∈ ownNames, (g vars).lookup name = vars.lookup name) {t : Site}
    {vars : List (String × Value)} (hat : t.At vars m) (h : Underway s b items m) :
    Underway s b items (m.withVars t.here g) := by
  obtain ⟨vars', hat', hvars'⟩ := h.frame
  have hprogram : ∀ {u : Stage} {us : List (String × Value)}, u.toSite.At us m → t.here ≠ u.top := by
    intro u us hu heq
    have hframe := hat.frame
    rw [heq, hu.program] at hframe
    cases congrArg (Option.map Frame.parent) hframe
  by_cases hhere : t.here = s.here
  · refine ⟨⟨g vars', ⟨?_, withVars_other hat'.program (hprogram hat'), hat'.shared⟩,
      hvars'.withVars rfl (hg vars')⟩, h.state, h.output⟩
    rw [← hhere]
    exact withVars_same (hhere ▸ hat'.frame)
  · exact ⟨⟨vars', ⟨withVars_other hat'.frame hhere, withVars_other hat'.program (hprogram hat'),
      hat'.shared⟩, hvars'.withVars rfl fun _ _ => rfl⟩, h.state, h.output⟩

theorem Spares.withVars {g : List (String × Value) → List (String × Value)}
    (hg : ∀ vars, ∀ name ∈ ownNames, (g vars).lookup name = vars.lookup name) {t : Site}
    {vars : List (String × Value)} (hat : t.At vars m) : Spares m (m.withVars t.here g) where
  renders h := ⟨_, _, h.withVars hg hat⟩
  options := id
  context := rfl
  environments := rfl
  surroundings := rfl

/-- The list of the errors that are being handled may change. -/
theorem Spares.withHandled (m : Machine) (handled : List Nat) : Spares m { m with handled } :=
  .ofKeeps ⟨id, id, rfl, rfl⟩ rfl

end Variables

/-! ## §2. Reports. -/

/-- The handler of a template catches errors of a class: that is what the name `Exception` stands for
there. -/
def Catches (s : Stage) (m : Machine) (className : String) : Prop :=
  ∃ v, (∀ handled, Ends (readName "Exception" s.here) { m with handled } v { m with handled })
    ∧ ∀ m, Ends (stands className v) m true m

/-- An error is one of a name that is not defined, and knows the name. -/
def NamesUndefined (e : Raised) (m : Machine) : Prop :=
  ErrorClass.isBelow e.className "NameError" = true ∧ ∃ v ∈ e.name, truthy m v = true

/-- **An error is the report on another one**, in the cell `cause`, that arose on a line of some place
with templates around it. -/
structure IsReport (made e : Raised) (cause : Nat) (line : Int) (place : Option String)
    (stack : List String) (m : Machine) : Prop where
  cause : made.cause = some cause
  report : ∃ r, made.report = some (.failure r) ∧ r.templateName = place ∧ r.lineno = some line
    ∧ r.stack = stack
  undefined : NamesUndefined e m → made.className = "UndefinedError"
  other : ¬ NamesUndefined e m → made.className = "TemplateRuntimeError"

/-- A report is an error of the library. -/
theorem IsReport.isBelow {made e : Raised} {cause : Nat} {line : Int} {place : Option String}
    {stack : List String} {m : Machine} (h : IsReport made e cause line place stack m) :
    ErrorClass.isBelow made.className "TemplateError" = true := by
  by_cases hnames : NamesUndefined e m
  · rw [h.undefined hnames]
    decide +kernel
  · rw [h.other hnames]
    decide +kernel

section Reports

variable {s : Stage} {b : Books} {items : Array Value} {m : Machine} {id : Nat} {e : Raised}
  {line : Int} {t : Template} {c : RenderContext}

/-- The class of a report. -/
theorem reportOn_class (m : Machine) (e : Raised) (scene : Scene) :
    (NamesUndefined e m → (TemplateError.failure (reportOn m e scene)).className = "UndefinedError")
      ∧ (¬ NamesUndefined e m →
        (TemplateError.failure (reportOn m e scene)).className = "TemplateRuntimeError") := by
  unfold reportOn undefinedName? NamesUndefined
  cases ErrorClass.isBelow e.className "NameError" with
  | false => exact ⟨fun h => absurd h.1 (by simp), fun _ => rfl⟩
  | true =>
      rw [if_pos rfl]
      cases e.name with
      | none => exact ⟨fun ⟨_, v, hv, _⟩ => absurd hv (by simp), fun _ => rfl⟩
      | some v =>
          cases htruthy : truthy m v with
          | false =>
              rw [Option.filter_some_neg (by simp [htruthy])]
              refine ⟨fun ⟨_, w, hw, hholds⟩ => ?_, fun _ => rfl⟩
              rw [← Option.some.inj hw, htruthy] at hholds
              cases hholds
          | true =>
              rw [Option.filter_some_pos htruthy]
              exact ⟨fun _ => rfl, fun h => absurd ⟨rfl, v, rfl, htruthy⟩ h⟩

theorem argumentsFor_four (path : String) (u v w x : Value) :
    Ends (argumentsFor path ["error", "source", "lineno", "filepath"] 4 [u, v, w, x] []) m
      [u, v, w, x] m := by
  unfold argumentsFor bindArguments Closure.paramsOf
  simp [Ends, paramKind, paramName, bindKeywords, List.lookup_cons]
  rfl

/-- The environment makes a report of an error that is none of its own. -/
theorem runtimeError_ends (hcell : m.heap[id]? = some (.error e))
    (hother : ErrorClass.isBelow e.className "TemplateRuntimeError" = false)
    (hcontext : m.context = some c) (hline : line ≠ 0) (p : Powers) (env : Nat) (source : Value)
    (filename : Option String) :
    ∃ made m', Ends (callMethod p (.environment env) "runtime_error"
        [.ref id, source, .int line, ofText? filename] []) m (.ref m.heap.size) m'
      ∧ m'.heap[m.heap.size]? = some (.error made)
      ∧ IsReport { made with cause := some id } e id line
          ((Report.given filename).or c.templateName) c.stack m
      ∧ Keeps m m' ∧ m'.context = m.context ∧ m'.frames = m.frames := by
  let scene : Scene :=
    { source := text? source, line, path := filename, name := c.templateName, stack := c.stack }
  obtain ⟨journal, hrecord⟩ := ofTraced_ends (a := ())
    (x := TagTemplate.debugRecord .environment (failedText m scene (.ref id)))
    (fun j => ⟨_, rfl⟩) m
  let m₁ : Machine := { m with journal }
  let e' := TemplateError.failure (reportOn m₁ e scene)
  let made : Raised :=
    { className := e'.className, args := [.str (e'.message m₁.color)], report := some e' }
  have hconvert : Ends (convert (.ref id) scene) m₁ (.ref m₁.heap.size) (m₁.withCell (.error made)) := by
    refine Ends.bind (Ends.cellOf hcell) ?_
    show Ends (if _ then _ else _) m₁ _ _
    rw [hother, if_neg Bool.false_ne_true]
    exact Ends.bind .get (Ends.bind .get (Ends.new _))
  have hhere : Ends (convertHere (.ref id) (text? source) line filename) m (.ref m.heap.size)
      (m₁.withCell (.error made)) := by
    refine Ends.bind .get ?_
    rw [hcontext]
    exact Ends.bind hrecord hconvert
  have hkeeps : Keeps m (m₁.withCell (.error made)) := ⟨withCell_old, fun h => h, rfl, rfl⟩
  refine ⟨made, _, ?_, withCell_new (m := m₁), ?_, hkeeps, rfl, rfl⟩
  · show Ends (callEnvironment p env "runtime_error" _ []) m _ _
    unfold callEnvironment
    simp only
    refine Ends.bind (argumentsFor_four _ _ _ _ _) ?_
    have hfilename : text? (ofText? filename) = filename := by cases filename <;> rfl
    show Ends (convertHere (.ref id) (text? source) ((number? (.int line)).getD 0)
      (text? (ofText? filename))) m _ _
    rw [hfilename]
    exact hhere
  · have hclass := reportOn_class m₁ e scene
    refine ⟨rfl, ⟨_, rfl, rfl, ?_, rfl⟩, hclass.1, hclass.2⟩
    show (if line == 0 then none else some line) = some line
    rw [if_neg (by simpa using hline)]

/-- The line that raises a report. -/
def reportStmt : Stmt :=
  .raiseError (some (.call (.attribute (.name "__kiln_env" .load) "runtime_error")
    [.name "__kiln_exc" .load, .attribute (.name "__kiln" .load) "source",
      .attribute (.name "__kiln" .load) "line", .attribute (.name "options" .load) "filepath"] []))
    (some (.name "__kiln_exc" .load))

/-- The report is raised, with the error as its cause. -/
theorem reportStmt_run {vars : List (String × Value)} (hat : s.toSite.At vars m)
    (hvars : Variables s b vars m) (h : Underway s b items m)
    (howns : s.locals.contains errorName.text = true)
    (hname : vars.lookup errorName.text = some (.ref id)) (hcell : m.heap[id]? = some (.error e))
    (hother : ErrorClass.isBelow e.className "TemplateRuntimeError" = false)
    (hcontext : m.context = some c) (hrecorded : b.line = .int line) (hline : line ≠ 0) {oid : Nat}
    (hoptions : s.options = .ref oid) (hown : m.heap[oid]? = some (optionsCell t)) (n : Nat) :
    ∃ made m', (stmt (powers (n + 1)) s.here reportStmt).run m = (.error (.raised m.heap.size), m')
      ∧ m'.heap[m.heap.size]? = some (.error made)
      ∧ IsReport made e id line ((Report.given t.filename).or c.templateName) c.stack m
      ∧ Keeps m m' ∧ m'.context = m.context ∧ m'.frames = m.frames := by
  obtain ⟨made, m₁, hcall, hmade, hreport, hkeeps, hcontext₁, hframes₁⟩ :=
    runtimeError_ends hcell hother hcontext hline (powers n) s.environment b.source t.filename
  let p := powers (n + 1)
  have herror : Ends (readName "__kiln_exc" s.here) m (.ref id) m := hat.readName_own howns hname
  have hfunction : Ends (expr p s.here (.attribute (.name "__kiln_env" .load) "runtime_error")) m
      (.method (.environment s.environment) "runtime_error") m :=
    Ends.bind hat.readName_environment (getMember_environment hat.shared (by decide) (by decide))
  have hpath : Ends (expr p s.here (.attribute (.name "options" .load) "filepath")) m
      (ofText? t.filename) m := by
    refine Ends.bind (hat.readName_own (s.owns _ (by decide)) hvars.options) ?_
    rw [hoptions]
    exact Ends.getMember_object hown rfl
  have hrecordedLine : Ends (expr p s.here (.attribute (.name "__kiln" .load) "line")) m
      (.int line) m := by
    have hmember := h.ofState p (show b.fields.lookup "line" = some b.line from rfl)
    rw [hrecorded] at hmember
    exact hmember
  have hargs : Ends (elementsOf p s.here [.name "__kiln_exc" .load,
      .attribute (.name "__kiln" .load) "source", .attribute (.name "__kiln" .load) "line",
      .attribute (.name "options" .load) "filepath"]) m
      [.ref id, b.source, .int line, ofText? t.filename] m :=
    Ends.bind herror (Ends.bind (Ends.bind (h.ofState p (show b.fields.lookup "source" = _ from rfl))
      (Ends.bind (Ends.bind hrecordedLine (Ends.bind (Ends.bind hpath (Ends.bind .pure .pure))
        .pure)) .pure)) .pure)
  have hvalue : Ends (expr p s.here (.call (.attribute (.name "__kiln_env" .load) "runtime_error")
      [.name "__kiln_exc" .load, .attribute (.name "__kiln" .load) "source",
        .attribute (.name "__kiln" .load) "line", .attribute (.name "options" .load) "filepath"] []))
      m (.ref m.heap.size) m₁ :=
    Ends.bind hfunction (Ends.bind hargs (Ends.bind .pure hcall))
  have hat₁ := hat.keeps hkeeps
  have hcause : Ends (expr p s.here (.name "__kiln_exc" .load)) m₁ (.ref id) m₁ :=
    hat₁.readName_own howns hname
  have herrorOf : ∀ {i : Nat} {x : Raised}, m₁.heap[i]? = some (.error x) →
      Ends (errorOf? p (.ref i)) m₁ (some i) m₁ := fun hi =>
    Ends.bind .pure (Ends.bind (Ends.cellOf hi) .pure)
  refine ⟨_, _, ?_, withContent_same hmade, hreport, hkeeps.withContent (Nat.le_refl _) _,
    hcontext₁, hframes₁⟩
  refine (run_bind_ok hvalue _).trans ?_
  refine (run_bind_ok hcause _).trans ((run_bind_ok Ends.pure _).trans ?_)
  refine (run_bind_ok (herrorOf hmade) _).trans ?_
  refine (run_bind_ok (herrorOf (hkeeps.cells hcell)) _).trans ?_
  -- the cause is set in the cell of the report
  exact (run_bind_ok (Ends.setCell hmade _) _).trans rfl

/-- A handler that names the error, and whose body raises another one. -/
theorem handlers_named {p : Powers} {f k : Nat} {type : Expr} {name : String} {body : List Line}
    {rest : List Handler} {v : Value} {signal : Signal} {m₁ m₂ m₃ : Machine}
    (hcell : m.heap[id]? = some (.error e)) (htype : Ends (handling id (expr p f type)) m v m)
    (hstands : Ends (stands e.className v) m true m) (hbind : Ends (bindName name (.ref id) f) m () m₁)
    (hbody : (handling id (block p f body)).run m₁ = (.error signal, m₂))
    (hforget : Ends (forgetName name f) m₂ () m₃) :
    (handlers p f id (.mk (some type) (some name) body k :: rest)).run m = (.error signal, m₃) := by
  have houtcome : Ends (outcome (handling id (block p f body))) m₁ (.error signal) m₂ := by
    refine (outcome_run _ _).trans ?_
    rw [hbody]
  exact (run_bind_ok (Ends.cell hcell) _).trans ((run_bind_ok Ends.pure _).trans
    ((run_bind_ok htype _).trans ((run_bind_ok hstands _).trans
      ((run_bind_ok hbind _).trans ((run_bind_ok houtcome _).trans
        ((run_bind_ok hforget _).trans rfl))))))

/-- The name of the error is none that the code of a render reads. -/
theorem errorName_other : ∀ name ∈ ownNames, name ≠ errorName.text := by decide

/-- The variables with a name for the error. -/
def withError (id : Nat) (vars : List (String × Value)) : List (String × Value) :=
  withVar vars errorName.text (.ref id)

/-- The machine in which an error is handled under its name. -/
def handledUnder (s : Stage) (id : Nat) (m : Machine) : Machine :=
  { m.withVars s.here (withError id) with handled := id :: m.handled }

theorem withError_other (id : Nat) :
    ∀ vars, ∀ name ∈ ownNames, (withError id vars).lookup name = vars.lookup name := by
  intro vars name hmem
  unfold withError
  rw [lookup_withVar, beq_false_of_ne (errorName_other name hmem)]
  rfl

/-- There the render goes on as before, and the error has its name. -/
theorem Underway.named (h : Underway s b items m) (id : Nat) :
    Underway s b items (handledUnder s id m) ∧ Spares m (handledUnder s id m)
      ∧ ∃ vars, s.toSite.At vars (handledUnder s id m) ∧ Variables s b vars (handledUnder s id m)
        ∧ vars.lookup errorName.text = some (.ref id) := by
  obtain ⟨vars, hat, -⟩ := h.frame
  have hunder : Underway s b items (handledUnder s id m) :=
    (h.withVars (withError_other id) hat).keeps ⟨fun h => h, fun h => h, rfl, rfl⟩
  obtain ⟨vars₁, hat₁, hvars₁⟩ := hunder.frame
  refine ⟨hunder, (Spares.withVars (withError_other id) hat).trans (.withHandled _ _), vars₁, hat₁,
    hvars₁, ?_⟩
  have hframe := hat₁.frame
  rw [show (handledUnder s id m).frames[s.here]? = _ from withVars_same hat.frame] at hframe
  rw [← show withError id vars = vars₁ from congrArg Frame.vars (Option.some.inj hframe)]
  unfold withError
  rw [lookup_withVar, beq_self_eq_true]
  rfl

/-- The name is forgotten when the handler is over. -/
theorem forgets_ends {vars : List (String × Value)} (hat : s.toSite.At vars m)
    (howns : s.locals.contains errorName.text = true) :
    ∃ m', Ends (forgetName errorName.text s.here) m () m' ∧ m'.heap = m.heap ∧ Spares m m' := by
  have hother : ∀ vars : List (String × Value), ∀ other ∈ ownNames,
      (vars.filter (·.1 != errorName.text)).lookup other = vars.lookup other :=
    fun vars other hmem => lookup_filter_ne (errorName_other other hmem)
  exact ⟨m.withVars s.here fun vars => vars.filter (·.1 != errorName.text),
    Ends.bind (homeOf_own hat.frame howns) rfl, rfl, .withVars hother hat⟩

/-- **What the handlers raise for an error that they catch is the report on it.** -/
theorem handlers_report (h : Underway s b items m) (howns : s.locals.contains errorName.text = true)
    (hcell : m.heap[id]? = some (.error e))
    (hother : ErrorClass.isBelow e.className "TemplateError" = false)
    (hcatches : Catches s m e.className) (hcontext : m.context = some c)
    (hrecorded : b.line = .int line) (hline : line ≠ 0) {oid : Nat} (hoptions : s.options = .ref oid)
    (hown : m.heap[oid]? = some (optionsCell t)) (n k : Nat) :
    ∃ made id' m', (handlers (powers (n + 1)) s.here id (reportHandlers.trees k)).run m
        = (.error (.raised id'), m')
      ∧ m'.heap[id']? = some (.error made)
      ∧ IsReport made e id line ((Report.given t.filename).or c.templateName) c.stack m
      ∧ Spares m m' := by
  let p := powers (n + 1)
  obtain ⟨vars, hat, -⟩ := h.frame
  obtain ⟨v, hread, hstands⟩ := hcatches
  have hfailure : ErrorClass.isBelow e.className "TemplateRuntimeError" = false := by
    rw [Bool.eq_false_iff]
    intro hbelow
    rw [ErrorClass.isBelow_failure hbelow] at hother
    cases hother
  -- the body of the handler raises the report
  obtain ⟨hunder₁, hspares₁, vars₁, hat₁, hvars₁, hname⟩ := h.named id
  obtain ⟨made, m₂, hrun, hmade, hreport, hkeeps, hcontext₂, -⟩ :=
    reportStmt_run hat₁ hvars₁ hunder₁ howns hname hcell hfailure hcontext hrecorded hline hoptions
      hown n
  let m₃ := { m₂ with handled := m.handled }
  have hspares₃ : Spares m m₃ :=
    (hspares₁.trans (.ofKeeps hkeeps hcontext₂)).trans (.withHandled m₂ m.handled)
  have hat₃ : s.toSite.At vars₁ m₃ := (hat₁.keeps hkeeps).keeps ⟨fun h => h, fun h => h, rfl, rfl⟩
  obtain ⟨m₄, hforget, hheap₄, hspares₄⟩ := forgets_ends hat₃ howns
  refine ⟨made, m.heap.size, m₄, ?_, by rw [hheap₄]; exact hmade,
    ⟨hreport.cause, hreport.report, hreport.undefined, hreport.other⟩, hspares₃.trans hspares₄⟩
  -- the first handler lets the error pass, the second one catches it
  have htemplateClass : ∀ handled, Ends (expr p s.here
      (.attribute (.name "__kiln_env" .load) "TemplateError")) { m with handled }
      (.errorClass "TemplateError") { m with handled } :=
    fun _ => templateClass_ends (Site.At.withHandled hat _)
  have htype := Ends.handling (htemplateClass (id :: m.handled)) rfl
  have htemplate : Ends (stands e.className (.errorClass "TemplateError")) m false m := by
    rw [← hother]
    exact .pure
  have hclass : Ends (handling id (expr p s.here (.name "Exception" .load))) m v m :=
    Ends.handling (hread _) rfl
  have hbind : Ends (bindName errorName.text (.ref id) s.here) m ()
      (m.withVars s.here (withError id)) :=
    Ends.bind (homeOf_own hat.frame howns) rfl
  have hbody : ∀ line, (handling id (block p s.here [.mk line reportStmt])).run
      (m.withVars s.here (withError id)) = (.error (.raised m.heap.size), m₃) := by
    intro line
    rw [handling_run, block_one]
    exact congrArg (fun o => (o.1, { o.2 with handled := m.handled })) hrun
  exact (handlers_other hcell htype htemplate).trans
    (handlers_named hcell hclass (hstands m) hbind (hbody _) hforget)

end Reports

end RenderFunction

end TagTemplate
