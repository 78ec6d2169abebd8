/-
  TagTemplate.Proofs.Render.Core
  ────────────────────────────────
  **WHAT STANDS AROUND THE LINES OF A TEMPLATE.**

  Behind the lines of a template stands the question whether a layout is to be
  rendered, and the line that joins the output.  If errors are reported, the
  lines and the question are guarded.

    • `Program.core_returns`: lines that go on leave their output as the value.
    • `Program.core_raises`: an error of the library passes the guard.
-/
import TagTemplate.Proofs.Render.Function

namespace TagTemplate

open Script Machine

namespace Machine

/-! ## §1. Guards. -/

section Guards

variable {α : Type} {p : Powers} {f id id' : Nat} {m m₁ m₂ : Machine}

theorem outcome_run (x : Eval α) (m : Machine) :
    (outcome x).run m = (.ok (x.run m).1, (x.run m).2) := rfl

theorem outcome_error {x : Eval α} {s : Signal} (h : x.run m = (.error s, m₁)) :
    Ends (outcome x) m (.error s) m₁ := by
  refine (outcome_run x m).trans ?_
  rw [h]

/-- While an error is handled, only the list of these errors is another one. -/
theorem handling_run (id : Nat) (x : Eval α) (m : Machine) :
    (handling id x).run m
      = ((x.run { m with handled := id :: m.handled }).1,
          { (x.run { m with handled := id :: m.handled }).2 with handled := m.handled }) := by
  unfold handling
  rw [run_bind_ok (x := get) rfl, run_bind_ok (x := modify _) rfl, run_bind_ok (outcome_run _ _),
    run_bind_ok (x := modify _) rfl, ofOutcome_run]

theorem Ends.handling {x : Eval α} {a : α}
    (h : Ends x { m with handled := id :: m.handled } a { m₁ with handled := id :: m.handled })
    (hm₁ : m₁.handled = m.handled) : Ends (handling id x) m a m₁ := by
  refine (handling_run id x m).trans ?_
  rw [show x.run _ = (.ok a, { m₁ with handled := id :: m.handled }) from h, ← hm₁]

/-- A guarded block that goes on needs no handler. -/
theorem guard_next {body : List Line} {hs : List Handler} (h : Ends (block p f body) m .next m₁) :
    Ends (stmt p f (.tryBlock body hs [] [] false)) m .next m₁ := by
  have hfinal : Ends (block p f []) m₁ .next m₁ := .pure
  -- the block between, which looks at how the body ended, is the one that `stmt` names
  refine Ends.bind (Ends.outcome ?_) (Ends.bind hfinal .pure)
  exact Ends.bind h.outcome .pure

/-- An error that the handlers raise leaves the guard. -/
theorem guard_raises {body : List Line} {hs : List Handler}
    (h : (block p f body).run m = (.error (.raised id), m₁))
    (hhandlers : (handlers p f id hs).run m₁ = (.error (.raised id'), m₂)) :
    (stmt p f (.tryBlock body hs [] [] false)).run m = (.error (.raised id'), m₂) := by
  have hfinal : Ends (Machine.handling id' (block p f [])) m₂ .next m₂ :=
    (handling_run id' _ m₂).trans rfl
  refine (run_bind_ok (outcome_error (s := .raised id') ?_) _).trans
    ((run_bind_ok hfinal _).trans rfl)
  exact (run_bind_ok (outcome_error h) _).trans hhandlers

/-- A handler of another class is passed. -/
theorem handlers_other {e : Raised} {type : Expr} {name : Option String} {body : List Line}
    {line : Nat} {rest : List Handler} {v : Value} (hcell : m.heap[id]? = some (.error e))
    (htype : Ends (handling id (expr p f type)) m v m)
    (hstands : Ends (stands e.className v) m false m) :
    (handlers p f id (.mk (some type) name body line :: rest)).run m
      = (handlers p f id rest).run m :=
  (run_bind_ok (Ends.cell hcell) _).trans ((run_bind_ok Ends.pure _).trans
    ((run_bind_ok htype _).trans (run_bind_ok hstands _)))

/-- A handler of the class, whose body raises an error. -/
theorem handlers_raise {e : Raised} {type : Expr} {body : List Line} {line : Nat}
    {rest : List Handler} {v : Value} {signal : Signal} (hcell : m.heap[id]? = some (.error e))
    (htype : Ends (handling id (expr p f type)) m v m)
    (hstands : Ends (stands e.className v) m true m)
    (hbody : (handling id (block p f body)).run m = (.error signal, m₁)) :
    (handlers p f id (.mk (some type) none body line :: rest)).run m = (.error signal, m₁) := by
  have houtcome : Ends (outcome (handling id (block p f body))) m (.error signal) m₁ := by
    refine (outcome_run _ _).trans ?_
    rw [hbody]
  exact (run_bind_ok (Ends.cell hcell) _).trans ((run_bind_ok Ends.pure _).trans
    ((run_bind_ok htype _).trans ((run_bind_ok hstands _).trans
      ((run_bind_ok Ends.pure _).trans ((run_bind_ok houtcome _).trans
        ((run_bind_ok Ends.pure _).trans rfl))))))

end Guards

end Machine

namespace RenderFunction

/-! ## §2. Handlers of errors. -/

section Handlers

variable {s : Site} {vars : List (String × Value)} {m : Machine} {p : Powers} {id line : Nat}
  {e : Raised}

theorem Site.At.withHandled (h : s.At vars m) (handled : List Nat) :
    s.At vars { m with handled } := ⟨h.frame, h.program, h.shared⟩

/-- The class of the errors of the library, seen from a handler. -/
theorem templateClass_ends (h : s.At vars m) :
    Ends (expr p s.here (.attribute (.name "__kiln_env" .load) "TemplateError")) m
      (.errorClass "TemplateError") m := by
  refine Ends.bind h.readName_environment ?_
  have hattributes : Ends (attributesOf (.environment s.environment)) m
      [("TemplateError", .errorClass "TemplateError"),
        ("max_include_depth", .int s.shared.environment.maxDepth),
        ("escape", .primitive s.shared.environment.blueprint.escape),
        ("filter", s.shared.filterValue)] m := by
    refine Ends.bind .get ?_
    rw [h.shared]
    exact .pure
  exact Ends.bind hattributes .pure

/-- **An error of the library is raised again.** -/
theorem handlers_template (h : s.At vars m) (hcell : m.heap[id]? = some (.error e))
    (hbelow : ErrorClass.isBelow e.className "TemplateError" = true) :
    (handlers p s.here id (reportHandlers.trees line)).run m = (.error (.raised id), m) := by
  have hclass : ∀ handled, Ends (expr p s.here (.attribute (.name "__kiln_env" .load) "TemplateError"))
      { m with handled } (.errorClass "TemplateError") { m with handled } :=
    fun _ => templateClass_ends (Site.At.withHandled h _)
  have htype := Ends.handling (hclass (id :: m.handled)) rfl
  have hstands : Ends (stands e.className (.errorClass "TemplateError")) m
      (ErrorClass.isBelow e.className "TemplateError") m := .pure
  rw [hbelow] at hstands
  refine handlers_raise hcell htype hstands ?_
  rw [handling_run]
  exact congrArg _ (block_one _ _ ▸ rfl)

end Handlers

/-! ## §3. The core. -/

namespace Program

section Core

variable {P : Program} {s : Stage} {b : Books} {items : Array Value} {m m₁ m₂ : Machine} {n : Nat}

/-- The condition of the question: whether a layout has been asked for. -/
theorem choiceTest_ends (p : Powers) (h : Underway s b items m) :
    Ends (expr p s.here (.compare (.attribute (.name "__kiln" .load) "layout")
      [.mk .notSame (.constant .none)])) m (.bool !(same depthLimit b.layout .none)) m := by
  refine Ends.bind (h.ofState p rfl) (Ends.bind .pure (Ends.bind .pure ?_))
  cases same depthLimit b.layout .none <;> exact .pure

/-- The question is passed where no layout has been asked for. -/
theorem choice_none {p : Powers} (h : Underway s b items m) (hnone : b.layout = .none) :
    Ends (block p s.here P.choice) m .next m := by
  unfold choice
  rw [block_one]
  have htest := choiceTest_ends p h
  rw [hnone] at htest
  exact Ends.bind htest (Ends.bind .get .pure)

/-- Lines that go on, and ask for no layout. -/
theorem inner_none {p : Powers} (hown : Ends (block p s.here P.own) m .next m₁)
    (h : Underway s b items m₁) (hnone : b.layout = .none) :
    Ends (block p s.here P.inner) m .next m₁ :=
  (block_append_run hown).trans (choice_none h hnone)

/-- The output in one piece. -/
theorem joined_ends {texts : List String} (h : Underway s b (texts.map .str).toArray m) (line : Nat) :
    Ends (expr (powers (n + 1)) s.here (joined.tree line)) m (.str ("".intercalate texts)) m := by
  have hfunction : Ends
      (expr (powers (n + 1)) s.here (.attribute (.constant (.str "" false)) "join")) m
      (.method (.str "") "join") m :=
    Ends.bind .pure (Ends.getMember_method .pure .pure rfl (by decide))
  have hargument := h.ofState (powers (n + 1)) (show b.fields.lookup "res" = _ from rfl)
  have hdrain := drain_list h.output
  rw [List.toList_toArray] at hdrain
  have hjoin : Ends (textMethod "" "join" [.ref b.output]) m (.str ("".intercalate texts)) m := by
    unfold textMethod
    simp only
    refine Ends.bind (Ends.bind (Ends.cell h.output) .pure) ?_
    exact Ends.bind hdrain (joinTexts_ends "" texts)
  exact Ends.call_one rfl hfunction hargument hjoin

/-- **Lines that go on leave their output as the value.** -/
theorem core_returns {texts : List String}
    (hinner : Ends (block (powers (n + 1)) s.here P.inner) m .next m₁)
    (h : Underway s b (texts.map .str).toArray m₁) :
    Ends (block (powers (n + 1)) s.here P.core) m (.ret (.str ("".intercalate texts))) m₁ := by
  have hresult : Ends (block (powers (n + 1)) s.here P.result) m₁
      (.ret (.str ("".intercalate texts))) m₁ := by
    unfold result
    rw [block_one]
    exact Ends.bind (joined_ends h _) .pure
  unfold core
  cases P.source with
  | none => exact (block_append_run hinner).trans hresult
  | some q => exact Ends.bind (guard_next hinner) hresult

/-- An error that nothing guards, or that the handlers raise, leaves the core. -/
theorem core_fails {p : Powers} {f id id' : Nat}
    (hinner : (block p f P.inner).run m = (.error (.raised id), m₁))
    (hnone : P.source = none → id' = id ∧ m₂ = m₁)
    (hsome : P.source.isSome → (handlers p f id (reportHandlers.trees P.numbers.handlers)).run m₁
      = (.error (.raised id'), m₂)) :
    (block p f P.core).run m = (.error (.raised id'), m₂) := by
  unfold core
  cases hsource : P.source with
  | none =>
      obtain ⟨rfl, rfl⟩ := hnone hsource
      dsimp only
      rw [block_append]
      exact run_bind_error hinner _
  | some q => exact run_bind_error (guard_raises hinner (hsome (by rw [hsource]; rfl))) _

/-- **An error of the library leaves the core as it is.** -/
theorem core_raises {p : Powers} {vars : List (String × Value)} {id : Nat} {e : Raised}
    (hinner : (block p s.here P.inner).run m = (.error (.raised id), m₁))
    (h : s.toSite.At vars m₁) (hcell : m₁.heap[id]? = some (.error e))
    (hbelow : ErrorClass.isBelow e.className "TemplateError" = true) :
    (block p s.here P.core).run m = (.error (.raised id), m₁) :=
  core_fails hinner (fun _ => ⟨rfl, rfl⟩) fun _ => handlers_template h hcell hbelow

end Core

end Program

end RenderFunction

end TagTemplate
