/-
  TagTemplate.Proofs.Render.Start
  ────────────────────────────────
  **HOW A RENDER STARTS.**

  A render of a template enters its context, calls the render function, waits
  for it if it has to be waited for, and opens the books.  `Starts` says on
  which machine the lines of the template start then.

    • `exists_starts`: every template with a render function starts.
    • `Starts.run`: its render ends as the core of its function does.
-/
import TagTemplate.Proofs.Render.Core

namespace TagTemplate

open Script Machine

namespace Machine

/-! ## §1. Coroutines. -/

/-- An outcome is not the error that ends a walk. -/
def Leaves {α : Type} (r : Except Signal α) (m : Machine) : Prop :=
  match r with
  | .error (.raised id) =>
    ∃ e, m.heap[id]? = some (.error e) ∧ ErrorClass.isBelow e.className "StopIteration" = false
  | _ => True

section Coroutines

variable {α : Type} {x : Eval α} {r : Except Signal α} {m m₁ : Machine}

theorem withoutStop_run (h : x.run m = (r, m₁)) (hleaves : Leaves r m₁) :
    (withoutStop x).run m = (r, m₁) := by
  have houtcome : Ends (outcome x) m r m₁ := by
    refine (outcome_run x m).trans ?_
    rw [h]
  refine (run_bind_ok houtcome _).trans ?_
  match r, hleaves with
  | .ok a, _ => rfl
  | .error (.unsupported what), _ => rfl
  | .error (.raised id), ⟨e, hcell, hother⟩ =>
      refine (run_bind_ok (Ends.cell hcell) _).trans ?_
      dsimp only
      rw [hother, if_neg Bool.false_ne_true]
      rfl

/-- A coroutine, or what is no coroutine. -/
def settled (isAsync : Bool) (x : Eval α) : Eval α := if isAsync then withoutStop x else x

theorem settled_run {isAsync : Bool} (h : x.run m = (r, m₁))
    (hleaves : isAsync = true → Leaves r m₁) : (settled isAsync x).run m = (r, m₁) := by
  cases isAsync with
  | false => exact h
  | true => exact withoutStop_run h (hleaves rfl)

/-- What is put into a new cell may be put there at once. -/
theorem withCell_withContent (m : Machine) (c d : Cell) :
    (m.withCell c).withContent m.heap.size d = m.withCell d := by
  have hheap : (m.heap.push c).modify m.heap.size (fun _ => d) = m.heap.push d := by
    refine Array.ext_getElem? fun i => ?_
    rw [Array.getElem?_modify, Array.getElem?_push, Array.getElem?_push]
    split
    · subst i; simp
    · rename_i hne
      rw [if_neg (Ne.symm hne), if_neg (Ne.symm hne)]
  unfold withCell withContent
  dsimp only
  rw [hheap]

end Coroutines

/-- The machine on which the body of a function starts, that may have to be waited for. -/
def atCall (isAsync : Bool) (m : Machine) (fr : Frame) : Machine :=
  if isAsync then (m.withFrame fr).withCell (.coroutine none) else m.withFrame fr

theorem Keeps.atCall (isAsync : Bool) (m : Machine) (fr : Frame) :
    Keeps m (atCall isAsync m fr) := by
  cases isAsync with
  | false => exact .withFrame m fr
  | true => exact (Keeps.withFrame m fr).trans (.withCell _ _)

theorem atCall_new (isAsync : Bool) (m : Machine) (fr : Frame) :
    (atCall isAsync m fr).frames[m.frames.size]? = some fr := by
  cases isAsync <;> exact withFrame_new

theorem atCall_context (isAsync : Bool) (m : Machine) (fr : Frame) :
    (atCall isAsync m fr).context = m.context := by cases isAsync <;> rfl

/-- Outcomes are unique. -/
theorem Ends.unique {α : Type} {x : Eval α} {m m₁ m₂ : Machine} {a b : α} (h₁ : Ends x m a m₁)
    (h₂ : Ends x m b m₂) : a = b ∧ m₁ = m₂ := by
  have heq : (Except.ok a, m₁) = ((Except.ok b, m₂) : Except Signal α × Machine) :=
    (Eq.symm h₁).trans h₂
  exact ⟨Except.ok.inj (congrArg Prod.fst heq), congrArg Prod.snd heq⟩

/-- The options of a template. -/
def optionsCell (t : Template) : Cell :=
  .object .options [("name", ofText? t.name), ("filepath", ofText? t.filename),
    ("async_mode", .bool t.isAsync)]

end Machine

namespace RenderFunction

/-! ## §2. The call of the function. -/

/-- **A template has a render function**, on a machine. -/
structure HasFunction (P : Program) (t : Template) (c : Closure) (m : Machine) : Prop where
  isAsync : t.isAsync = P.isAsync
  cell : ∃ id, t.function = .ref id ∧ m.heap[id]? = some (.closure c)
  isRender : IsRenderFunction P c
  program : ∃ known, m.frames[c.frame]? = some { vars := known, program := c.frame }
    ∧ known.lookup Machine.environmentName = some (.environment t.environment)
  shared : ∃ shared, m.environments[t.environment]? = some shared

section Call

variable {P : Program} {t : Template} {c : Closure} {m m' : Machine}

theorem HasFunction.keeps (h : HasFunction P t c m) (hkeeps : Keeps m m') :
    HasFunction P t c m' := by
  obtain ⟨id, hfunction, hcell⟩ := h.cell
  obtain ⟨known, hframe, hknown⟩ := h.program
  obtain ⟨shared, hshared⟩ := h.shared
  exact { h with cell := ⟨id, hfunction, hkeeps.cells hcell⟩
                 program := ⟨known, hkeeps.frames hframe, hknown⟩
                 shared := ⟨shared, by rw [hkeeps.environments, hshared]⟩ }

/-- Call a function, and wait for it if it has to be waited for. -/
def launch (isAsync : Bool) (p : Powers) (f : Value) (args : List Value) : Eval Value :=
  if isAsync then do p.wait (← p.call f args []) else p.call f args []

/-- The variables of a render function that is called. -/
def argumentsOf (data options : Value) : List (String × Value) := [("it", data), ("options", options)]

/-- A render hands its data to the function, in its own context. -/
theorem render_eq_settled {isAsync : Bool} (hasync : t.isAsync = isAsync) (p : Powers) (data : Value) :
    (if isAsync then t.renderAsync p data else t.render p data)
      = settled isAsync (do
          let d ← dataOf data
          inContext t (launch isAsync p t.function [d, t.options])) := by
  unfold settled launch Template.renderAsync Template.render
  cases isAsync <;> simp only [hasync, Bool.false_eq_true, if_true, if_false]

theorem launch_run (h : HasFunction P t c m) (data options : Value) (k : Nat) :
    (launch P.isAsync (powers (k + 2)) t.function [data, options]).run m
      = (settled P.isAsync (runBody (powers (k + 1)) c m.frames.size)).run
        (atCall P.isAsync m (c.frameOf (argumentsOf data options) c.frame)) := by
  obtain ⟨id, hfunction, hcell⟩ := h.cell
  obtain ⟨known, hframe, _⟩ := h.program
  have hrender := h.isRender
  have hbind : Ends (bindArguments c [data, options] []) m (argumentsOf data options) m :=
    bindArguments_two hrender.params hrender.defaults
  have hcall : ((powers (k + 2)).call t.function [data, options] []).run m
      = (callClosure (powers (k + 1)) c [data, options] []).run m := by
    rw [hfunction]
    exact run_bind_ok (Ends.cellOf hcell) _
  rw [callClosure_run hbind hrender.plain hframe, hrender.isAsync] at hcall
  unfold launch atCall settled
  cases hasync : P.isAsync with
  | false =>
      rw [hasync] at hcall
      exact hcall
  | true =>
      rw [hasync] at hcall
      let m₁ := m.withFrame (c.frameOf (argumentsOf data options) c.frame)
      let task : Cell := .coroutine (some (.body c m.frames.size))
      have hwait : ((powers (k + 2)).wait (.ref m₁.heap.size)).run (m₁.withCell task)
          = (withoutStop (runBody (powers (k + 1)) c m.frames.size)).run
            (m₁.withCell (.coroutine none)) := by
        refine (run_bind_ok (Ends.cellOf withCell_new) _).trans ?_
        refine (run_bind_ok (Ends.setCell withCell_new _) _).trans ?_
        rw [withCell_withContent]
        rfl
      rw [if_pos rfl] at hcall
      rw [if_pos rfl, if_pos rfl, if_pos rfl]
      exact (run_bind_ok (hcall.trans rfl) _).trans hwait

end Call

/-! ## §3. The start of a render. -/

/-- The value that a function is left with. -/
def finish : Flow → Eval Value
  | .ret v => return v
  | _ => return .none

/-- The context of a render that is not refused. -/
def entered (around : Option RenderContext) (t : Template) (limit : Int) : RenderContext :=
  match around with
  | none => { templateName := t.name, filename := t.filename, limit }
  | some c => c.child t.name t.filename

/-- An entry is refused only at the limit. -/
theorem enter_below {around : Option RenderContext} (h : ∀ c ∈ around, c.depth < c.limit)
    (t : Template) (limit : Int) :
    RenderContext.enter around t.name t.filename limit = .ok (entered around t limit) := by
  cases around with
  | none => rfl
  | some c =>
      have hbelow : ¬ c.depth ≥ c.limit := Int.not_le.mpr (h c rfl)
      unfold RenderContext.enter RenderContext.checkDepth
      dsimp only
      rw [if_neg hbelow]
      rfl

/-- The machine on which the books of a render are opened, in its context and frame. -/
def callMachine (P : Program) (c : Closure) (context : RenderContext) (data options : Value)
    (m : Machine) : Machine :=
  atCall P.isAsync { m with context := some context } (c.frameOf (argumentsOf data options) c.frame)

/-- **The lines of a template start** on a machine, in a render with some data that begins on another
one.  Calls may nest `k + 2` deep from there on. -/
structure Starts (P : Program) (k : Nat) (t : Template) (c : Closure) (data : Value) (m : Machine)
    (s : Stage) (b : Books) (m' : Machine) : Prop where
  called : ∃ m₁, Ends (dataOf data) m s.data m₁ ∧ s.here = m₁.frames.size
    ∧ s.toSite.At (argumentsOf s.data s.options)
        (callMachine P c (entered m.context t s.shared.environment.maxDepth) s.data t.options m₁)
    ∧ Ends (block (powers (k + 1)) s.here P.opening)
        (callMachine P c (entered m.context t s.shared.environment.maxDepth) s.data t.options m₁)
        .next m'
  options : s.options = t.options
  environment : s.environment = t.environment
  fresh : ∃ out ld, b = .fresh s.shared P.source out ld ∧ m'.heap[ld]? = some (.dict #[])
  underway : Underway s b #[] m'

/-- Data that are nothing at all are a new mapping. -/
theorem dataOf_ends (data : Value) (m : Machine) :
    ∃ d m₁, Ends (dataOf data) m d m₁ ∧ Keeps m m₁ ∧ m₁.context = m.context := by
  cases data with
  | none => exact ⟨_, _, Ends.new _, .withCell m _, rfl⟩
  | _ => exact ⟨_, m, .pure, .refl m, rfl⟩

section Starts

variable {P : Program} {k : Nat} {t : Template} {c : Closure} {data : Value} {s : Stage} {b : Books}
  {m m' : Machine}

/-- **Every template with a render function starts**, and nothing that was there before changes. -/
theorem exists_starts (h : HasFunction P t c m) (k : Nat) (data : Value) :
    ∃ s b m', Starts P k t c data m s b m' ∧ Keeps m m' ∧ m.heap.size ≤ s.state
      ∧ m.heap.size ≤ b.output ∧ m.frames.size ≤ s.here
      ∧ m'.context = some (entered m.context t s.shared.environment.maxDepth) := by
  obtain ⟨d, m₁, hdata, hkeeps, hcontext⟩ := dataOf_ends data m
  obtain ⟨known, hframe, hknown⟩ := (h.keeps hkeeps).program
  obtain ⟨shared, hshared⟩ := (h.keeps hkeeps).shared
  let s : Stage :=
    { here := m₁.frames.size, top := c.frame, locals := c.locals, globals := c.globals
      path := c.path, known, environment := t.environment, shared
      below := (Array.getElem?_eq_some_iff.mp hframe).1
      free := h.isRender.free, knows := hknown, data := d, options := t.options, state := 0
      named := h.isRender.named, owns := h.isRender.owns }
  let m₂ := callMachine P c (entered m.context t shared.environment.maxDepth) d t.options m₁
  have hcall : Keeps m₁ m₂ := (Keeps.withContext m₁ _).trans (.atCall _ _ _)
  have hat : s.toSite.At (argumentsOf d t.options) m₂ :=
    ⟨atCall_new _ _ _, hcall.frames hframe, by rw [hcall.environments, hshared]⟩
  have hbase : m.frames.size ≤ s.here := hkeeps.frames_size_le
  obtain ⟨m', hopening, state, out, ld, hunderway, hld, hkeeps', hcontext', hstate, hout⟩ :=
    opening_proceeds hbase hat (hkeeps.trans hcall) k P.source P.numbers.opening
  exact ⟨{ s with state }, .fresh shared P.source out ld, m',
    ⟨⟨m₁, hdata, rfl, hat, hopening⟩, rfl, rfl, ⟨out, ld, rfl, hld⟩, hunderway⟩, hkeeps', hstate,
    hout, hbase, hcontext'.trans (atCall_context _ _ _)⟩

/-- What is there when the data are is there when the lines start, and the books are younger. -/
theorem Starts.kept (h : Starts P k t c data m s b m') :
    ∃ m₁, Ends (dataOf data) m s.data m₁ ∧ Keeps m₁ m'
      ∧ m'.context = some (entered m.context t s.shared.environment.maxDepth)
      ∧ m₁.heap.size ≤ s.state ∧ m₁.heap.size ≤ b.output := by
  obtain ⟨m₁, hdata, hhere, hat, hopening⟩ := h.called
  have hcall := (Keeps.withContext m₁ (some (entered m.context t s.shared.environment.maxDepth))).trans
    (.atCall P.isAsync _ (c.frameOf (argumentsOf s.data t.options) c.frame))
  obtain ⟨m₃, hopening', state, out, ld, hbooks, _, hkeeps, hcontext, hstate, hout⟩ :=
    opening_proceeds (Nat.le_of_eq hhere.symm) hat hcall k P.source P.numbers.opening
  obtain ⟨_, rfl⟩ := hopening'.unique hopening
  obtain ⟨rfl, rfl⟩ := hbooks.same h.underway rfl
  exact ⟨m₁, hdata, hkeeps, hcontext.trans (atCall_context _ _ _), hstate, hout⟩

/-- So is what is there when the render begins. -/
theorem Starts.keeps (h : Starts P k t c data m s b m') :
    Keeps m m' ∧ m'.context = some (entered m.context t s.shared.environment.maxDepth) := by
  obtain ⟨m₁, hdata, hkeeps, hcontext, _⟩ := h.kept
  obtain ⟨d, m₂, hdata', hbefore, _⟩ := dataOf_ends data m
  obtain ⟨rfl, rfl⟩ := hdata'.unique hdata
  exact ⟨hbefore.trans hkeeps, hcontext⟩

/-- A stage is the frame of the function, in that of the program. -/
theorem Starts.site (h : Starts P k t c data m s b m') : s.locals = c.locals ∧ s.top = c.frame := by
  obtain ⟨m₁, _, hhere, hat, _⟩ := h.called
  have hframe := hat.frame
  rw [hhere] at hframe
  have hnew := (atCall_new P.isAsync
    { m₁ with context := some (entered m.context t s.shared.environment.maxDepth) } _).symm.trans hframe
  have heq := Option.some.inj hnew
  exact ⟨(congrArg Frame.locals heq).symm, (congrArg Frame.program heq).symm⟩

/-- Its program knows what it knew before the call. -/
theorem Starts.known (h : Starts P k t c data m s b m') {known : List (String × Value)}
    (hprogram : m.frames[c.frame]? = some { vars := known, program := c.frame }) : s.known = known := by
  obtain ⟨vars, hat, _⟩ := h.underway.frame
  have hthere := hat.program
  rw [h.site.2, h.keeps.1.frames hprogram] at hthere
  exact (congrArg Frame.vars (Option.some.inj hthere)).symm

/-- The books are younger than what is there when the render begins. -/
theorem Starts.younger (h : Starts P k t c data m s b m') :
    m.heap.size ≤ s.state ∧ m.heap.size ≤ b.output := by
  obtain ⟨m₁, hdata, _, _, hstate, hout⟩ := h.kept
  obtain ⟨d, m₂, hdata', hbefore, _⟩ := dataOf_ends data m
  obtain ⟨rfl, rfl⟩ := hdata'.unique hdata
  exact ⟨Nat.le_trans hbefore.size_le hstate, Nat.le_trans hbefore.size_le hout⟩

/-- The environment of a stage is that of the template. -/
theorem Starts.shared_eq (h : Starts P k t c data m s b m') {shared : Shared}
    (hshared : m.environments[t.environment]? = some shared) : s.shared = shared := by
  obtain ⟨vars, hat, _⟩ := h.underway.frame
  have hthere := hat.shared
  rw [h.environment, h.keeps.1.environments, hshared] at hthere
  exact (Option.some.inj hthere).symm

/-- **A render ends as its core does**, and goes back to the context before it. -/
theorem Starts.run (hstarts : Starts P k t c data m s b m') (h : HasFunction P t c m)
    (hentered : RenderContext.enter m.context t.name t.filename s.shared.environment.maxDepth
      = .ok (entered m.context t s.shared.environment.maxDepth))
    {r : Except Signal Value} {m₂ : Machine}
    (hcore : (block (powers (k + 1)) s.here P.core >>= finish).run m' = (r, m₂))
    (hleaves : P.isAsync = true → Leaves r m₂) :
    (if P.isAsync then t.renderAsync (powers (k + 2)) data else t.render (powers (k + 2)) data).run m
      = (r, { m₂ with context := m.context }) := by
  obtain ⟨m₁, hdata, hhere, hat, hopening⟩ := hstarts.called
  obtain ⟨d, m₁', hdata', hkeeps, hcontext⟩ := dataOf_ends data m
  obtain ⟨rfl, rfl⟩ := hdata'.unique hdata
  let entry := entered m.context t s.shared.environment.maxDepth
  have hshared : m₁'.environments[t.environment]? = some s.shared := by
    have hcall : (callMachine P c entry s.data t.options m₁').environments = m₁'.environments :=
      (Keeps.atCall P.isAsync _ _).environments
    rw [← hcall, ← hstarts.environment]
    exact hat.shared
  have hf := (h.keeps hkeeps).keeps (Keeps.withContext m₁' (some entry))
  have hlines : runBody (powers (k + 1)) c m₁'.frames.size
      = block (powers (k + 1)) s.here (P.opening ++ P.core) >>= finish := by
    unfold runBody
    rw [h.isRender.body, hhere]
    rfl
  have hbody : (runBody (powers (k + 1)) c m₁'.frames.size).run
      (callMachine P c entry s.data t.options m₁') = (r, m₂) := by
    rw [hlines, block_append, bind_assoc]
    exact (run_bind_ok hopening _).trans hcore
  have hcall : (launch P.isAsync (powers (k + 2)) t.function [s.data, t.options]).run
      { m₁' with context := some entry } = (r, m₂) :=
    (launch_run hf s.data t.options k).trans (settled_run hbody hleaves)
  have hinner : (do
      let d ← dataOf data
      inContext t (launch P.isAsync (powers (k + 2)) t.function [d, t.options])).run m
        = (r, { m₂ with context := m.context }) := by
    rw [← hcontext] at hentered
    refine (run_bind_ok hdata _).trans ((inContext_entered hshared hentered _).trans ?_)
    rw [hcontext]
    exact congrArg (fun o => (o.1, { o.2 with context := m.context })) hcall
  rw [render_eq_settled h.isAsync]
  exact settled_run hinner hleaves

end Starts

end RenderFunction

end TagTemplate
