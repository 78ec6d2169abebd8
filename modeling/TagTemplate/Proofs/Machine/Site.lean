/-
  TagTemplate.Proofs.Machine.Site
  ────────────────────────────────
  **WHERE THE BODY OF A RENDER FUNCTION RUNS.**

  The body runs in a frame whose names are known before it runs; the one name
  it reads that is not its own is that of the environment, which the frame of
  the program holds (`Site`).  Whatever the body does with cells and with its
  own variables, this stays so (`Site.At`).  The functions that the body
  defines run in frames inside of it (`Inside`), and read its variables.
-/
import TagTemplate.Proofs.Machine.Keeps
import TagTemplate.Proofs.Script.Fitting

namespace TagTemplate.Machine

open Script

/-! ## §1. Sites. -/

/-- The frame of a function in the frame of a program, which knows the environment. -/
structure Site where
  /-- The frame. -/
  here : Nat
  /-- The frame of the program. -/
  top : Nat
  /-- The names of the function. -/
  locals : List String
  /-- The names it declares global. -/
  globals : List String
  /-- The name of the function. -/
  path : String
  /-- The variables of the program. -/
  known : List (String × Value)
  /-- The environment, by its number. -/
  environment : Nat
  /-- The environment. -/
  shared : Shared
  /-- The program was there first. -/
  below : top < here
  /-- The environment is no name of the function. -/
  free : locals.contains environmentName = false
  /-- The program knows the environment. -/
  knows : known.lookup environmentName = some (.environment environment)

namespace Site

variable (s : Site)

/-- The frame with the values of its variables. -/
def frame (vars : List (String × Value)) : Frame where
  vars := vars
  locals := s.locals
  parent := some s.top
  globals := s.globals
  program := s.top
  path := s.path

/-- The frame of the program. -/
def program : Frame where
  vars := s.known
  program := s.top

/-- A machine has the site, with some values of variables. -/
structure At (vars : List (String × Value)) (m : Machine) : Prop where
  /-- The frame. -/
  frame : m.frames[s.here]? = some (s.frame vars)
  /-- The frame of the program. -/
  program : m.frames[s.top]? = some s.program
  /-- The environment. -/
  shared : m.environments[s.environment]? = some s.shared

section At

variable {s} {vars : List (String × Value)} {m m' : Machine}

theorem At.keeps (h : s.At vars m) (hkeeps : Keeps m m') : s.At vars m' :=
  ⟨hkeeps.frames h.frame, hkeeps.frames h.program, by rw [hkeeps.environments, h.shared]⟩

theorem At.withContent (h : s.At vars m) (id : Nat) (c : Cell) :
    s.At vars (m.withContent id c) := ⟨h.frame, h.program, h.shared⟩

theorem At.withValue (h : s.At vars m) (name : String) (v : Value) :
    s.At (withVar vars name v) (m.withValue s.here name v) :=
  ⟨withValue_same h.frame name v,
    withValue_other h.program (Nat.ne_of_gt s.below) name v, h.shared⟩

end At

end Site

/-! ## §2. Names. -/

section Names

variable {m : Machine} {g : Nat} {fr : Frame} {name : String} {v : Value}

/-- A name of a frame lives there. -/
theorem homeOf_own (hframe : m.frames[g]? = some fr) (hown : fr.locals.contains name = true) :
    Ends (homeOf name g) m (.own g) m := by
  refine Ends.bind (Ends.frame hframe) ?_
  rw [hown, if_pos rfl, if_pos (by simp)]
  exact .pure

theorem readName_own (hframe : m.frames[g]? = some fr) (hown : fr.locals.contains name = true)
    (hv : fr.vars.lookup name = some v) : Ends (readName name g) m v m := by
  refine Ends.bind (homeOf_own hframe hown) (Ends.bind (Ends.frame hframe) ?_)
  rw [hv]
  exact .pure

namespace Site

variable {s : Site} {vars : List (String × Value)}

theorem At.readName_own (h : s.At vars m) (hown : s.locals.contains name = true)
    (hv : vars.lookup name = some v) : Ends (readName name s.here) m v m :=
  Machine.readName_own h.frame hown hv

theorem At.bindName_own (h : s.At vars m) (hown : s.locals.contains name = true) :
    Ends (bindName name v s.here) m () (m.withValue s.here name v) :=
  Ends.bind (homeOf_own h.frame hown) rfl

/-- Seen from a frame in it or from the frame itself, a name that the function does not own is one of
the program. -/
theorem At.homeFrom_free (h : s.At vars m) (hfree : s.locals.contains name = false) (start : Nat)
    {fuel : Nat} (hfuel : 2 ≤ fuel) : Ends (homeFrom name start fuel s.here) m (.program s.top) m := by
  obtain ⟨fuel, rfl⟩ := Nat.exists_eq_add_of_le' hfuel
  refine Ends.bind (Ends.frame h.frame) ?_
  rw [show (s.frame vars).locals.contains name = false from hfree, if_neg Bool.false_ne_true]
  show Ends (if (s.frame vars).globals.contains name then _ else _) m _ m
  split
  · exact .pure
  · exact Ends.bind (Ends.frame h.program) .pure

theorem At.homeOf_free (h : s.At vars m) (hfree : s.locals.contains name = false) :
    Ends (homeOf name s.here) m (.program s.top) m := by
  have hpositive : 2 ≤ s.here + 1 := by
    have := s.below
    omega
  exact h.homeFrom_free hfree _ hpositive

theorem At.readName_environment (h : s.At vars m) :
    Ends (readName environmentName s.here) m (.environment s.environment) m := by
  refine Ends.bind (h.homeOf_free s.free) (Ends.bind (Ends.frame h.program) ?_)
  rw [show s.program.vars.lookup environmentName = _ from s.knows]
  exact .pure

/-- A name that neither the function nor the program gives a value is one that every script knows. -/
theorem At.readName_known (h : s.At vars m) (hfree : s.locals.contains name = false)
    (hnone : s.known.lookup name = none) (hknown : Ends (knownName name) m (some v) m) :
    Ends (readName name s.here) m v m := by
  refine Ends.bind (h.homeOf_free hfree) (Ends.bind (Ends.frame h.program) ?_)
  rw [show s.program.vars.lookup name = none from hnone]
  exact Ends.bind hknown .pure

end Site

/-- A frame of a function that was defined at a site. -/
structure Inside (s : Site) (g : Nat) (fr : Frame) (m : Machine) : Prop where
  /-- The frame. -/
  frame : m.frames[g]? = some fr
  /-- It came later. -/
  above : s.here < g
  /-- The function was defined there. -/
  parent : fr.parent = some s.here
  /-- It declares nothing global. -/
  globals : fr.globals = []

namespace Inside

variable {s : Site} {vars : List (String × Value)}

/-- A name that a function does not bind is looked for around it. -/
theorem homeOf_around (h : Inside s g fr m) (hfree : fr.locals.contains name = false) {home : Home}
    (hhome : Ends (homeFrom name g g s.here) m home m) : Ends (homeOf name g) m home m := by
  refine Ends.bind (Ends.frame h.frame) ?_
  rw [hfree, if_neg Bool.false_ne_true, h.parent, h.globals]
  exact hhome

/-- The variables of the function around are read. -/
theorem readName_around (h : Inside s g fr m) (hat : s.At vars m)
    (hfree : fr.locals.contains name = false) (hown : s.locals.contains name = true)
    (hv : vars.lookup name = some v) : Ends (readName name g) m v m := by
  obtain ⟨fuel, hfuel⟩ : ∃ fuel, g = fuel + 1 := Nat.exists_eq_add_one.mpr
    (Nat.lt_of_le_of_lt (Nat.zero_le _) h.above)
  have hother : (s.here == g) = false := beq_false_of_ne (Nat.ne_of_lt h.above)
  have hhome : Ends (homeFrom name g g s.here) m (.outer s.here) m := by
    obtain ⟨fuel', rfl⟩ : ∃ fuel, g = fuel + 1 := ⟨fuel, hfuel⟩
    refine Ends.bind (Ends.frame hat.frame) ?_
    rw [show (s.frame vars).locals.contains name = true from hown, if_pos rfl, hother,
      if_neg Bool.false_ne_true]
    exact .pure
  refine Ends.bind (h.homeOf_around hfree hhome) (Ends.bind (Ends.frame hat.frame) ?_)
  rw [show (s.frame vars).vars.lookup name = some v from hv]
  exact .pure

/-- So is the environment. -/
theorem readName_environment (h : Inside s g fr m) (hat : s.At vars m)
    (hfree : fr.locals.contains environmentName = false) :
    Ends (readName environmentName g) m (.environment s.environment) m := by
  have hpositive : 2 ≤ g := by
    have hbelow := s.below
    have habove := h.above
    omega
  refine Ends.bind (h.homeOf_around hfree (hat.homeFrom_free s.free g hpositive))
    (Ends.bind (Ends.frame hat.program) ?_)
  rw [show s.program.vars.lookup environmentName = _ from s.knows]
  exact .pure

end Inside

end Names

/-! ## §3. Functions of two parameters. -/

/-- A function of a suite, defined in a frame. -/
def closureIn (f : Nat) (path : String) (isAsync : Bool) (name : Ident) (ps : Parameters) (b : Suite)
    (line : Nat) : Closure where
  name := name.text
  path := path
  params := ps.trees
  defaults := if ps.spare then [(ps.second.text, .none)] else []
  body := .block (b.lines line)
  locals := (namesOfFunction ps.trees (.block (b.lines line))).own
  globals := (namesOfFunction ps.trees (.block (b.lines line))).globals
  frame := f
  isAsync := isAsync

section Functions

variable {c : Closure} {ps : Parameters} {m : Machine} {v w : Value}

theorem paramsOf_two (hparams : c.params = ps.trees) :
    c.paramsOf [.positional, .ordinary] = [ps.first.text, ps.second.text]
      ∧ c.paramsOf [.named] = [] ∧ c.paramsOf [.gather] = [] ∧ c.paramsOf [.gatherNamed] = [] := by
  unfold Closure.paramsOf
  rw [hparams]
  exact ⟨rfl, rfl, rfl, rfl⟩

/-- Two arguments. -/
theorem bindArguments_two (hparams : c.params = ps.trees)
    (hdefaults : c.defaults = if ps.spare then [(ps.second.text, .none)] else []) :
    Ends (bindArguments c [v, w] []) m [(ps.first.text, v), (ps.second.text, w)] m := by
  obtain ⟨hpositional, hnamed, hgather, hothers⟩ := paramsOf_two hparams
  unfold bindArguments
  rw [hpositional, hnamed, hgather, hothers, hdefaults]
  cases ps.spare <;> simp [bindKeywords] <;> rfl

/-- One argument, where the other one may be left out. -/
theorem bindArguments_spare (hparams : c.params = ps.trees)
    (hdefaults : c.defaults = [(ps.second.text, .none)]) :
    Ends (bindArguments c [v] []) m [(ps.first.text, v), (ps.second.text, .none)] m := by
  obtain ⟨hpositional, hnamed, hgather, hothers⟩ := paramsOf_two hparams
  have hdistinct := ps.distinct
  unfold bindArguments
  rw [hpositional, hnamed, hgather, hothers, hdefaults]
  simp [bindKeywords, hdistinct]
  rfl

/-- The frame of a call. -/
def Closure.frameOf (c : Closure) (vars : List (String × Value)) (program : Nat) : Frame where
  vars := vars
  locals := c.locals
  globals := c.globals
  parent := some c.frame
  program := program
  path := c.path

/-- A call opens a frame and runs the body, or makes a coroutine that does. -/
theorem callClosure_run {args : List Value} {vars : List (String × Value)} {around : Frame}
    (hbind : Ends (bindArguments c args []) m vars m) (hplain : c.handsOut = false)
    (haround : m.frames[c.frame]? = some around) (p : Powers) :
    (callClosure p c args []).run m
      = (if c.isAsync then newCoroutine (.body c m.frames.size) else runBody p c m.frames.size).run
        (m.withFrame (c.frameOf vars around.program)) := by
  unfold callClosure
  rw [run_bind_ok hbind, hplain, if_neg Bool.false_ne_true]
  refine (run_bind_ok (Ends.frame haround) _).trans ?_
  cases c.isAsync <;> rfl

end Functions

/-! ## §4. Statements. -/

/-- A computation ends with a value, on a machine with some property. -/
def Reaches {α : Type} (x : Eval α) (m : Machine) (a : α) (Q : Machine → Prop) : Prop :=
  ∃ m', Ends x m a m' ∧ Q m'

/-- A statement ends with a flow, whatever line it stands on. -/
def Performs (p : Powers) (f : Nat) (s : Sentence) (m : Machine) (flow : Flow)
    (Q : Machine → Prop) : Prop :=
  ∀ line, Reaches (stmt p f (s.stmt line)) m flow Q

/-- The lines of statements, from one on. -/
def linesOf (line : Nat) : List Sentence → List Line
  | [] => []
  | s :: ss => .mk line (s.stmt line) :: linesOf (line + Code.heights s.codes) ss

/-- The lines of statements before others are theirs and the others'. -/
theorem lines_before (ss : List Sentence) (b : Suite) (line : Nat) :
    ∃ n, (Suite.before ss b).lines line = linesOf line ss ++ b.lines n := by
  induction ss generalizing line with
  | nil => exact ⟨line, rfl⟩
  | cons s ss ih =>
      obtain ⟨n, hn⟩ := ih (line + Code.heights s.codes)
      exact ⟨n, congrArg (_ :: ·) hn⟩

/-- Statements go on to what follows them, whatever lines they stand on. -/
def Proceeds (p : Powers) (f : Nat) (ss : List Sentence) (m : Machine) (Q : Machine → Prop) : Prop :=
  ∀ line, Reaches (block p f (linesOf line ss)) m .next Q

section Statements

variable {p : Powers} {f : Nat} {s : Sentence} {ss : List Sentence} {b : Suite} {m m₁ : Machine}
  {flow : Flow} {P Q : Machine → Prop} {ls rest : List Line}

theorem Proceeds.nil (h : Q m) : Proceeds p f [] m Q := fun _ => ⟨m, .pure, h⟩

theorem Proceeds.cons (hs : Performs p f s m .next P) (hss : ∀ m₁, P m₁ → Proceeds p f ss m₁ Q) :
    Proceeds p f (s :: ss) m Q := by
  intro line
  obtain ⟨m₁, hs, hP⟩ := hs line
  obtain ⟨m₂, hss, hQ⟩ := hss m₁ hP (line + Code.heights s.codes)
  exact ⟨m₂, Ends.bind hs hss, hQ⟩

/-- Lines one after another. -/
theorem block_append (p : Powers) (f : Nat) (ls rest : List Line) :
    block p f (ls ++ rest) = (do
      match ← block p f ls with
      | .next => block p f rest
      | flow => return flow) := by
  induction ls with
  | nil => rfl
  | cons l ls ih =>
      obtain ⟨line, st⟩ := l
      rw [List.cons_append, block, block, ih, bind_assoc]
      congr 1
      funext flow
      cases flow <;> rfl

/-- Lines that go on. -/
theorem block_append_run (h : Ends (block p f ls) m .next m₁) :
    (block p f (ls ++ rest)).run m = (block p f rest).run m₁ := by
  rw [block_append]
  exact run_bind_ok h _

/-- A single line is its statement. -/
theorem block_one (line : Nat) (st : Stmt) : block p f [.mk line st] = stmt p f st := by
  rw [block]
  conv => rhs; rw [← bind_pure (stmt p f st)]
  congr 1
  funext flow
  cases flow <;> rfl

/-- A function that is defined is a value of its name. -/
theorem Performs.define {st : Site} {vars : List (String × Value)} (h : st.At vars m)
    (hpath : st.path.isEmpty = false) {isAsync : Bool} {name : Ident} {ps : Parameters}
    (hown : st.locals.contains name.text = true)
    (hQ : ∀ line, Q ((m.withCell (.closure (closureIn st.here
      (st.path ++ ".<locals>." ++ name.text) isAsync name ps b line))).withValue st.here name.text
        (.ref m.heap.size))) :
    Performs p st.here (.define isAsync name ps b) m .next Q := by
  intro line
  let c := closureIn st.here (st.path ++ ".<locals>." ++ name.text) isAsync name ps b (line + 1)
  have hpath : Ends (pathIn name.text st.here) m (st.path ++ ".<locals>." ++ name.text) m := by
    refine Ends.bind (Ends.frame h.frame) ?_
    rw [show (st.frame vars).path.isEmpty = false from hpath]
    exact .pure
  have hnew : Ends (newFunction name.text ps.trees
      (if ps.spare then [(ps.second.text, .none)] else []) (.block (b.lines (line + 1))) isAsync
        st.here) m (.ref m.heap.size) (m.withCell (.closure c)) := Ends.bind hpath rfl
  have hbind := (h.keeps (.withCell m (.closure c))).bindName_own (v := .ref m.heap.size) hown
  have hdefaults : Ends (paramDefaults p st.here ps.trees) m
      (if ps.spare then [(ps.second.text, .none)] else []) m := by
    obtain ⟨first, second, spare, hdistinct⟩ := ps
    cases spare <;> rfl
  have hdefine : Ends (Machine.define p st.here isAsync name.text ps.trees (b.lines (line + 1)) []
      none) m () _ :=
    Ends.bind .pure (Ends.bind hdefaults (Ends.bind .pure (Ends.bind hnew (Ends.bind .pure hbind))))
  exact ⟨_, Ends.bind hdefine .pure, hQ _⟩

end Statements

end TagTemplate.Machine
