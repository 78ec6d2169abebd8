/-
  TagTemplate.Proofs.Render.Compiled
  ────────────────────────────────
  **TEMPLATES WHOSE TAGS STAND SIDE BY SIDE HAVE A RENDER FUNCTION.**

  The program of a template defines its render function and nothing else, and
  the template keeps it together with its options.

    • `compileTemplate_straight`: what compiling such a template leaves.
-/
import TagTemplate.Proofs.Code.StraightTree
import TagTemplate.Proofs.Render.Start

namespace TagTemplate

open Script Machine

namespace RenderFunction

/-! ## §1. The program. -/

section Definition

variable (p : Powers) (isAsync : Bool) (own : List Sentence) (source : Option Quotation)
  {m : Machine}

/-- The tree of the render function is that of a definition. -/
theorem define_run {f : Nat} {known : List (String × Value)}
    (hframe : m.frames[f]? = some { vars := known, program := f }) :
    Ends (block p f ((function isAsync own source).lines 1)) m .next
      ((m.withCell (.closure (closure isAsync own source f))).withValue f renderName
        (.ref m.heap.size)) := by
  let m₁ := m.withCell (.closure (closure isAsync own source f))
  have hpath : Ends (pathIn renderName f) m renderName m := Ends.bind (Ends.frame hframe) .pure
  have hnew : Ends (newFunction renderName parameters.trees []
      (.block ((body isAsync own source).lines 2)) isAsync f) m (.ref m.heap.size) m₁ :=
    Ends.bind hpath rfl
  have hhome : Ends (homeOf renderName f) m₁ (.program f) m₁ := Ends.bind (Ends.frame hframe) .pure
  have hbind : Ends (bindName renderName (.ref m.heap.size) f) m₁ ()
      (m₁.withValue f renderName (.ref m.heap.size)) := Ends.bind hhome rfl
  have hdefine : Ends (define p f isAsync renderName parameters.trees
      ((body isAsync own source).lines 2) [] none) m () _ :=
    Ends.bind .pure (Ends.bind .pure (Ends.bind .pure (Ends.bind hnew (Ends.bind .pure hbind))))
  exact Ends.bind (Ends.bind hdefine .pure) .pure

/-- **The program of a template defines its render function**, and knows the environment and the global
names beside it. -/
theorem runProgram_defines (m : Machine) (env : Nat) (globals : List (String × Value)) :
    ∃ vars m', Ends (runProgram p ((function isAsync own source).lines 1)
        (withVar globals Machine.environmentName (.environment env))) m m.frames.size m'
      ∧ m'.frames[m.frames.size]? = some { vars, program := m.frames.size }
      ∧ m'.heap[m.heap.size]? = some (.closure (closure isAsync own source m.frames.size))
      ∧ vars.lookup renderName = some (.ref m.heap.size)
      ∧ vars.lookup Machine.environmentName = some (.environment env)
      ∧ (∀ x, x ≠ renderName → x ≠ Machine.environmentName → vars.lookup x = globals.lookup x)
      ∧ Keeps m m' ∧ m'.context = m.context := by
  let known := withVar globals Machine.environmentName (.environment env)
  let m₁ := (m.withFrame { vars := known, program := m.frames.size }).withCell
    (.closure (closure isAsync own source m.frames.size))
  have hkeeps : Keeps m m₁ := ⟨withCell_old, withFrame_old, rfl, rfl⟩
  refine ⟨withVar known renderName (.ref m.heap.size),
    m₁.withValue m.frames.size renderName (.ref m.heap.size), ?_, withValue_same withFrame_new _ _,
    withCell_new, ?_, ?_, ?_, hkeeps.withValue (Nat.le_refl _) renderName _, rfl⟩
  · exact Ends.bind .get
      (Ends.bind rfl (Ends.bind (define_run p isAsync own source withFrame_new) .pure))
  · rw [lookup_withVar]
    rfl
  · rw [lookup_withVar, lookup_withVar]
    rfl
  · intro x hfunction hx
    rw [lookup_withVar, if_neg (by simpa using hfunction), lookup_withVar, if_neg (by simpa using hx)]

end Definition

/-! ## §2. The template. -/

/-- **A template has a render function of steps**, and its own name and options. -/
structure Compiled (env : Nat) (globals : List (String × Value)) (name filename : Option String)
    (isAsync : Bool) (source : Option Quotation) (steps : List Step) (P : Program) (t : Template)
    (c : Closure) (m : Machine) : Prop where
  function : HasFunction P t c m
  /-- The function owns its names, what the steps bind, and the error it handles. -/
  locals : ∀ x, c.locals.contains x = true →
    x ∈ ["it", "options"] ++ (body isAsync (steps.map Step.sentence) source).binders
  /-- The program knows the global names. -/
  known : ∃ known, m.frames[c.frame]? = some { vars := known, program := c.frame }
    ∧ ∀ x, x ≠ renderName → x ≠ Machine.environmentName → known.lookup x = globals.lookup x
  isAsync : P.isAsync = isAsync
  source : P.source = source
  own : ∃ first, P.own = linesOf first (steps.map Step.sentence)
  environment : t.environment = env
  name : t.name = name
  filename : t.filename = filename
  options : ∃ id, t.options = .ref id ∧ m.heap[id]? = some (optionsCell t)

/-- The steps of a template leave the name of the environment alone. -/
def LeaveEnvironment (steps : List Step) : Prop :=
  ∀ s ∈ steps, Machine.environmentName ∉ s.sentence.binders

section Compile

variable {m : Machine} {env : Nat} {shared : Shared}
  (hshared : m.environments[env]? = some shared)
  (hscan : shared.environment.scan.plugins = []) (hcode : shared.environment.code.plugins = [])
  (hheader : shared.environment.code.header = "")
  (hcontext : shared.environment.code.contextName = "it")
include hshared hscan hcode hheader hcontext

/-- **A template whose tags stand side by side has a render function of its steps.** -/
theorem compileTemplate_straight {text : String} {asyncMode : Bool} {step : TagSpan → Step}
    (hstep : ∀ piece ∈ (scanTags shared.environment.scan.delimiters text.toList).1,
      tagInstruction shared.environment.code (shared.environment.scan.kindOf piece.2.mark)
        (String.ofList piece.2.body) = (step piece.2).instruction)
    (hfit : AllFit asyncMode
      (stepsOf shared.environment.scan shared.environment.code step text.toList))
    (hleave : LeaveEnvironment
      (stepsOf shared.environment.scan shared.environment.code step text.toList))
    {name filename : Option String} (hplace : IsPlace name filename) (p : Powers) :
    ∃ P t c m', Ends (compileTemplate p env text name filename (some asyncMode)) m t m'
      ∧ Compiled env shared.globals name filename asyncMode (sourceOf? shared.environment.code text)
          (stepsOf shared.environment.scan shared.environment.code step text.toList) P t c m'
      ∧ Keeps m m' ∧ m'.context = m.context := by
  let settings : CodeSettings := { shared.environment.code with asyncMode }
  let steps := stepsOf shared.environment.scan shared.environment.code step text.toList
  let own := steps.map Step.sentence
  let source := sourceOf? shared.environment.code text
  have hcompile := compile_straight hscan hcode hheader hcontext hstep hfit hplace m.surroundings
  obtain ⟨journal, htraced⟩ := ofTraced_ends hcompile m
  let m₁ : Machine := { m with journal }
  obtain ⟨vars, m₂, hprogram, hframe, hclosure, hfunction, hknown, hglobals, hkeeps₂, hcontext₂⟩ :=
    runProgram_defines p asyncMode own source m₁ env shared.globals
  let c := closure asyncMode own source m.frames.size
  let t : Template :=
    { environment := env, function := .ref m.heap.size, name, filename
      source := text, code := functionCode settings text steps, isAsync := asyncMode
      options := .ref m₂.heap.size }
  let m₃ := m₂.withCell (optionsCell t)
  have hbefore : Keeps m m₂ :=
    ⟨hkeeps₂.cells, hkeeps₂.frames, hkeeps₂.environments, hkeeps₂.surroundings⟩
  have hsentences : ∀ s ∈ own, ∃ step ∈ steps, step.sentence = s := fun s hs =>
    List.mem_map.mp hs
  have hfits : ∀ s ∈ own, (Suite.one s).Fits asyncMode "it" 2 := by
    intro s hs
    obtain ⟨step, hstep, rfl⟩ := hsentences s hs
    exact hfit step hstep
  have hleaves : ∀ s ∈ own, Machine.environmentName ∉ s.binders := by
    intro s hs
    obtain ⟨step, hstep, rfl⟩ := hsentences s hs
    exact hleave step hstep
  obtain ⟨P, hrender, hasync, hsource, hown⟩ :=
    closure_isRenderFunction asyncMode hfits hleaves source m.frames.size
  refine ⟨P, t, c, m₃, ?_, ⟨⟨hasync.symm, ⟨_, rfl, withCell_old hclosure⟩, hrender,
    ⟨vars, hframe, hknown⟩, ⟨shared, hkeeps₂.environments ▸ hshared⟩⟩,
    fun x => (closure_locals asyncMode own source m.frames.size x).mp, ⟨vars, hframe, hglobals⟩,
    hasync, hsource, hown, rfl, rfl, rfl, ⟨_, rfl, withCell_new⟩⟩,
    hbefore.trans (.withCell m₂ _), hcontext₂⟩
  unfold compileTemplate
  refine Ends.bind (sharedAt_run hshared) (Ends.bind .get (Ends.bind htraced (Ends.bind hprogram
    (Ends.bind (Ends.frame hframe) ?_))))
  rw [hfunction]
  exact Ends.bind (Ends.new _) .pure

end Compile

end RenderFunction

end TagTemplate
