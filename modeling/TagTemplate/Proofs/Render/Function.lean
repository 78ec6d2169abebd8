/-
  TagTemplate.Proofs.Render.Function
  ────────────────────────────────
  **WHAT A RENDER FUNCTION DOES.**

  Whatever a template does, its lines stand in a function that is the same for
  all templates (`IsRenderFunction`): it opens the books, runs the lines of
  the template, asks for a layout if there is to be one, and has the output as
  its value.

    • `closure_locals`: the names that the function owns.
    • `closure_isRenderFunction`: the function of some sentences is one.
-/
import TagTemplate.Machine.Host
import TagTemplate.Proofs.Render.Underway

namespace TagTemplate

open Script Machine

namespace RenderFunction

/-! ## §1. The lines of the function. -/

/-- The numbers of the lines of a render function that are the same for all templates. -/
structure Numbers where
  opening : Nat
  choice : Nat
  result : Nat
  guard : Nat
  handlers : Nat

/-- What a template runs: its lines, and its source if errors are reported. -/
structure Program where
  isAsync : Bool
  source : Option Quotation
  own : List Line
  numbers : Numbers

namespace Program

variable (P : Program)

/-- The lines that open the books. -/
def opening : List Line := linesOf P.numbers.opening (RenderFunction.opening P.source)

/-- The question whether there is a layout. -/
def choice : List Line := [.mk P.numbers.choice ((layoutChoice P.isAsync).stmt P.numbers.choice)]

/-- The lines of the template, and the question behind them. -/
def inner : List Line := P.own ++ P.choice

/-- The last line. -/
def result : List Line := [.mk P.numbers.result (RenderFunction.result.stmt P.numbers.result)]

/-- The lines behind the opening; with a source, errors are reported. -/
def core : List Line :=
  match P.source with
  | none => P.inner ++ P.result
  | some _ =>
    .mk P.numbers.guard (.tryBlock P.inner (reportHandlers.trees P.numbers.handlers) [] [] false)
      :: P.result

end Program

/-- **A function is the render function of a template.** -/
structure IsRenderFunction (P : Program) (c : Closure) : Prop where
  params : c.params = parameters.trees
  defaults : c.defaults = []
  body : c.body = .block (P.opening ++ P.core)
  named : c.path.isEmpty = false
  owns : ∀ name ∈ ownNames, c.locals.contains name = true
  handles : P.source.isSome → c.locals.contains errorName.text = true
  free : c.locals.contains Machine.environmentName = false
  plain : c.handsOut = false
  isAsync : c.isAsync = P.isAsync

/-- The lines of the function around sentences are those around their lines. -/
theorem body_lines (isAsync : Bool) (own : List Sentence) (source : Option Quotation) (line : Nat) :
    ∃ P : Program, (body isAsync own source).lines line = P.opening ++ P.core
      ∧ P.isAsync = isAsync ∧ P.source = source ∧ ∃ first, P.own = linesOf first own := by
  obtain ⟨core, hbody⟩ := lines_before (opening source) (RenderFunction.core isAsync own source) line
  cases source with
  | none =>
      obtain ⟨choice, hcore⟩ :=
        lines_before own (.cons (layoutChoice isAsync) (.one result)) core
      refine ⟨⟨isAsync, none, linesOf core own,
        ⟨line, choice, choice + Code.heights (layoutChoice isAsync).codes, 0, 0⟩⟩, ?_, rfl, rfl,
        core, rfl⟩
      refine hbody.trans (congrArg (_ ++ ·) (hcore.trans ?_))
      exact (List.append_assoc _ [_] [_]).symm
  | some q =>
      obtain ⟨choice, hguarded⟩ := lines_before own (.one (layoutChoice isAsync)) (core + 1)
      let guarded := Suite.before own (.one (layoutChoice isAsync))
      refine ⟨⟨isAsync, some q, linesOf (core + 1) own,
        ⟨line, choice, core + Code.heights (Sentence.guard guarded reportHandlers).codes, core,
          core + (1 + Code.heights guarded.codes)⟩⟩, hbody.trans ?_, rfl, rfl, core + 1, rfl⟩
      unfold Program.opening
      congr 1
      show [Line.mk core (.tryBlock (guarded.lines (core + 1)) _ [] [] false), _] = _
      rw [hguarded]
      rfl

/-! ## §2. The function of sentences. -/

/-- The render function of sentences, defined in a frame. -/
def closure (isAsync : Bool) (own : List Sentence) (source : Option Quotation) (top : Nat) :
    Closure :=
  closureIn top renderName isAsync functionName parameters
    (body isAsync own source) 2

theorem binders_before (ss : List Sentence) (b : Suite) :
    (Suite.before ss b).binders = ss.flatMap Sentence.binders ++ b.binders := by
  induction ss with
  | nil => rfl
  | cons s ss ih =>
      show s.binders ++ (Suite.before ss b).binders = _
      rw [ih, List.flatMap_cons, List.append_assoc]

/-- What the function binds: its names, what the sentences bind, and the error it handles. -/
theorem body_binders (isAsync : Bool) (own : List Sentence) (source : Option Quotation) :
    (body isAsync own source).binders
      = bodyNames ++ (own.flatMap Sentence.binders
          ++ if source.isSome then [errorName.text] else []) := by
  have hopening : (opening source).flatMap Sentence.binders = bodyNames := by cases source <;> rfl
  unfold body
  rw [binders_before, hopening]
  congr 1
  cases source with
  | none => exact binders_before own _
  | some q =>
      show (Suite.before own _).binders ++ [errorName.text] ++ [] = _
      rw [binders_before, List.append_nil, List.append_assoc]
      rfl

theorem closure_locals (isAsync : Bool) (own : List Sentence) (source : Option Quotation) (top : Nat)
    (name : String) : (closure isAsync own source top).locals.contains name = true
      ↔ name ∈ ["it", "options"] ++ (body isAsync own source).binders := by
  rw [← List.contains_iff_mem]
  exact iff_of_eq (congrArg (· = true)
    ((namesOfFunction_suite parameters (body isAsync own source) 2).2 name))

/-- **The render function of sentences is one**, if they do not bind the environment. -/
theorem closure_isRenderFunction (isAsync : Bool) {own : List Sentence}
    (hown : ∀ s ∈ own, (Suite.one s).Fits isAsync "it" 2)
    (hfree : ∀ s ∈ own, Machine.environmentName ∉ s.binders) (source : Option Quotation)
    (top : Nat) : ∃ P, IsRenderFunction P (closure isAsync own source top)
      ∧ P.isAsync = isAsync ∧ P.source = source ∧ ∃ first, P.own = linesOf first own := by
  obtain ⟨P, hlines, hasync, hsource, hlinesOf⟩ := body_lines isAsync own source 2
  have hnames := closure_locals isAsync own source top
  have hout : (closure isAsync own source top).handsOut = false :=
    (body_fits isAsync source hown).plain 2
  refine ⟨P, ⟨rfl, rfl, congrArg Body.block hlines, rfl, ?_, ?_, ?_, hout, hasync.symm⟩, hasync,
    hsource, hlinesOf⟩
  · intro name hname
    rw [hnames, body_binders, ← List.append_assoc]
    exact List.mem_append_left _ hname
  · intro hsome
    rw [hsource] at hsome
    rw [hnames, body_binders, hsome]
    simp
  · rw [Bool.eq_false_iff]
    intro hbound
    rw [hnames, body_binders, List.mem_append, List.mem_append, List.mem_append,
      List.mem_flatMap] at hbound
    rcases hbound with h | h | ⟨s, hs, h⟩ | h
    · exact absurd h (by decide)
    · exact absurd h (by decide)
    · exact hfree s hs h
    · cases hsource : source.isSome <;> rw [hsource] at h <;> revert h <;> decide

end RenderFunction

end TagTemplate
