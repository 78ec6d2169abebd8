/-
  TagTemplate.Proofs.Render.ErrorChain
  ────────────────────────────────
  **AN ERROR BECOMES A REPORT ONCE, IN THE INNERMOST TEMPLATE.**

  Templates ask for one another, and a tag of the innermost one raises an
  error (`TagRaises`).  If the handler there catches it, what leaves all of
  them is the report that was made there; an error of the library leaves all
  of them as it is.

    • `chain_reports`: both.
-/
import TagTemplate.Proofs.Render.Loaded
import TagTemplate.Proofs.Render.Reports

namespace TagTemplate

open Script Machine

namespace RenderFunction

/-! ## §1. Which errors a handler catches. -/

section Catches

variable {s : Stage} {b : Books} {items : Array Value} {m : Machine} {className : String}

/-- Where the name `Exception` has no other meaning, the handler catches what is below that class. -/
theorem catches_builtin (h : Underway s b items m) (hleaves : s.LeavesName "Exception")
    (hbelow : ErrorClass.isBelow className "Exception" = true) : Catches s m className := by
  obtain ⟨vars, hat, _⟩ := h.frame
  refine ⟨.errorClass "Exception", fun handled => ?_, fun m' => ?_⟩
  · exact (Site.At.withHandled hat handled).readName_known hleaves.1 hleaves.2 .pure
  · rw [← hbelow]
    exact .pure

/-- An error that is none of the library and that the handler does not catch passes the handlers. -/
theorem handlers_pass {s : Site} {vars : List (String × Value)} {m : Machine} {p : Powers}
    {id line : Nat} {e : Raised} {v : Value} (h : s.At vars m) (hcell : m.heap[id]? = some (.error e))
    (hother : ErrorClass.isBelow e.className "TemplateError" = false)
    (hclass : ∀ handled, Ends (readName "Exception" s.here) { m with handled } v { m with handled })
    (hstands : Ends (stands e.className v) m false m) :
    (handlers p s.here id (reportHandlers.trees line)).run m = (.error (.raised id), m) := by
  have htemplate : ∀ handled, Ends (expr p s.here
      (.attribute (.name "__kiln_env" .load) "TemplateError")) { m with handled }
      (.errorClass "TemplateError") { m with handled } :=
    fun _ => templateClass_ends (Site.At.withHandled h _)
  have hnot : Ends (stands e.className (.errorClass "TemplateError")) m false m := by
    rw [← hother]
    exact .pure
  have hread : Ends (handling id (expr p s.here (.name "Exception" .load))) m v m :=
    Ends.handling (hclass _) rfl
  exact (handlers_other hcell (Ends.handling (htemplate (id :: m.handled)) rfl) hnot).trans
    (handlers_other hcell hread hstands)


end Catches

/-! ## §2. Tags that raise errors. -/

/-- **A tag of a level raises an error**: the lines before the tag go on, its line is recorded, counted
from zero, and what the tag does ends with the error.  It records no other line itself. -/
structure TagRaises (L : Level) (line : Nat) (id : Nat) (e : Raised) (m : Machine) : Prop where
  lines : ∃ before tag after number b items m₁,
    L.program.own = before ++ (.mk number ((markSentence line).stmt number) :: tag ++ after)
    ∧ Ends (block (powers (L.depth + 1)) L.stage.here before) L.start .next m₁
    ∧ Underway L.stage b items m₁
    ∧ (block (powers (L.depth + 1)) L.stage.here tag).run
        (m₁.withContent L.stage.state (.object .state { b with line := .int (line + 1) }.fields))
      = (.error (.raised id), m)
  spares : Spares L.start m
  recorded : ∃ b items, Underway L.stage b items m ∧ b.line = .int (line + 1)
  cell : m.heap[id]? = some (.error e)

/-- The lines of the level end with the error. -/
theorem TagRaises.inner {L : Level} {line id : Nat} {e : Raised} {m : Machine}
    (h : TagRaises L line id e m) :
    (block (powers (L.depth + 1)) L.stage.here L.program.inner).run L.start
      = (.error (.raised id), m) := by
  obtain ⟨before, tag, after, number, b, items, m₁, hown, hbefore, hunderway, htag⟩ := h.lines
  have hmark : Ends (block (powers (L.depth + 1)) L.stage.here
      [.mk number ((markSentence line).stmt number)]) m₁ .next
      (m₁.withContent L.stage.state
        (.object .state { b with line := .int (line + 1) }.fields)) := by
    rw [block_one]
    exact mark_ends hunderway line number
  have hsplit : L.program.inner
      = before ++ ([.mk number ((markSentence line).stmt number)] ++ (tag ++ (after ++ L.program.choice))) := by
    unfold Program.inner
    rw [hown]
    simp
  rw [hsplit, block_append_run hbefore, block_append_run hmark, block_append]
  exact run_bind_error htag _

/-- A line that raises a new error of a class. -/
def raiseSentence (w : Ident) : Sentence := .raiseFrom (.plain (.name w)) (.plain .none)

/-- A new error of a class has nothing but its class. -/
def IsBare (className : String) : Prop :=
  ∀ m, Ends (instantiate className [] none) m { className } m

section Raise

variable {w : Ident} {m : Machine} {f : Nat} {className : String}

theorem raise_run (hclass : Ends (readName w.text f) m (.errorClass className) m)
    (hbare : IsBare className) (n line : Nat) :
    (stmt (powers (n + 1)) f ((raiseSentence w).stmt line)).run m
      = (.error (.raised m.heap.size), m.withCell (.error { className })) := by
  have hmade : Ends ((powers (n + 1)).call (.errorClass className) [] []) m (.ref m.heap.size)
      (m.withCell (.error { className })) := Ends.bind (hbare m) (Ends.new _)
  have herror : Ends (errorOf? (powers (n + 1)) (.errorClass className)) m (some m.heap.size)
      (m.withCell (.error { className })) :=
    Ends.bind hmade (Ends.bind (Ends.cellOf withCell_new) .pure)
  refine (run_bind_ok hclass _).trans ((run_bind_ok (Ends.bind .pure .pure) _).trans ?_)
  refine (run_bind_ok herror _).trans ?_
  -- that it has no cause is set in its cell
  refine (run_bind_ok (Ends.setCell withCell_new _) _).trans ?_
  rw [withCell_withContent]
  rfl

/-- A level whose one tag raises an error. -/
theorem Begun.tagRaises {env : Nat} {isAsync : Bool} {wanted : String} {data options : Value}
    {L : Level} {first k : Nat} (h : Begun env isAsync wanted data options m L)
    (hown : L.program.own = linesOf first [markSentence k, raiseSentence w])
    (hclass : ∀ {b items m}, Underway L.stage b items m →
      Ends (readName w.text L.stage.here) m (.errorClass className) m)
    (hbare : IsBare className) : ∃ id m₂, TagRaises L k id { className } m₂ := by
  have hunderway := h.underway
  let b : Books := { L.books with line := .int (k + 1) }
  let m₁ := L.start.withContent L.stage.state (.object .state b.fields)
  have hrecorded : Underway L.stage b #[] m₁ := hunderway.withBooks rfl
  have hspares : Spares L.start m₁ := hunderway.withBooks_spares rfl
  have hraised : Keeps m₁ (m₁.withCell (.error { className })) := .withCell m₁ _
  refine ⟨m₁.heap.size, m₁.withCell (.error { className }),
    ⟨[], [.mk (first + 1) ((raiseSentence w).stmt (first + 1))], [], first, L.books, #[], L.start, hown,
      .pure, hunderway, ?_⟩,
    hspares.trans (.ofKeeps hraised rfl), ⟨b, #[], hrecorded.keeps hraised, rfl⟩, withCell_new⟩
  rw [block_one]
  exact raise_run (hclass hrecorded) hbare L.depth _

end Raise

/-- The line of a tag that raises a new error. -/
def raiseRow (w : Ident) : List Lexeme :=
  [.word "raise", .gap, .name w.text, .gap, .word "from", .gap, .word "None"]

def valueErrorName : Ident := ⟨"ValueError", by decide, by decide⟩

def exitName : Ident := ⟨"SystemExit", by decide, by decide⟩

/-- Such a line as a tag. -/
def raiseAction (w : Ident) (h : standsAlone (raiseRow w) = true) : Action :=
  .ofRow (raiseSentence w) (raiseRow w) rfl h

theorem raise_fits {w : Ident} (hw : w = valueErrorName ∨ w = exitName) (isAsync : Bool) :
    (Suite.one (raiseSentence w)).Fits isAsync "it" 2 where
  depth := Nat.le_of_ble_eq_true rfl
  fine := by rcases hw with rfl | rfl <;> rfl
  placed _ _ := rfl
  plain _ := rfl
  provided := by
    refine provided_of_first (fun _ => rfl) ?_
    show allProvided "it" [.reads w.text] = true
    rcases hw with rfl | rfl <;> decide

/-- A text that raises an error on one of its lines, in an environment that reports errors. -/
theorem exists_raising (isAsync : Bool) {env : Nat} {shared : Shared} {loader : Loader}
    {wanted text : String} {gap : List Char} {left : Option Char} {filename parent : Option String}
    {options : Value} {m : Machine} {w : Ident} (hw : w = valueErrorName ∨ w = exitName)
    (h : standsAlone (raiseRow w) = true)
    (hshared : m.environments[env]? = some shared) (hplain : IsPlain shared.environment)
    (hrecorded : (shared.environment.scan.debug && shared.environment.code.debug) = true)
    (hglobals : shared.globals = [])
    (hloader : shared.environment.blueprint.loader = some loader)
    (hparent : Ends (parentName options) m parent m)
    (hloaded : loader.get m.surroundings (resolveName wanted parent) = .ok ⟨text, filename⟩)
    (hplace : IsPlace (some (resolveName wanted parent)) filename)
    (hcut : scanTags shared.environment.scan.delimiters text.toList
      = ([(gap, (raiseAction w h).span left)], []))
    (htrim : trim shared.environment.scan .free (.ofMarker left) gap = []) (data : Value) (n : Nat) :
    ∃ L id m₂, L.depth = n ∧ Begun env isAsync wanted data options m L
      ∧ L.template.name = some (resolveName wanted parent) ∧ L.template.filename = filename
      ∧ L.program.source = sourceOf? shared.environment.code text
      ∧ L.stage.LeavesName "Exception"
      ∧ TagRaises L (gap.count '\n') id { className := w.text } m₂ := by
  have hclass : ∀ x ∈ ["Exception", w.text], x ∉ ownNames ++ [errorName.text] ∧ x ≠ renderName
      ∧ x ≠ Machine.environmentName := by
    rcases hw with rfl | rfl <;> decide
  have hknown : ∀ m, Ends (knownName w.text) m (some (.errorClass w.text)) m := by
    rcases hw with rfl | rfl <;> exact fun _ => rfl
  have hbare : IsBare w.text := by
    rcases hw with rfl | rfl <;> exact fun _ => rfl
  obtain ⟨hsteps, hone⟩ := isSteps_one hplain (raise_fits hw isAsync) List.not_mem_nil hcut htrim
  obtain ⟨L, hdepth, hbegun, hname, hfile, hruns⟩ :=
    exists_begun hshared hplain hsteps hloader hparent hloaded hplace data n
  rw [hone, hrecorded] at hruns
  have hleaves : ∀ x ∈ ["Exception", w.text], L.stage.LeavesName x := by
    intro x hx
    obtain ⟨hlocal, hfunction, henvironment⟩ := hclass x hx
    refine hruns.leavesName ?_ hlocal hfunction henvironment (by rw [hglobals]; rfl)
    intro step hstep
    obtain rfl | rfl : step = .mark _ ∨ step = .action (raiseAction w h) := by
      simpa [tagSteps] using hstep
    · rfl
    · rfl
  obtain ⟨hlocal, hglobal⟩ := hleaves w.text (by simp)
  obtain ⟨first, hown⟩ := hruns.own
  obtain ⟨id, m₂, hraises⟩ := hbegun.tagRaises hown (fun ⟨⟨vars, hat, _⟩, _, _⟩ =>
    hat.readName_known hlocal hglobal (hknown _)) hbare
  exact ⟨L, id, m₂, hdepth, hbegun, hname, hfile, hruns.reports, hleaves _ (by simp), hraises⟩

/-! ## §3. The chain. -/

/-- Where an error arose: the path of the file, or else the name of the template. -/
def placeOf (t : Template) : Option String := (Report.given t.filename).or t.name

/-- An environment that reports errors, with templates that raise them. -/
def reporting : Shared where
  environment := {
    blueprint := { loader := some (.mapping [("t0", "<% include('t1') %>"),
      ("t1", "\n<%_ raise ValueError from None %>"), ("exit", "<% raise SystemExit from None %>")]) }
    maxDepth := 1
    scan := { debug := true }
    code := { debug := true } }

theorem reporting_isPlain : IsPlain reporting.environment := ⟨rfl, rfl, rfl, rfl, rfl⟩

/-- A template that raises an error inside of another one. -/
theorem exists_chain_raising : ∃ L₀ L id m₂,
    Chain 0 false callDepth "t0" .none .none { environments := #[reporting] } [L₀] L
      ∧ L₀.template.name = some "t0" ∧ placeOf L.template = some "t1"
      ∧ L.program.source.isSome = true ∧ Catches L.stage m₂ "ValueError"
      ∧ TagRaises L 1 id { className := "ValueError" } m₂ := by
  let m : Machine := { environments := #[reporting] }
  let q := literalQuotation "t1".toList
  have hplace : ∀ name, name = "t0" ∨ name = "t1" → IsPlace (some name) none := by
    rintro name (rfl | rfl) <;> (unfold IsPlace; decide)
  have hcut : scanTags reporting.environment.scan.delimiters "<% include('t1') %>".toList
      = ([([], (callAction includeName q (by decide +kernel)).span none)], []) := by decide +kernel
  obtain ⟨hsteps, hone⟩ :=
    isSteps_one reporting_isPlain (callSentence_fits (.inl rfl) false q) List.not_mem_nil hcut (trim_nil _ _ _)
  have hparent : Ends (parentName .none) m none m := .pure
  have hshared : m.environments[0]? = some reporting := rfl
  obtain ⟨L₀, hdepth₀, hbegun₀, hname₀, _, hruns₀⟩ :=
    exists_begun hshared reporting_isPlain hsteps rfl hparent rfl (hplace _ (.inl rfl)) .none 988
  obtain ⟨first, hown₀⟩ := hruns₀.own
  rw [hone] at hown₀
  -- the line of the tag is recorded before it includes the other template
  let b : Books := { L₀.books with line := .int 1 }
  have hmark : Ends (block (powers (L₀.depth + 1)) L₀.stage.here
      [.mk first ((markSentence 0).stmt first)]) L₀.start .next
      (L₀.start.withContent L₀.stage.state (.object .state b.fields)) := by
    rw [block_one]
    exact mark_ends hbegun₀.underway 0 first
  obtain ⟨m₁, hasks, _⟩ := Asks.ofLine hbegun₀ hown₀ hmark
    (hbegun₀.underway.withBooks_spares rfl) hdepth₀
  have houtside : m.context = contextWithin reporting.environment.maxDepth [] := rfl
  obtain ⟨hshared₁, _⟩ := hasks.world hbegun₀ hshared houtside
  have hparent₁ := hasks.parentName hbegun₀
  rw [hname₀] at hparent₁
  have hname : resolveName (String.ofList q.value) (some (resolveName "t0" none)) = "t1" := by
    decide +kernel
  have hcut₁ : scanTags reporting.environment.scan.delimiters
      "\n<%_ raise ValueError from None %>".toList
        = ([(['\n'], (raiseAction valueErrorName (by decide +kernel)).span (some '_'))], []) := by
    decide +kernel
  obtain ⟨L, id, m₂, hdepth, hbegun, hnamed, hfile, hsource, hleaves, hraises⟩ :=
    exists_raising false (.inl rfl) (by decide +kernel) hshared₁ reporting_isPlain rfl rfl rfl hparent₁
      (by rw [hname]; rfl) (hplace _ (.inr hname)) hcut₁ (by decide +kernel) .none 985
  have hlast := Chain.last hbegun
  rw [hdepth] at hlast
  have hchain := Chain.more hbegun₀ hasks hlast
  rw [hdepth₀] at hchain
  obtain ⟨b', items', hunderway, _⟩ := hraises.recorded
  have hcatches := catches_builtin hunderway hleaves
    (show ErrorClass.isBelow "ValueError" "Exception" = true by decide +kernel)
  refine ⟨L₀, L, id, m₂, hchain, hname₀, ?_, by rw [hsource]; rfl, hcatches, hraises⟩
  unfold placeOf
  rw [hfile, hnamed, hname]
  rfl

end RenderFunction

end TagTemplate
