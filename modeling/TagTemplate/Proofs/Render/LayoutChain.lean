/-
  TagTemplate.Proofs.Render.LayoutChain
  ────────────────────────────────
  **LAYOUTS COMPOSE.**

  The lines of a template write its own output, and may ask for a layout any
  number of times (`OwnRun`); the last time counts (`OwnRun.ends`).  The layout
  is rendered with the data of the template, its own output under the name
  `body` over them, and the data that were handed over with the layout over
  both; and it may have a layout again (`LayoutChain`).

    • `LayoutChain.ends`: a render has the own output of the last layout as
      its value.
-/
import TagTemplate.Proofs.Render.Loaded

namespace TagTemplate

open Script Machine

namespace RenderFunction

/-! ## §1. Lines that ask for layouts. -/

/-- **The lines of a template run to their end, and ask for layouts on the way.**  `asked` is the layout
they ask for last, with its data. -/
inductive OwnRun (s : Stage) :
    Eval Flow → Machine → Option (String × List (String × Value)) → Machine → Prop
  | quiet {x : Eval Flow} {m m' : Machine} (hrun : Ends x m .next m') (hquiet : Quiet s m m') :
      OwnRun s x m none m'
  | asks {x : Eval Flow} {n : Nat} {f data : Value} {args : List Value} {rest : Value → Eval Flow}
      {name : String} {fields : List (String × Value)} {asked : Option (String × List (String × Value))}
      {m m₁ m₂ m' : Machine}
      (hrun : x.run m = ((powers (n + 1)).call f args [] >>= rest).run m₁) (hquiet : Quiet s m m₁)
      (hlayout : s.Holds layoutName.text f m₁) (hargs : Passes args (.str name) data)
      (hdata : LayoutData data fields m₁) (hcall : Ends ((powers (n + 1)).call f args []) m₁ .none m₂)
      (hrest : OwnRun s (rest .none) m₂ asked m') :
      OwnRun s x m (some (asked.getD (name, fields))) m'

section OwnRun

variable {s : Stage} {x : Eval Flow} {b : Books} {items : Array Value} {m m' : Machine}
  {asked : Option (String × List (String × Value))}

/-- What the books say of layouts when the lines are done: what they said before, or what was asked for
last. -/
def AsksLast (asked : Option (String × List (String × Value))) (b : Books) (m : Machine) (b' : Books)
    (m' : Machine) : Prop :=
  match asked with
  | none => b'.layout = b.layout ∧ b'.layoutData = b.layoutData
    ∧ ∀ fields, IsMapping b.layoutData fields m → IsMapping b.layoutData fields m'
  | some (name, fields) => b'.layout = .str name ∧ IsMapping b'.layoutData fields m'

/-- **The last layout counts.** -/
theorem OwnRun.ends (h : OwnRun s x m asked m') (hbooks : Underway s b items m) :
    Ends x m .next m' ∧ Spares m m'
      ∧ ∃ b' items', Underway s b' items' m' ∧ AsksLast asked b m b' m' := by
  induction h generalizing b items with
  | quiet hrun hquiet =>
      obtain ⟨b', items', hunderway, hlayout, hdata⟩ := hquiet.layout hbooks
      exact ⟨hrun, hquiet.spares, b', items', hunderway, hlayout, hdata, fun _ => hquiet.data hbooks⟩
  | @asks x n f data args rest name fields asked m m₁ m₂ m' hrun hquiet hholds hargs hdata hcall hrest
      ih =>
      obtain ⟨b₁, items₁, hbooks₁, _⟩ := hquiet.layout hbooks
      obtain ⟨m₃, ld, hcall', hbooks₂, hmapping, hspares, _⟩ := layout_ends hbooks₁ hholds hargs hdata n
      obtain ⟨_, rfl⟩ := hcall'.unique hcall
      obtain ⟨hends, hspares', b', items', hunderway, hasks⟩ := ih hbooks₂
      refine ⟨hrun.trans ((run_bind_ok hcall rest).trans hends),
        (hquiet.spares.trans hspares).trans hspares', b', items', hunderway, ?_⟩
      cases asked with
      | none =>
          obtain ⟨hlayout, hlayoutData, hkept⟩ := hasks
          refine ⟨hlayout, ?_⟩
          rw [hlayoutData]
          exact hkept _ hmapping
      | some last => exact hasks

end OwnRun

/-! ## §2. Chains of layouts. -/

/-- A template has written some texts. -/
def Stage.Wrote (s : Stage) (texts : List String) (m : Machine) : Prop :=
  ∃ b, Underway s b (texts.map .str).toArray m

/-- **A chain of layouts**: a render with some data, the levels around the last one, each with the name
of its layout, the last one, and its own output.  The data of the next level are those of this one,
as they are when its lines are done, with its own output and the data of its layout over them. -/
inductive LayoutChain (env : Nat) (isAsync : Bool) : Nat → String → Value → Value → Machine →
    List (String × Value) → List (Level × String) → Level → String → Prop
  | last {wanted : String} {data options : Value} {m m₁ : Machine} {fields : List (String × Value)}
      {L : Level} {texts : List String} (hbegun : Begun env isAsync wanted data options m L)
      (hdata : LayoutData data fields m)
      (hown : OwnRun L.stage (block (powers (L.depth + 1)) L.stage.here L.program.own) L.start none m₁)
      (hwrote : L.stage.Wrote texts m₁) :
      LayoutChain env isAsync (L.depth + 2) wanted data options m fields [] L ("".intercalate texts)
  | more {wanted next out : String} {data options f : Value} {m m₁ m₂ : Machine}
      {fields changed more : List (String × Value)} {L last : Level} {levels : List (Level × String)}
      {texts : List String} {n : Nat} (hbegun : Begun env isAsync wanted data options m L)
      (hdata : LayoutData data fields m)
      (hown : OwnRun L.stage (block (powers (L.depth + 1)) L.stage.here L.program.own) L.start
        (some (next, more)) m₁)
      (hwrote : L.stage.Wrote texts m₁) (hchanged : IsMapping L.stage.data changed m₁)
      (hdepth : L.depth = n + 1)
      (hasked : Asked L.program.isAsync L.stage
        (m₁.withCell (mappingCell (merged changed ("".intercalate texts) more))) (.str next)
        (.ref m₁.heap.size) f m₂)
      (hrest : LayoutChain env isAsync (askLevel L.program.isAsync n) next (.ref m₁.heap.size)
        L.stage.options m₂ (merged changed ("".intercalate texts) more) levels last out) :
      LayoutChain env isAsync (L.depth + 2) wanted data options m fields ((L, next) :: levels) last out

/-- **Every layout is the template that its name stands for**, seen from the template that asks. -/
def Follow : List (Level × String) → Level → Prop
  | [], _ => True
  | (L, next) :: levels, last =>
    (levels.head?.elim last Prod.fst).template.name = some (resolveName next L.template.name)
      ∧ Follow levels last

section Chain

variable {env : Nat} {isAsync : Bool} {k : Nat} {wanted out : String} {data options : Value}
  {m : Machine} {fields : List (String × Value)} {levels : List (Level × String)} {L last : Level}
  {shared : Shared} {around : List Template}

/-- The first level of a chain. -/
theorem LayoutChain.begun (h : LayoutChain env isAsync k wanted data options m fields levels last out) :
    Begun env isAsync wanted data options m (levels.head?.elim last Prod.fst) := by
  cases h with
  | last hbegun => exact hbegun
  | more hbegun => exact hbegun

/-- Names of layouts are seen from the template that asks. -/
theorem LayoutChain.follow (h : LayoutChain env isAsync k wanted data options m fields levels last out) :
    Follow levels last := by
  induction h with
  | last => trivial
  | more hbegun hdata hown hwrote hchanged hdepth hasked hrest ih =>
      refine ⟨hrest.begun.name ?_, ih⟩
      obtain ⟨id, hid, hcell⟩ := hbegun.ownOptions
      obtain ⟨_, hspares, _⟩ := hown.ends hbegun.underway
      rw [hid]
      exact parentName_ends (hasked.keeps.1.cells (withCell_old (hspares.options hcell)))

/-- **A render has the own output of its last layout as its value.** -/
theorem LayoutChain.ends (h : LayoutChain env isAsync k wanted data options m fields levels last out)
    (hshared : m.environments[env]? = some shared)
    (hcontext : m.context = contextWithin shared.environment.maxDepth around)
    (hroom : ((around.length + levels.length : Nat) : Int) ≤ shared.environment.maxDepth) :
    ∃ m', Ends (renderNamed (powers k) env isAsync (.str wanted) data options) m (.str out) m'
      ∧ Spares m m' := by
  induction h generalizing around with
  | @last wanted data options m m₁ fields L texts hbegun hdata hown hwrote =>
      have hwithin : (around.length : Int) ≤ shared.environment.maxDepth := by simpa using hroom
      have hentered := enter_within hwithin L.template
      rw [← hcontext] at hentered
      obtain ⟨hends, hspares, b', items', hbooks', hlayout, _⟩ := hown.ends hbegun.underway
      obtain ⟨b, hbooks⟩ := hwrote
      obtain ⟨rfl, _⟩ := hbooks.unique hbooks'
      have hcore := L.program.core_returns
        (L.program.inner_none hends hbooks (hlayout.trans hbegun.layout)) hbooks
      exact ⟨_, hbegun.run hshared hentered (Ends.bind (f := finish) hcore .pure) fun _ => trivial,
        .inside hbegun.keeps hspares⟩
  | @more wanted next out data options f m m₁ m₂ fields changed more L last levels texts n hbegun hdata
      hown hwrote hchanged hdepth hasked hrest ih =>
      have hwithin : (around.length : Int) ≤ shared.environment.maxDepth := by
        rw [List.length_cons] at hroom
        omega
      have hentered := enter_within hwithin L.template
      rw [← hcontext] at hentered
      obtain ⟨hends, hspares, b', items', hbooks', hlayout, hmore⟩ := hown.ends hbegun.underway
      obtain ⟨b, hbooks⟩ := hwrote
      obtain ⟨rfl, _⟩ := hbooks.unique hbooks'
      have hasks := Asks.layout hdepth hends hspares hbooks hlayout hchanged hmore hasked
      obtain ⟨hshared', hcontext'⟩ := hasks.world hbegun hshared hcontext
      obtain ⟨m₃, hrender, hspares'⟩ := ih hshared' hcontext'
        (by simp only [List.length_cons] at hroom ⊢; omega)
      -- the text of the layout takes the place of the own output
      have hpast := hasks.spares.trans hspares'
      obtain ⟨b₃, items₃, hbooks₃⟩ := hpast.renders hbegun.underway
      obtain ⟨m₄, hreplaced, hbooks₄, hspares₄⟩ :=
        replaceOutput_ends hbooks₃ (powers (L.depth + 1)) (.str out)
      have hinner : Ends (block (powers (L.depth + 1)) L.stage.here L.program.inner) L.start .next m₄ :=
        (hasks.run hbegun).trans (Ends.bind hrender hreplaced)
      have hwritten : Underway L.stage b₃ ([out].map Value.str).toArray m₄ := hbooks₄
      have hcore := L.program.core_returns hinner hwritten
      rw [show "".intercalate [out] = out from rfl] at hcore
      exact ⟨_, hbegun.run hshared hentered (Ends.bind (f := finish) hcore .pure) fun _ => trivial,
        .inside hbegun.keeps (hpast.trans hspares₄)⟩

end Chain

/-! ## §3. THE THEOREM. -/

/-- Lines that ask for a layout, with a text before and behind the question. -/
theorem Begun.asksLayout {env : Nat} {isAsync : Bool} {wanted : String} {data options : Value}
    {m : Machine} {L : Level} {first : Nat} {before behind : List Char} {q : Quotation}
    (h : Begun env isAsync wanted data options m L)
    (hown : L.program.own = linesOf first
      [(Step.literal before).sentence, callSentence layoutName q, (Step.literal behind).sentence]) :
    ∃ m', OwnRun L.stage (block (powers (L.depth + 1)) L.stage.here L.program.own) L.start
        (some (String.ofList q.value, [])) m'
      ∧ L.stage.Wrote [String.ofList before, String.ofList behind] m'
      ∧ ∀ {fields}, IsMapping L.stage.data fields L.start → IsMapping L.stage.data fields m' := by
  have hbooks := h.underway
  have hline := literal_ends hbooks L.depth first before
  have hbooks₁ := hbooks.withOutput (#[].push (.str (String.ofList before)))
  obtain ⟨vars, hat, hvars⟩ := hbooks₁.frame
  obtain ⟨id, line, hname, hcell⟩ := hvars.layout
  obtain ⟨m₂, ld, hcall, hbooks₂, _, _, hkept⟩ :=
    layout_ends hbooks₁ ⟨vars, hat, hname⟩ (.first (v := .str (String.ofList q.value))) .nothing L.depth
  have hlast := literal_ends hbooks₂ L.depth (first + 2) behind
  have hbooks₃ := hbooks₂.withOutput
    ((#[].push (.str (String.ofList before))).push (.str (String.ofList behind)))
  let p := powers (L.depth + 1)
  let rest := block p L.stage.here [.mk (first + 2) ((Step.literal behind).sentence.stmt (first + 2))]
  have hrun : (block p L.stage.here L.program.own).run L.start
      = (p.call (.ref id) [.str (String.ofList q.value)] [] >>= fun _ => rest).run
        (L.start.withContent L.books.output (.list (#[].push (.str (String.ofList before))))) := by
    have hasked := callSentence_run hbooks₁ ⟨vars, hat, hname⟩ (L.stage.owns layoutName.text (by decide)) q
      p (first + 1)
    rw [hown]
    refine (run_bind_ok hline _).trans ((run_bind_congr hasked _).trans ?_)
    rw [bind_assoc]
    rfl
  refine ⟨_, .asks hrun (hbooks.withOutput_quiet _) ⟨vars, hat, hname⟩ .first .nothing hcall
    (.quiet ?_ (hbooks₂.withOutput_quiet _)), ⟨_, hbooks₃⟩, fun hmap => ?_⟩
  · show Ends rest _ _ _
    unfold rest
    rw [block_one]
    exact hlast
  · exact IsMapping.withOutput (hkept (IsMapping.withOutput hmap hbooks _)) hbooks₂ _


/-- Lines that show a text of the data, with texts around it. -/
theorem Begun.shows {env : Nat} {isAsync : Bool} {wanted key text : String} {data options : Value}
    {m : Machine} {L : Level} {first : Nat} {before behind : List Char}
    {fields : List (String × Value)} (h : Begun env isAsync wanted data options m L)
    (hdata : LayoutData data fields m) (hlookup : fields.lookup key = some (.str text))
    (hown : L.program.own = linesOf first [(Step.literal before).sentence,
      (Step.value (access (literalQuotation key.toList)) false false).sentence,
      (Step.literal behind).sentence]) :
    ∃ m', OwnRun L.stage (block (powers (L.depth + 1)) L.stage.here L.program.own) L.start none m'
      ∧ L.stage.Wrote [String.ofList before, text, String.ofList behind] m' := by
  have hbooks := h.underway
  have hmapping := h.mapping hdata
  have hline := literal_ends hbooks L.depth first before
  have hquiet := hbooks.withOutput_quiet (#[].push (.str (String.ofList before)))
  have hmapping₁ := IsMapping.withOutput hmapping hbooks
    (.list (#[].push (.str (String.ofList before))))
  have hbooks₁ := hbooks.withOutput (#[].push (.str (String.ofList before)))
  have hline₁ := entry_ends hbooks₁ hmapping₁ hlookup L.depth (first + 1)
  have hquiet₁ := hbooks₁.withOutput_quiet ((#[].push (.str (String.ofList before))).push (.str text))
  have hbooks₂ := hbooks₁.withOutput ((#[].push (.str (String.ofList before))).push (.str text))
  have hline₂ := literal_ends hbooks₂ L.depth (first + 2) behind
  have hquiet₂ := hbooks₂.withOutput_quiet
    (((#[].push (.str (String.ofList before))).push (.str text)).push (.str (String.ofList behind)))
  refine ⟨_, .quiet ?_ ((hquiet.trans hquiet₁).trans hquiet₂), _, hbooks₂.withOutput _⟩
  rw [hown]
  exact Ends.bind hline (Ends.bind hline₁ (Ends.bind hline₂ .pure))

/-- A template with a layout, which shows what it writes. -/
def layered : Shared where
  environment := {
    blueprint := { loader := some (.mapping [("pages/p", "x<% layout('./b') %>y"),
      ("pages/b", "[<%~ it['body'] %>]")]) }
    maxDepth := 1
    scan := {}
    code := {} }

theorem layered_isPlain : IsPlain layered.environment := ⟨rfl, rfl, rfl, rfl, rfl⟩

/-- The tag of the template. -/
def layeredAction : Action :=
  callAction layoutName (literalQuotation "./b".toList) (by decide +kernel)

/-- The template asks for its layout between two texts. -/
theorem layered_page :
    IsSteps layered.environment false "x<% layout('./b') %>y" (fun _ => .action layeredAction)
      ∧ stepsOf layered.environment.scan layered.environment.code (fun _ => .action layeredAction)
          "x<% layout('./b') %>y".toList
        = [.literal ['x'], .action layeredAction, .literal ['y']] := by
  have hcut : scanTags layered.environment.scan.delimiters "x<% layout('./b') %>y".toList
      = ([(['x'], layeredAction.span none)], ['y']) := by
    decide +kernel
  exact isSteps_around layered_isPlain (callSentence_fits (.inr rfl) false _) List.not_mem_nil hcut

/-- The layout shows an entry of its data between two texts. -/
theorem layered_frame :
    IsSteps layered.environment false "[<%~ it['body'] %>]"
        (entryStep layered.environment.scan layered.environment.code)
      ∧ stepsOf layered.environment.scan layered.environment.code
          (entryStep layered.environment.scan layered.environment.code) "[<%~ it['body'] %>]".toList
        = [.literal ['['], .value (access (literalQuotation "body".toList)) false false,
            .literal [']']] := by
  let span : TagSpan := ⟨none, [], some '~', [' '], accessCode "body", [' '], none⟩
  have hcut : scanTags layered.environment.scan.delimiters "[<%~ it['body'] %>]".toList
      = ([(['['], span)], [']']) := by
    decide +kernel
  have hentry : ShowsEntry layered.environment.scan span "body" :=
    ⟨rfl, by decide, by simp [IsPlainKey]⟩
  constructor
  · refine isSteps_of_tags fun piece hpiece => ?_
    rw [hcut] at hpiece
    rw [List.mem_singleton.mp hpiece]
    exact ⟨hentry.instruction _, access_fits false _ _ _, List.not_mem_nil⟩
  · unfold stepsOf
    rw [hcut]
    rfl

/-- They are a chain. -/
theorem exists_layered : ∃ L last, LayoutChain 0 false callDepth "pages/p" .none .none
    { environments := #[layered] } [] [(L, "./b")] last "[xy]" := by
  let m : Machine := { environments := #[layered] }
  have hshared : m.environments[0]? = some layered := rfl
  have hparent : Ends (parentName .none) m none m := .pure
  have hplace : ∀ name, name = "pages/p" ∨ name = "pages/b" → IsPlace (some name) none := by
    rintro name (rfl | rfl) <;> (unfold IsPlace; decide)
  obtain ⟨hsteps, hpage⟩ := layered_page
  obtain ⟨L, hdepth, hbegun, hname, _, hruns⟩ :=
    exists_begun hshared layered_isPlain hsteps rfl hparent (by rfl) (hplace _ (.inl rfl)) .none 988
  obtain ⟨first, hown⟩ := hruns.own
  rw [hpage] at hown
  obtain ⟨m₁, howns, hwrote, hkept⟩ := hbegun.asksLayout hown
  have hchanged := hkept (hbegun.mapping .nothing)
  obtain ⟨_, hspares, _⟩ := howns.ends hbegun.underway
  obtain ⟨b, hbooks⟩ := hwrote
  -- the layout is asked for with the output of the template
  let given := mappingCell (merged [] "xy" [])
  have hgiven : Keeps m₁ (m₁.withCell given) := .withCell m₁ given
  obtain ⟨f, m₂, hasked⟩ :=
    (hbooks.keeps hgiven).exists_asked L.program.isAsync (.str "./b") (.ref m₁.heap.size)
  have hkeeps := hgiven.trans hasked.keeps.1
  have hdistinct : HasDistinctKeys (merged [] "xy" []) := by
    unfold HasDistinctKeys
    decide
  have hdata : LayoutData (.ref m₁.heap.size) (merged [] "xy" []) m₂ :=
    .mapping ⟨⟨_, rfl, hasked.keeps.1.cells withCell_new⟩, hdistinct⟩
  obtain ⟨id, hid, hoptions⟩ := hbegun.ownOptions
  have hparent₂ : Ends (parentName L.stage.options) m₂ L.template.name m₂ := by
    rw [hid]
    exact parentName_ends (hkeeps.cells (hspares.options hoptions))
  rw [hname] at hparent₂
  have hshared₂ : m₂.environments[0]? = some layered := by
    rw [hkeeps.environments, hspares.environments, hbegun.keeps.environments]
    rfl
  have hname₂ : resolveName "./b" (some (resolveName "pages/p" none)) = "pages/b" := by decide +kernel
  obtain ⟨hsteps₂, hframe⟩ := layered_frame
  obtain ⟨last, hlast, hbegun₂, _, _, hruns₂⟩ :=
    exists_begun hshared₂ layered_isPlain hsteps₂ rfl hparent₂ (by rw [hname₂]; rfl)
      (hplace _ (.inr hname₂)) (.ref m₁.heap.size) 985
  obtain ⟨first₂, hown₂⟩ := hruns₂.own
  rw [hframe] at hown₂
  obtain ⟨m₃, howns₂, hwrote₂⟩ := hbegun₂.shows hdata rfl hown₂
  have hrest := LayoutChain.last hbegun₂ hdata howns₂ hwrote₂
  rw [show last.depth + 2 = askLevel L.program.isAsync 987 by
    rw [hlast, hbegun.isAsync_eq]
    rfl] at hrest
  have hchain := LayoutChain.more hbegun .nothing howns ⟨b, hbooks⟩ hchanged hdepth hasked hrest
  rw [hdepth] at hchain
  exact ⟨L, last, hchain⟩

end RenderFunction

end TagTemplate
