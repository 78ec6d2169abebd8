/-
  TagTemplate.Proofs.Render.Loaded
  ────────────────────────────────
  **TEMPLATES THAT ARE LOADED BY NAME, AND WHOSE TAGS STAND SIDE BY SIDE.**

  What a loader has under a name is compiled, and its render begins as a level
  whose lines are the steps of its text (`exists_begun`).  Steps that only
  write leave everything else alone (`Quiet`), and so does asking for a layout
  or for another template by its name.
-/
import TagTemplate.Proofs.Render.Nested
import TagTemplate.Proofs.Render.Straight

namespace TagTemplate

open Script Machine

namespace RenderFunction

/-! ## §1. Loading. -/

/-- An environment adds nothing to what a template says, and tags without a prefix are statements. -/
structure IsPlain (e : Environment) : Prop where
  kind : e.scan.plainKind = .execute
  scan : e.scan.plugins = []
  code : e.code.plugins = []
  header : e.code.header = ""
  context : e.code.contextName = "it"

/-- A text is one of steps that may stand in a render function. -/
structure IsSteps (e : Environment) (isAsync : Bool) (text : String) (step : TagSpan → Step) : Prop where
  tags : ∀ piece ∈ (scanTags e.scan.delimiters text.toList).1,
    tagInstruction e.code (e.scan.kindOf piece.2.mark) (String.ofList piece.2.body)
      = (step piece.2).instruction
  fits : AllFit isAsync (stepsOf e.scan e.code step text.toList)
  leave : LeaveEnvironment (stepsOf e.scan e.code step text.toList)

/-- **A level runs steps**, with the names that its function and the environment know. -/
structure RunsSteps (globals : List (String × Value)) (source : Option Quotation) (steps : List Step)
    (L : Level) : Prop where
  own : ∃ first, L.program.own = linesOf first (steps.map Step.sentence)
  reports : L.program.source = source
  locals : ∀ x, L.stage.locals.contains x = true →
    x ∈ ["it", "options"] ++ (body L.program.isAsync (steps.map Step.sentence) source).binders
  known : ∀ x, x ≠ renderName → x ≠ Machine.environmentName →
    L.stage.known.lookup x = globals.lookup x

/-- **A text of steps that a loader has under a name begins as a level of these steps.** -/
theorem exists_begun {env : Nat} {isAsync : Bool} {wanted text : String} {filename parent : Option String}
    {options : Value} {m : Machine} {shared : Shared} {loader : Loader} {step : TagSpan → Step}
    (hshared : m.environments[env]? = some shared) (hplain : IsPlain shared.environment)
    (hsteps : IsSteps shared.environment isAsync text step)
    (hloader : shared.environment.blueprint.loader = some loader)
    (hparent : Ends (parentName options) m parent m)
    (hloaded : loader.get m.surroundings (resolveName wanted parent) = .ok ⟨text, filename⟩)
    (hplace : IsPlace (some (resolveName wanted parent)) filename) (data : Value) (n : Nat) :
    ∃ L, L.depth = n ∧ Begun env isAsync wanted data options m L
      ∧ L.template.name = some (resolveName wanted parent) ∧ L.template.filename = filename
      ∧ RunsSteps shared.globals (sourceOf? shared.environment.code text)
        (stepsOf shared.environment.scan shared.environment.code step text.toList) L := by
  let resolved := resolveName wanted parent
  obtain ⟨journal, hrecord⟩ := ofTraced_ends (a := ())
    (x := TagTemplate.debugRecord .environment
      ("Loaded template " ++ resolved ++ " from " ++ (Report.given filename).getD "memory"))
    (fun j => ⟨_, rfl⟩) m
  let m₁ : Machine := { m with journal }
  obtain ⟨P, t, c, m₂, hcompile, hcompiled, hkeeps, hcontext⟩ :=
    compileTemplate_straight (m := m₁) hshared hplain.scan hplain.code hplain.header hplain.context
      hsteps.tags hsteps.fits hsteps.leave hplace (powers (n + 2))
  have hload : Ends (wantedTemplate (powers (n + 2)) env isAsync wanted options) m t m₂ := by
    refine Ends.bind hparent (Ends.bind (sharedAt_run hshared) ?_)
    dsimp only
    rw [hloader]
    have hgot : Ends (ofExcept (loader.get m.surroundings resolved)) m ⟨text, filename⟩ m := by
      rw [hloaded]
      exact .pure
    exact Ends.bind .get (Ends.bind hgot (Ends.bind hrecord hcompile))
  have hbefore : Keeps m m₂ := (show Keeps m m₁ from ⟨fun h => h, fun h => h, rfl, rfl⟩).trans hkeeps
  obtain ⟨s, b, m', hstarts, _⟩ := exists_starts hcompiled.function n data
  obtain ⟨known, hprogram, hglobals⟩ := hcompiled.known
  refine ⟨⟨n, P, t, s, b, m'⟩, rfl, ⟨m₂, c, hload, hbefore, hcontext, hcompiled.function, hstarts⟩,
    hcompiled.name, hcompiled.filename, hcompiled.own, hcompiled.source, fun x hx => ?_, ?_⟩
  · rw [show P.isAsync = isAsync from hcompiled.isAsync]
    exact hcompiled.locals x (hstarts.site.1 ▸ hx)
  · rw [show s.known = known from hstarts.known hprogram]
    exact hglobals

/-- Neither the steps nor the environment give a name another meaning. -/
def Stage.LeavesName (s : Stage) (name : String) : Prop :=
  s.locals.contains name = false ∧ s.known.lookup name = none

theorem RunsSteps.leavesName {globals : List (String × Value)} {source : Option Quotation}
    {steps : List Step} {L : Level} (h : RunsSteps globals source steps L)
    (hbinders : ∀ step ∈ steps, step.sentence.binders = []) {name : String}
    (hlocal : name ∉ ownNames ++ [errorName.text]) (hfunction : name ≠ renderName)
    (henvironment : name ≠ Machine.environmentName) (hglobal : globals.lookup name = none) :
    L.stage.LeavesName name := by
  refine ⟨?_, by rw [h.known name hfunction henvironment, hglobal]⟩
  have hnone : (steps.map Step.sentence).flatMap Sentence.binders = [] := by
    simpa [List.flatMap_eq_nil_iff] using hbinders
  rw [Bool.eq_false_iff]
  intro hcontains
  have hmem := h.locals name hcontains
  rw [body_binders, hnone, List.nil_append, ← List.append_assoc] at hmem
  refine hlocal (List.mem_append.mpr ((List.mem_append.mp hmem).imp_right fun herror => ?_))
  cases hsome : source.isSome with
  | false =>
      rw [hsome] at herror
      cases herror
  | true =>
      rw [hsome] at herror
      exact herror

/-! ## §2. Texts with one tag. -/

/-- Whether the code of a tag is one line that opens no block and ends none. -/
def standsAlone (row : List Lexeme) : Bool :=
  let code := Lexeme.spell row
  !code.isEmpty && Block.statementLines code == [code] && !Block.opensBlock (Text.strip code)
    && !(String.ofList code == "end")

/-- A statement on a line of its own. -/
def Action.ofRow (s : Sentence) (row : List Lexeme) (hcodes : s.codes = [.line row])
    (h : standsAlone row = true) : Action where
  sentence := s
  row := row
  codes := hcodes
  filled := by
    intro hempty
    simp [standsAlone, hempty] at h
  lines := by
    simp only [standsAlone, Bool.and_eq_true, beq_iff_eq] at h
    exact h.1.1.2
  closed := by
    simp only [standsAlone, Bool.and_eq_true, Bool.not_eq_true'] at h
    exact h.1.2
  plain := by
    simp only [standsAlone, Bool.and_eq_true, Bool.not_eq_true'] at h
    exact h.2

/-- A tag with such a statement. -/
def Action.span (a : Action) (left : Option Char) : TagSpan where
  left := left
  lead := [' ']
  mark := none
  gap := []
  body := Lexeme.spell a.row
  tail := [' ']
  right := none

/-- A text is one of steps if each of its tags is one. -/
theorem isSteps_of_tags {e : Environment} {isAsync : Bool} {text : String} {step : TagSpan → Step}
    (h : ∀ piece ∈ (scanTags e.scan.delimiters text.toList).1,
      tagInstruction e.code (e.scan.kindOf piece.2.mark) (String.ofList piece.2.body)
          = (step piece.2).instruction
        ∧ (Suite.one (step piece.2).sentence).Fits isAsync "it" 2
        ∧ Machine.environmentName ∉ (step piece.2).sentence.binders) : IsSteps e isAsync text step := by
  refine ⟨fun piece hpiece => (h piece hpiece).1, fun st hst => ?_, fun st hst => ?_⟩
  · obtain ⟨text, rfl⟩ | ⟨n, rfl⟩ | ⟨piece, hpiece, rfl⟩ := mem_stepsFrom _ _ _ _ hst
    · exact append_fits isAsync _
    · exact mark_fits isAsync n
    · exact (h piece hpiece).2.1
  · obtain ⟨text, rfl⟩ | ⟨n, rfl⟩ | ⟨piece, hpiece, rfl⟩ := mem_stepsFrom _ _ _ _ hst
    · exact List.not_mem_nil
    · exact List.not_mem_nil
    · exact (h piece hpiece).2.2

theorem trim_nil (scan : ScanSettings) (start stop : Edge) : trim scan start stop [] = [] := by
  unfold trim
  cases start.mode scan.trimAfter <;> cases stop.mode scan.trimBefore <;> rfl

section OneTag

variable {e : Environment} {isAsync : Bool} {text : String} {a : Action} {gap trailing : List Char}
  {left : Option Char} (hplain : IsPlain e) (hfits : (Suite.one a.sentence).Fits isAsync "it" 2)
  (hfree : Machine.environmentName ∉ a.sentence.binders)
include hplain hfits hfree

/-- So is a text with one tag that has a statement. -/
theorem isSteps_around
    (hcut : scanTags e.scan.delimiters text.toList = ([(gap, a.span left)], trailing)) :
    IsSteps e isAsync text (fun _ => .action a)
      ∧ stepsOf e.scan e.code (fun _ => .action a) text.toList
        = literalSteps e.scan .free (.ofMarker left) gap
          ++ (tagSteps (e.scan.debug && e.code.debug) (gap.count '\n') (.action a)
            ++ literalSteps e.scan (.ofMarker none) .free trailing) := by
  constructor
  · refine isSteps_of_tags fun piece hpiece => ⟨?_, hfits, hfree⟩
    rw [hcut] at hpiece
    rw [List.mem_singleton.mp hpiece]
    show tagInstruction e.code e.scan.plainKind _ = _
    rw [hplain.kind]
    rfl
  · unfold stepsOf
    rw [hcut]
    show _ ++ (tagSteps _ (0 + gap.count '\n') _ ++ _) = _
    rw [Nat.zero_add]
    rfl

/-- With nothing around it, the text is the steps of the tag. -/
theorem isSteps_one (hcut : scanTags e.scan.delimiters text.toList = ([(gap, a.span left)], []))
    (htrim : trim e.scan .free (.ofMarker left) gap = []) :
    IsSteps e isAsync text (fun _ => .action a)
      ∧ stepsOf e.scan e.code (fun _ => .action a) text.toList
        = tagSteps (e.scan.debug && e.code.debug) (gap.count '\n') (.action a) := by
  obtain ⟨hsteps, hall⟩ := isSteps_around hplain hfits hfree hcut
  have hnothing : ∀ start stop gap, trim e.scan start stop gap = [] →
      literalSteps e.scan start stop gap = [] := by
    intro start stop gap hgap
    unfold literalSteps
    rw [hgap]
    rfl
  rw [hnothing _ _ _ htrim, hnothing _ _ _ (trim_nil _ _ _), List.append_nil, List.nil_append] at hall
  exact ⟨hsteps, hall⟩

end OneTag

/-- A text without tags is a text of steps. -/
theorem isSteps_text (isAsync : Bool) {e : Environment} {text : String}
    (hnone : (scanTags e.scan.delimiters text.toList).1 = []) (htext : text.toList ≠ []) :
    IsSteps e isAsync text (fun _ => .mark 0)
      ∧ stepsOf e.scan e.code (fun _ => .mark 0) text.toList = [.literal text.toList] := by
  refine ⟨isSteps_of_tags (by rw [hnone]; nofun), ?_⟩
  have hrest : (scanTags e.scan.delimiters text.toList).2 = text.toList :=
    scanFrom_nil [] text.toList hnone
  unfold stepsOf
  dsimp only
  rw [hnone, hrest]
  show literalSteps e.scan .free .free text.toList = _
  unfold literalSteps
  show (if text.toList.isEmpty then [] else [Step.literal text.toList]) = _
  rw [if_neg (by simpa using htext)]

/-! ## §3. Lines that write. -/

/-- Lines that ask for no layout leave the one that has been asked for as it is, and its data. -/
structure Quiet (s : Stage) (m m' : Machine) : Prop where
  spares : Spares m m'
  layout : ∀ {b : Books} {items : Array Value}, Underway s b items m →
    ∃ b' items', Underway s b' items' m' ∧ b'.layout = b.layout ∧ b'.layoutData = b.layoutData
  data : ∀ {b : Books} {items : Array Value} {fields : List (String × Value)}, Underway s b items m →
    IsMapping b.layoutData fields m → IsMapping b.layoutData fields m'

section Lines

variable {s : Stage} {b : Books} {items : Array Value} {m : Machine}

theorem Quiet.refl (s : Stage) (m : Machine) : Quiet s m m where
  spares := .refl m
  layout h := ⟨_, _, h, rfl, rfl⟩
  data _ h := h

theorem Quiet.trans {m₁ m₂ : Machine} (h : Quiet s m m₁) (h' : Quiet s m₁ m₂) : Quiet s m m₂ where
  spares := h.spares.trans h'.spares
  layout hbooks := by
    obtain ⟨b₁, items₁, hbooks₁, hlayout, hdata⟩ := h.layout hbooks
    obtain ⟨b₂, items₂, hbooks₂, hlayout', hdata'⟩ := h'.layout hbooks₁
    exact ⟨b₂, items₂, hbooks₂, hlayout'.trans hlayout, hdata'.trans hdata⟩
  data hbooks hmapping := by
    obtain ⟨b₁, items₁, hbooks₁, _, hdata⟩ := h.layout hbooks
    have hkept := h.data hbooks hmapping
    rw [← hdata] at hkept ⊢
    exact h'.data hbooks₁ hkept

/-- More output is no change of the layout. -/
theorem Underway.withOutput_quiet (h : Underway s b items m) (news : Array Value) :
    Quiet s m (m.withContent b.output (.list news)) where
  spares := h.withOutput_spares news
  layout h' := by
    obtain ⟨rfl, rfl⟩ := h.unique h'
    exact ⟨_, _, h.withOutput news, rfl, rfl⟩
  data _ hmapping := IsMapping.withOutput hmapping h _

/-- A line that appends the text of an expression. -/
def appendsSentence (e : Phrase) : Sentence :=
  .expr (.plain (.call (.name appendName) (.cons e .nil)))

/-- Such a line changes the output alone. -/
theorem appends_ends (h : Underway s b items m) {n line : Nat} {e : Phrase} {text : String}
    (hvalue : Ends (expr (powers (n + 1)) s.here (e.tree line)) m (.str text) m) :
    Ends (stmt (powers (n + 1)) s.here ((appendsSentence e).stmt line)) m .next
      (m.withContent b.output (.list (items.push (.str text)))) := by
  have hcall := append_ends (n := n) h.output (.str text)
  exact Ends.bind (Ends.call_one (e.isStarred_tree line) h.readAppend hvalue hcall) .pure

/-- A line of a text. -/
theorem literal_ends (h : Underway s b items m) (n line : Nat) (text : List Char) :
    Ends (stmt (powers (n + 1)) s.here ((Step.literal text).sentence.stmt line)) m .next
      (m.withContent b.output (.list (items.push (.str (String.ofList text))))) :=
  appends_ends h (e := .plain (.text (literalQuotation text))) .pure

/-- A line that shows a text of the data as it is. -/
theorem entry_ends (h : Underway s b items m) {fields : List (String × Value)} {key text : String}
    (hdata : IsMapping s.data fields m) (hlookup : fields.lookup key = some (.str text)) (n line : Nat) :
    Ends (stmt (powers (n + 1)) s.here
        ((Step.value (access (literalQuotation key.toList)) false false).sentence.stmt line)) m .next
      (m.withContent b.output (.list (items.push (.str text)))) := by
  obtain ⟨id, hs, hcell⟩ := hdata.cell
  have hvalue := evaluates_access hcell hlookup hs (powers (n + 1)) line h (.refl m)
  have hwriter : Ends (expr (powers (n + 1)) s.here (.attribute (.name "__kiln" .load) "s")) m
      (.primitive .plain) m := h.ofState _ rfl
  have hstar := (access (literalQuotation key.toList)).isStarred_tree line
  have hshown : Ends (expr (powers (n + 1)) s.here
      ((shownPhrase false false (access (literalQuotation key.toList))).tree line)) m (.str text) m :=
    Ends.call_one hstar hwriter hvalue (callPrimitive_plain m (.str text))
  exact appends_ends h hshown

/-- A level of one text writes it, and keeps all that was there before. -/
theorem Begun.ends_literal {env : Nat} {isAsync : Bool} {wanted : String} {data options : Value}
    {L : Level} {first : Nat} {text : List Char} (h : Begun env isAsync wanted data options m L)
    (hown : L.program.own = [.mk first ((Step.literal text).sentence.stmt first)]) :
    ∃ m', Ends (block (powers (L.depth + 1)) L.stage.here L.program.inner) L.start .next m'
      ∧ Spares L.start m' ∧ Keeps m m'
      ∧ Underway L.stage L.books ([String.ofList text].map Value.str).toArray m' := by
  let m' := L.start.withContent L.books.output (.list #[.str (String.ofList text)])
  have hbooks : Underway L.stage L.books ([String.ofList text].map Value.str).toArray m' :=
    h.underway.withOutput _
  have hlines : Ends (block (powers (L.depth + 1)) L.stage.here L.program.own) L.start .next m' := by
    rw [hown, block_one]
    exact literal_ends h.underway L.depth first text
  exact ⟨m', L.program.inner_none hlines hbooks h.layout, h.underway.withOutput_spares _,
    h.keeps.withContent h.younger.2 _, hbooks⟩

end Lines

/-! ## §4. Calls with a text. -/

/-- The line of a call with a text. -/
def callSentence (w : Ident) (q : Quotation) : Sentence := .expr (callWith w q)

section Calls

variable {s : Stage} {b : Books} {items : Array Value} {m : Machine} {w : Ident} {f : Value}

/-- A line that calls a function with a text. -/
theorem callSentence_run (h : Underway s b items m) (hholds : s.Holds w.text f m)
    (howns : s.locals.contains w.text = true) (q : Quotation) (p : Powers) (line : Nat) :
    (stmt p s.here ((callSentence w q).stmt line)).run m
      = (p.call f [.str (String.ofList q.value)] [] >>= fun _ => return .next).run m := by
  obtain ⟨vars, hat, _⟩ := h.frame
  have hfunction : Ends (expr p s.here (.name w.text .load)) m f m :=
    hat.readName_own howns (hholds.of_at hat)
  have hargs : Ends (elementsOf p s.here [.constant (.str (String.ofList q.value) false)]) m
      [.str (String.ofList q.value)] m := Ends.bind .pure (Ends.bind .pure .pure)
  have hcall : (expr p s.here ((callWith w q).tree line)).run m
      = (p.call f [.str (String.ofList q.value)] []).run m :=
    (run_bind_ok hfunction _).trans ((run_bind_ok hargs _).trans (run_bind_ok Ends.pure _))
  exact run_bind_congr hcall _

/-- Such a line may stand in a render function. -/
theorem callSentence_fits (hw : w = includeName ∨ w = layoutName) (isAsync : Bool) (q : Quotation) :
    (Suite.one (callSentence w q)).Fits isAsync "it" 2 where
  depth := Nat.le_of_ble_eq_true rfl
  fine := by
    obtain ⟨quote, body, value, hq, hspelled⟩ := q
    rcases hw with rfl | rfl <;> rcases hq with rfl | rfl <;> rfl
  placed _ _ := rfl
  plain _ := rfl
  provided := by
    refine provided_of_first (fun _ => rfl) ?_
    show allProvided "it" [.reads w.text] = true
    rcases hw with rfl | rfl <;> decide

/-- Such a line as a tag. -/
def callAction (w : Ident) (q : Quotation) (h : standsAlone (callWith w q).row = true) : Action :=
  .ofRow (callSentence w q) (callWith w q).row rfl h

/-- **A level whose last line asks for a template by its name comes to ask for it.** -/
theorem Asks.ofLine {env : Nat} {wanted : String} {data options : Value} {L : Level} {n : Nat}
    {m₁ : Machine} (hbegun : Begun env false wanted data options m L) {before : List Line}
    {number : Nat} {q : Quotation}
    (hown : L.program.own = before ++ [.mk number ((callSentence includeName q).stmt number)])
    (hbefore : Ends (block (powers (L.depth + 1)) L.stage.here before) L.start .next m₁)
    (hspares : Spares L.start m₁) (hdepth : L.depth = n + 1) :
    ∃ m₂, Asks L n (String.ofList q.value) .none
        (fun _ => (return Flow.next) >>= thenChoice L.program (powers (L.depth + 1)) L.stage) m₂
      ∧ Keeps m₁ m₂ := by
  obtain ⟨b, items, hunderway⟩ := hspares.renders hbegun.underway
  obtain ⟨f, m₂, hasked⟩ :=
    hunderway.exists_asked false (.str (String.ofList q.value)) .none
  have hsync := hbegun.isAsync_eq
  have hrun : (block (powers (L.depth + 1)) L.stage.here L.program.own).run L.start
      = (launch L.program.isAsync (powers (n + 2)) f [.str (String.ofList q.value)]
          >>= fun _ => return .next).run m₁ := by
    rw [hown, block_append_run hbefore, block_one, hsync, hdepth]
    exact callSentence_run hunderway hasked.holds (L.stage.owns _ (by decide)) q _ number
  have hasks := Asks.inclusion hrun hspares .first (hsync ▸ hasked)
  rw [hsync] at hasks
  exact ⟨m₂, hasks, hasked.keeps.1⟩

end Calls

/-- A template whose only line includes another one begins, and asks for it. -/
theorem exists_including {env : Nat} {shared : Shared} {loader : Loader} {wanted text : String}
    {filename parent : Option String} {options : Value} {m : Machine} {q : Quotation}
    (h : standsAlone (callWith includeName q).row = true)
    (hshared : m.environments[env]? = some shared) (hplain : IsPlain shared.environment)
    (hrecorded : (shared.environment.scan.debug && shared.environment.code.debug) = false)
    (hloader : shared.environment.blueprint.loader = some loader)
    (hparent : Ends (parentName options) m parent m)
    (hloaded : loader.get m.surroundings (resolveName wanted parent) = .ok ⟨text, filename⟩)
    (hplace : IsPlace (some (resolveName wanted parent)) filename)
    (hcut : scanTags shared.environment.scan.delimiters text.toList
      = ([([], (callAction includeName q h).span none)], [])) (data : Value) (n : Nat) :
    ∃ L m₁, L.depth = n + 1 ∧ L.template.name = some (resolveName wanted parent)
      ∧ Begun env false wanted data options m L
      ∧ L.program.source = sourceOf? shared.environment.code text
      ∧ Asks L n (String.ofList q.value) .none
        (fun _ => (return Flow.next) >>= thenChoice L.program (powers (L.depth + 1)) L.stage) m₁
      ∧ Keeps L.start m₁ := by
  obtain ⟨hsteps, hone⟩ := isSteps_one hplain (callSentence_fits (.inl rfl) false q) List.not_mem_nil hcut
    (trim_nil _ _ _)
  obtain ⟨L, hdepth, hbegun, hnamed, _, hruns⟩ :=
    exists_begun hshared hplain hsteps hloader hparent hloaded hplace data (n + 1)
  obtain ⟨first, hown⟩ := hruns.own
  rw [hone, hrecorded] at hown
  have hown' : L.program.own
      = [] ++ [.mk first ((callSentence includeName q).stmt first)] := hown
  obtain ⟨m₁, hasks, hkeeps⟩ := Asks.ofLine hbegun hown' .pure (.refl _) hdepth
  exact ⟨L, m₁, hdepth, hnamed, hbegun, hruns.reports, hasks, hkeeps⟩

end RenderFunction

end TagTemplate
