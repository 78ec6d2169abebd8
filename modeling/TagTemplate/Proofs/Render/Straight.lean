/-
  TagTemplate.Proofs.Render.Straight
  ────────────────────────────────
  **TEMPLATES WHOSE TAGS STAND SIDE BY SIDE RENDER TO THEIR PIECES IN A ROW.**

  The pieces of a template are its gaps, trimmed, and the texts of the values
  that its tags name.  Nothing is lost, doubled, moved, or escaped twice.

    • `render_steps`: a template of steps renders to what they write.
    • `renderText_plain`: a text without tags renders to itself.
    • `renderText_straight`: a text with tags that show entries of the data.
-/
import TagTemplate.Proofs.Machine.Mapping
import TagTemplate.Proofs.Render.Compiled
import TagTemplate.Proofs.Render.Steps

namespace TagTemplate

open Script Machine

namespace RenderFunction

/-! ## §1. The render. -/

section Render

variable {env : Nat} {globals : List (String × Value)} {name filename : Option String}
  {isAsync : Bool} {source : Option Quotation} {steps : List Step} {P : Program} {t : Template}
  {c : Closure} {base m m' : Machine} {shared : Shared} {k : Nat} {data : Value} {s : Stage} {b : Books}

/-- **A template of steps renders to what they write**, if its render is not refused. -/
theorem render_steps (h : Compiled env globals name filename isAsync source steps P t c m)
    (hkeeps : Keeps base m) (hshared : m.environments[env]? = some shared)
    (hnesting : ∀ c ∈ m.context, c.depth < c.limit) (k : Nat) (data : Value)
    {news : Step → List String}
    (hwrites : ∀ s b, Younger s b base → (∃ m₁, Ends (dataOf data) m s.data m₁) →
      b.escape = .primitive shared.environment.blueprint.escape → b.filter = shared.filterValue →
        ∀ step ∈ steps, Writes s b base (powers (k + 1)) step (news step)) :
    ((if isAsync then t.renderAsync (powers (k + 2)) data
      else t.render (powers (k + 2)) data).run m).1 = .ok (.str ("".intercalate (steps.flatMap news))) := by
  obtain ⟨s, b, m', hstarts, hkeeps', hstate, houtput, _, _⟩ := exists_starts h.function k data
  obtain ⟨out, ld, hfresh, _⟩ := hstarts.fresh
  obtain ⟨m₁, hdata, _⟩ := hstarts.called
  have hyounger : Younger s b base :=
    ⟨Nat.le_trans hkeeps.size_le hstate, Nat.le_trans hkeeps.size_le houtput⟩
  have hs : s.shared = shared := hstarts.shared_eq (h.environment ▸ hshared)
  have hsteps := proceeds_steps (hwrites s b hyounger ⟨m₁, hdata⟩
    (by rw [hfresh, ← hs]; rfl) (by rw [hfresh, ← hs]; rfl)) [] m'
    ⟨⟨b.line, hstarts.underway⟩, hkeeps.trans hkeeps'⟩
  obtain ⟨first, hown⟩ := h.own
  obtain ⟨m₂, hlines, ⟨line, hunderway⟩, _⟩ := hsteps first
  rw [← hown] at hlines
  have hcore := P.core_returns (P.inner_none hlines hunderway (by rw [hfresh]; rfl)) hunderway
  have hfinish : (block (powers (k + 1)) s.here P.core >>= finish).run m'
      = (.ok (.str ("".intercalate (steps.flatMap news))), m₂) := Ends.bind hcore .pure
  have hrun := hstarts.run h.function (enter_below hnesting t _) hfinish fun _ => trivial
  rw [h.isAsync] at hrun
  exact congrArg Prod.fst hrun

end Render

/-! ## §2. Pieces. -/

theorem toList_intercalate_empty (texts : List String) :
    ("".intercalate texts).toList = texts.flatMap String.toList := by
  induction texts with
  | nil => rfl
  | cons t texts ih =>
      cases texts with
      | nil => simp
      | cons u texts =>
          rw [List.flatMap_cons, ← ih]
          simp

/-- The text of gaps and tags: the gaps trimmed, and what `shows` says of the tags. -/
def textFrom (scan : ScanSettings) (shows : TagSpan → String) (start : Edge) :
    List (List Char × TagSpan) → List Char → List Char
  | [], trailing => trim scan start .free trailing
  | (gap, span) :: more, trailing =>
    trim scan start (.ofMarker span.left) gap ++ (shows span).toList
      ++ textFrom scan shows (.ofMarker span.right) more trailing

section Pieces

variable {scan : ScanSettings} {news : Step → List String} {shows : TagSpan → String}
  {step : TagSpan → Step} {recorded : Bool} (hliteral : ∀ t, news (.literal t) = [String.ofList t])
include hliteral

theorem literalSteps_text (start stop : Edge) (gap : List Char) :
    ((literalSteps scan start stop gap).flatMap news).flatMap String.toList
      = trim scan start stop gap := by
  unfold literalSteps
  dsimp only
  cases h : trim scan start stop gap with
  | nil => rfl
  | cons c cs => simp [hliteral]

/-- **The texts of the steps are the text of gaps and tags.** -/
theorem stepsFrom_text (hmark : ∀ n, news (.mark n) = []) :
    ∀ (cut : List (List Char × TagSpan)) (trailing : List Char) (start : Edge) (n : Nat),
      (∀ piece ∈ cut, news (step piece.2) = [shows piece.2]) →
      ((stepsFrom scan recorded step start n cut trailing).flatMap news).flatMap String.toList
        = textFrom scan shows start cut trailing
  | [], trailing, start, n, _ => literalSteps_text hliteral start .free trailing
  | (gap, span) :: more, trailing, start, n, h => by
      rw [List.forall_mem_cons] at h
      have htag : ∀ n, ((tagSteps recorded n (step span)).flatMap news).flatMap String.toList
          = (shows span).toList := by
        intro n
        unfold tagSteps
        cases recorded <;> simp [h.1, hmark]
      unfold stepsFrom textFrom
      dsimp only
      rw [List.flatMap_append, List.flatMap_append, List.flatMap_append, List.flatMap_append,
        literalSteps_text hliteral, htag, stepsFrom_text hmark more trailing _ _ h.2,
        List.append_assoc]

end Pieces

/-! ## §3. Texts of steps. -/

/-- What a step of a template without statements is like. -/
inductive Shows : Step → Prop where
  | literal (text : List Char) : Shows (.literal text)
  | mark (n : Nat) : Shows (.mark n)
  | value (q : Quotation) (filtered escaped : Bool) : Shows (.value (access q) filtered escaped)

theorem Shows.fits (isAsync : Bool) {step : Step} (h : Shows step) :
    (Suite.one step.sentence).Fits isAsync "it" 2 := by
  cases h with
  | literal text => exact append_fits isAsync _
  | mark n => exact mark_fits isAsync n
  | value q filtered escaped => exact access_fits isAsync q filtered escaped

theorem Shows.free {step : Step} (h : Shows step) (name : String) :
    name ∉ step.sentence.binders := by
  cases h <;> exact List.not_mem_nil

/-- A step is that of a gap, of a line, or of a tag. -/
theorem mem_stepsFrom {scan : ScanSettings} {step : TagSpan → Step} {recorded : Bool} {st : Step} :
    ∀ (cut : List (List Char × TagSpan)) (trailing : List Char) (start : Edge) (n : Nat),
      st ∈ stepsFrom scan recorded step start n cut trailing →
      (∃ text, st = .literal text) ∨ (∃ n, st = .mark n) ∨ ∃ piece ∈ cut, st = step piece.2 := by
  have hliteral : ∀ start stop gap, st ∈ literalSteps scan start stop gap →
      ∃ text, st = .literal text := by
    intro start stop gap hst
    unfold literalSteps at hst
    dsimp only at hst
    split at hst
    · cases hst
    · exact ⟨_, List.mem_singleton.mp hst⟩
  intro cut
  induction cut with
  | nil => exact fun trailing start n hst => .inl (hliteral _ _ _ hst)
  | cons piece more ih =>
      obtain ⟨gap, span⟩ := piece
      intro trailing start n hst
      unfold stepsFrom tagSteps at hst
      simp only [List.mem_append, List.mem_singleton] at hst
      rcases hst with hst | (hst | hst) | hst
      · exact .inl (hliteral _ _ _ hst)
      · cases recorded with
        | false => cases hst
        | true => exact .inr (.inl ⟨_, List.mem_singleton.mp hst⟩)
      · exact .inr (.inr ⟨_, List.mem_cons_self, hst⟩)
      · rcases ih _ _ _ hst with h | h | ⟨piece, hpiece, h⟩
        · exact .inl h
        · exact .inr (.inl h)
        · exact .inr (.inr ⟨piece, List.mem_cons_of_mem _ hpiece, h⟩)

theorem isPlace_none : IsPlace none none := by
  show anonymousCode.toList.contains '\x00' = false
  decide

section RenderText

variable {m : Machine} {env : Nat} {shared : Shared} (hshared : m.environments[env]? = some shared)
  (hscan : shared.environment.scan.plugins = []) (hcode : shared.environment.code.plugins = [])
  (hheader : shared.environment.code.header = "")
  (hcontext : shared.environment.code.contextName = "it")
  (hnesting : ∀ c ∈ m.context, c.depth < c.limit)
include hshared hscan hcode hheader hcontext hnesting

/-- A text of steps that write texts renders to these. -/
theorem renderText_steps {text : String} (step : TagSpan → Step)
    (hshows : ∀ piece ∈ (scanTags shared.environment.scan.delimiters text.toList).1,
      Shows (step piece.2) ∧ tagInstruction shared.environment.code
        (shared.environment.scan.kindOf piece.2.mark) (String.ofList piece.2.body)
          = (step piece.2).instruction)
    (asyncMode : Bool) (data : Value) (news : Step → List String)
    (hwrites : ∀ s b, Younger s b m → (∃ m₁ m₂, Ends (dataOf data) m₁ s.data m₂) →
      b.escape = .primitive shared.environment.blueprint.escape → b.filter = shared.filterValue →
        ∀ st ∈ stepsOf shared.environment.scan shared.environment.code step text.toList,
          Writes s b m (powers (callDepth - 1)) st (news st)) :
    ((renderText env text asyncMode data).run m).1
      = .ok (.str ("".intercalate ((stepsOf shared.environment.scan shared.environment.code step
          text.toList).flatMap news))) := by
  have hall : ∀ st ∈ stepsOf shared.environment.scan shared.environment.code step text.toList,
      Shows st := by
    intro st hst
    rcases mem_stepsFrom _ _ _ _ hst with ⟨text, rfl⟩ | ⟨n, rfl⟩ | ⟨piece, hpiece, rfl⟩
    · exact .literal text
    · exact .mark n
    · exact (hshows piece hpiece).1
  obtain ⟨P, t, c, m₁, hcompile, hcompiled, hkeeps, haround⟩ :=
    compileTemplate_straight hshared hscan hcode hheader hcontext
      (fun piece hpiece => (hshows piece hpiece).2) (fun st hst => (hall st hst).fits asyncMode)
      (fun st hst => (hall st hst).free _) isPlace_none allPowers
  rw [← haround] at hnesting
  have hrender := render_steps hcompiled hkeeps (hkeeps.environments ▸ hshared) hnesting
    (callDepth - 2) data fun s b hyounger ⟨m₂, hdata⟩ => hwrites s b hyounger ⟨m₁, m₂, hdata⟩
  refine (congrArg Prod.fst (run_bind_ok hcompile _)).trans ?_
  exact hrender

end RenderText

end RenderFunction

/-! ## §4. A text without tags. -/

/-- **A TEXT WITHOUT TAGS RENDERS TO ITSELF**, character for character, whatever the settings are and
whatever the data, awaited or not. -/
theorem renderText_plain {m : Machine} {env : Nat} {shared : Shared}
    (hshared : m.environments[env]? = some shared)
    (hscan : shared.environment.scan.plugins = []) (hcode : shared.environment.code.plugins = [])
    (hheader : shared.environment.code.header = "")
    (hcontext : shared.environment.code.contextName = "it")
    (hnesting : ∀ c ∈ m.context, c.depth < c.limit) {text : String}
    (h : (scanTags shared.environment.scan.delimiters text.toList).1 = []) (asyncMode : Bool)
    (data : Value) :
    ((renderText env text asyncMode data).run m).1 = .ok (.str text) := by
  let scan := shared.environment.scan
  let news : RenderFunction.Step → List String
    | .literal t => [String.ofList t]
    | _ => []
  have hsteps : RenderFunction.stepsOf scan shared.environment.code (fun _ => .mark 0) text.toList
      = RenderFunction.literalSteps scan .free .free text.toList := by
    have hnone : (scanTags scan.delimiters text.toList).1 = [] := h
    have hrest : (scanTags scan.delimiters text.toList).2 = text.toList :=
      scanFrom_nil [] text.toList h
    unfold RenderFunction.stepsOf
    dsimp only
    rw [hnone, hrest]
    rfl
  have hrender := RenderFunction.renderText_steps hshared hscan hcode hheader hcontext hnesting
    (fun _ => .mark 0) (by rw [h]; nofun) asyncMode data news (by
      intro s b hyounger _ _ _ st hst
      rw [hsteps] at hst
      unfold RenderFunction.literalSteps at hst
      dsimp only at hst
      split at hst
      · cases hst
      · rw [List.mem_singleton.mp hst]
        exact RenderFunction.writes_literal hyounger _)
  rw [hrender, hsteps]
  congr 2
  rw [← String.toList_inj, RenderFunction.toList_intercalate_empty,
    RenderFunction.literalSteps_text fun _ => rfl]
  rfl

/-- A tag that is never closed is text, also with reports, bare names and waiting. -/
theorem renderText_plain_unterminated :
    ((renderText 0 "<% it's\n" true .none).run
      { environments := #[{
          environment := {
            blueprint := {}
            maxDepth := 50
            scan := {}
            code := { debug := true, useWith := true } } }] }).1 = .ok (.str "<% it's\n") :=
  renderText_plain rfl rfl rfl rfl rfl (fun _ hc => absurd hc (Option.not_mem_none _))
    (by decide +kernel) true .none

/-! ## §5. A text whose tags show entries of the data. -/

namespace RenderFunction

/-- The characters of a key that stand for themselves between single quotes. -/
def IsPlainKey (key : String) : Prop :=
  ∀ c ∈ key.toList, c ≠ '\'' ∧ c ≠ '\\' ∧ c ≠ '\n' ∧ c ≠ '\r' ∧ c.toNat ≠ 0

theorem IsPlainKey.body {key : String} (h : IsPlainKey key) :
    (literalQuotation key.toList).body = key.toList := by
  show Literal.breaks (Literal.escape key.toList) = key.toList
  unfold IsPlainKey at h
  unfold Literal.breaks Literal.escape
  revert h
  generalize key.toList = cs
  intro h
  induction cs with
  | nil => rfl
  | cons c cs ih =>
      rw [List.forall_mem_cons] at h
      obtain ⟨⟨hquote, hslash, hfeed, hreturn, hnull⟩, hrest⟩ := h
      have ih := ih hrest
      simp_all

/-- The code that reads an entry of the context. -/
def accessCode (key : String) : List Char := "it['".toList ++ key.toList ++ "']".toList

theorem codeOf_access {key : String} (h : IsPlainKey key) :
    codeOf (access (literalQuotation key.toList)) = String.ofList (accessCode key) := by
  have hchars : (literalQuotation key.toList).chars = '\'' :: (key.toList ++ ['\'']) := by
    show '\'' :: ((literalQuotation key.toList).body ++ ['\'']) = _
    rw [h.body]
  unfold codeOf access accessCode
  congr 1
  simp [Phrase.row, Primary.row, Lexeme.spell, Lexeme.chars, hchars, contextIdent]

/-- The key in such code. -/
def keyOf (body : List Char) : String := String.ofList ((body.drop 4).take (body.length - 6))

theorem keyOf_accessCode (key : String) : keyOf (accessCode key) = key := by
  have hdrop : (accessCode key).drop 4 = key.toList ++ "']".toList := rfl
  have hlength : (accessCode key).length - 6 = key.toList.length := by
    simp [accessCode]
  unfold keyOf
  rw [hdrop, hlength, List.take_left, String.ofList_toList]

/-- A tag that shows the entry of a key, as it is or escaped. -/
structure ShowsEntry (scan : ScanSettings) (span : TagSpan) (key : String) : Prop where
  body : span.body = accessCode key
  kind : scan.kindOf span.mark ≠ .execute
  plain : IsPlainKey key

/-- Whether a tag escapes what it shows. -/
def escapes (scan : ScanSettings) (code : CodeSettings) (span : TagSpan) : Bool :=
  scan.kindOf span.mark == .interpolate && code.autoEscape

/-- What such a tag does. -/
def entryStep (scan : ScanSettings) (code : CodeSettings) (span : TagSpan) : Step :=
  .value (access (literalQuotation (keyOf span.body).toList)) code.autoFilter
    (escapes scan code span)

theorem ShowsEntry.instruction {scan : ScanSettings} {span : TagSpan} {key : String}
    (h : ShowsEntry scan span key) (code : CodeSettings) :
    tagInstruction code (scan.kindOf span.mark) (String.ofList span.body)
      = (entryStep scan code span).instruction := by
  have hkind := h.kind
  show _ = Instruction.appendExpression (codeOf (access (literalQuotation (keyOf span.body).toList)))
    code.autoFilter (escapes scan code span)
  unfold escapes
  rw [h.body, keyOf_accessCode, codeOf_access h.plain]
  revert hkind
  cases scan.kindOf span.mark with
  | execute => exact fun h => absurd rfl h
  | interpolate => exact fun _ => rfl
  | raw => exact fun _ => rfl

section Entries

variable {s : Stage} {b : Books} {base : Machine} {id : Nat} {fields : List (String × Value)}
  {key : String} {v : Value} (hdata : base.heap[id]? = some (mappingCell fields))
  (hlookup : fields.lookup key = some v)
include hdata hlookup

/-- The code of a tag reads the entry. -/
theorem evaluates_access (hs : s.data = .ref id) (p : Powers) :
    Evaluates s b base p (access (literalQuotation key.toList)) v := by
  intro number items m line hunderway hkeeps
  have hread := hunderway.readData
  rw [hs] at hread
  have hcell := hkeeps.cells hdata
  have hkey : Ends (expr p s.here ((Phrase.plain (.text (literalQuotation key.toList))).tree line)) m
      (.str key) m := by
    show Ends (pure (Value.str (String.ofList key.toList))) m _ m
    rw [String.ofList_toList]
    exact .pure
  have hentry := lookup?_ends hcell key
  rw [hlookup] at hentry
  have hitem : Ends (item (.ref id) (.str key)) m v m :=
    Ends.bind (Ends.cell hcell) (Ends.bind hentry .pure)
  exact Ends.bind hread (Ends.bind hkey hitem)

/-- The entry exists. -/
theorem entry_within (hsound : IsSound base) : v.Within base.heap.size := by
  have hcell := hsound.getD id
  rw [Array.getD_eq_getD_getElem?, hdata] at hcell
  exact (hcell (.str key, v) (List.mem_map_of_mem (mem_of_lookup hlookup))).2

end Entries

/-- The text of a template whose tags show entries: the trimmed gaps in their order, and between them
the plain or the escaped texts of the entries. -/
def straightText (scan : ScanSettings) (code : CodeSettings) (plain escaped : String → String)
    (text : String) : String :=
  let cut := scanTags scan.delimiters text.toList
  let shows (span : TagSpan) : String :=
    if escapes scan code span then escaped (keyOf span.body) else plain (keyOf span.body)
  String.ofList (textFrom scan shows .free cut.1 cut.2)

/-- What the steps of such a template write. -/
def newsOf (plain escaped : String → String) : Step → List String
  | .literal text => [String.ofList text]
  | .value (.plain (.item _ (.plain (.text q)))) _ isEscaped =>
    [if isEscaped then escaped (String.ofList q.value) else plain (String.ofList q.value)]
  | _ => []

theorem newsOf_entryStep (scan : ScanSettings) (code : CodeSettings) (plain escaped : String → String)
    (span : TagSpan) : newsOf plain escaped (entryStep scan code span)
      = [if escapes scan code span then escaped (keyOf span.body) else plain (keyOf span.body)] := by
  show [if escapes scan code span then escaped (String.ofList (keyOf span.body).toList)
    else plain (String.ofList (keyOf span.body).toList)] = _
  rw [String.ofList_toList]

end RenderFunction

open RenderFunction in
/-- **A TEXT WHOSE TAGS SHOW ENTRIES OF THE DATA RENDERS TO ITS PIECES IN A ROW**: the trimmed gaps,
and for each tag the plain text of its value, or the escaped one where the tag escapes; behind the
filter, if values are filtered.  This holds for every choice of the settings, awaited or not. -/
theorem renderText_straight {m : Machine} {env : Nat} {shared : Shared}
    (hshared : m.environments[env]? = some shared)
    (hscan : shared.environment.scan.plugins = []) (hcode : shared.environment.code.plugins = [])
    (hheader : shared.environment.code.header = "")
    (hcontext : shared.environment.code.contextName = "it")
    (hescape : shared.environment.blueprint.escape = .html)
    (hnesting : ∀ c ∈ m.context, c.depth < c.limit) (hsound : IsSound m)
    {id : Nat} {fields : List (String × Value)} (hdata : m.heap[id]? = some (mappingCell fields))
    {text : String} {plain escaped : String → String}
    (htags : ∀ piece ∈ (scanTags shared.environment.scan.delimiters text.toList).1,
      ∃ key v, ShowsEntry shared.environment.scan piece.2 key ∧ fields.lookup key = some v
        ∧ Outputs (powers (callDepth - 1)) shared.filterValue shared.environment.code.autoFilter m v
            (plain key) (escaped key))
    (asyncMode : Bool) :
    ((renderText env text asyncMode (.ref id)).run m).1
      = .ok (.str (straightText shared.environment.scan shared.environment.code plain escaped
          text)) := by
  let scan := shared.environment.scan
  let code := shared.environment.code
  have hrender := renderText_steps hshared hscan hcode hheader hcontext hnesting
    (entryStep scan code)
    (fun piece hpiece => by
      obtain ⟨key, v, hshows, _⟩ := htags piece hpiece
      exact ⟨.value _ _ _, hshows.instruction code⟩)
    asyncMode (.ref id) (newsOf plain escaped) (by
      intro s b hyounger ⟨m₁, m₂, hd⟩ hb hf st hst
      have hs : s.data = .ref id :=
        (hd.unique (show Ends (dataOf (.ref id)) m₁ (.ref id) m₁ from .pure)).1
      rcases mem_stepsFrom _ _ _ _ hst with ⟨text, rfl⟩ | ⟨n, rfl⟩ | ⟨piece, hpiece, rfl⟩
      · exact writes_literal hyounger text
      · exact writes_mark hyounger n
      · obtain ⟨key, v, hshows, hlookup, houtputs⟩ := htags piece hpiece
        rw [hescape] at hb
        rw [← hf] at houtputs
        rw [newsOf_entryStep]
        unfold entryStep
        rw [hshows.body, keyOf_accessCode]
        exact writes_value hyounger hb hsound (entry_within hdata hlookup hsound)
          (evaluates_access hdata hlookup hs _) houtputs _)
  rw [hrender]
  congr 2
  rw [← String.toList_inj, toList_intercalate_empty]
  unfold straightText stepsOf
  rw [String.toList_ofList]
  exact stepsFrom_text (fun _ => rfl) (fun _ => rfl) _ _ _ _ fun piece _ => newsOf_entryStep ..

open RenderFunction in
/-- The same value as it is and escaped, behind a filter, with trimmed text around it. -/
theorem renderText_straight_filtered :
    ((renderText 0 "x <%~ it['k'] _%>  y\n<%= it['k'] %>\nz" true (.ref 0)).run
      { heap := #[mappingCell [("k", .str "<b>")]]
        environments := #[{
          environment := {
            blueprint := {}
            maxDepth := 50
            scan := { debug := true }
            code := { debug := true, autoFilter := true } }
          filter := some (.lent "upper" []) }] }).1 = .ok (.str "x <B>y\n&lt;B&gt;z") := by
  refine (@renderText_straight _ _ _ rfl rfl rfl rfl rfl rfl
    (fun _ hc => absurd hc (Option.not_mem_none _)) ?_ 0 [("k", .str "<b>")] rfl _ (fun _ => "<B>")
    (fun _ => "&lt;B&gt;") ?_ true).trans ?_
  · intro c hc
    rw [List.mem_singleton.mp hc]
    exact fun e he => by rw [List.mem_singleton.mp he]; exact ⟨trivial, trivial⟩
  · intro piece hpiece
    have hbodies : (scanTags ⟨"<%".toList, "%>".toList, ['=', '~']⟩
        "x <%~ it['k'] _%>  y\n<%= it['k'] %>\nz".toList).1.all (fun piece =>
          piece.2.body == accessCode "k" && (piece.2.mark == some '~' || piece.2.mark == some '='))
            = true := by decide +kernel
    have hpiece := List.all_eq_true.mp hbodies piece hpiece
    simp only [Bool.and_eq_true, Bool.or_eq_true, beq_iff_eq] at hpiece
    obtain ⟨hbody, hmark⟩ := hpiece
    refine ⟨"k", .str "<b>", ⟨hbody, ?_, by simp [IsPlainKey]⟩, rfl, ?_⟩
    · rcases hmark with h | h <;> rw [h] <;> decide
    · have hupper : Text.upper "<b>" = "<B>" := by decide +kernel
      have hescaped : Text.htmlEscaped "<B>" = "&lt;B&gt;" := by decide +kernel
      exact fun m' _ => ⟨.str "<B>", m', congrArg (fun s => (Except.ok (Value.str s), m')) hupper,
        .refl m', rfl, hescaped⟩
  · refine congrArg (fun s => Except.ok (Value.str s)) ?_
    unfold straightText
    rw [← String.toList_inj, String.toList_ofList]
    decide +kernel

end TagTemplate
