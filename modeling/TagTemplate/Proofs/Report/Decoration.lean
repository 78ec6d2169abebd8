/-
  TagTemplate.Proofs.Report.Decoration
  ────────────────────────────────
  **COLOURS ONLY DECORATE REPORTS.**

  A report on a failure is written twice, with colours and without.  Each
  piece of it is a text in the colour of one role, or has no colour, and no
  piece stands within another one.  So the two texts differ by the sequences
  alone, and a style that is set for a piece ends with it.

  This asks for arguments without escape characters: with one of them, a
  description could set a style itself.

    • `style_decorates` — one piece,
    • `Snippet.text_decorates`, `stackText_decorates` — rows and names,
    • `Report.message_decorates`, `Report.compact_decorates` — the two forms,
    • `colors_only_decorate` — all reports, by what they are made of.
-/
import TagTemplate.Error
import TagTemplate.Proofs.Text.Sequences

namespace TagTemplate

open Text

/-! ## §1. Pieces. -/

/-- **A text in the colour of its role.** -/
theorem style_decorates (role : Role) {text : String} (h : IsEscapeFree text) :
    Decorates (style true role text) (style false role text) := by
  have hparameters : role.sequence.toList.all isParameter = true := by
    cases role <;> decide
  have hopens : isReset role.sequence.toList = false := by
    cases role <;> decide
  exact Decorates.styled hparameters hopens h

example : String.ofList (uncolored (style true .code "K-RUN-001").toList) = "K-RUN-001" := by
  decide +kernel

theorem isEscapeFree_toString_nat (n : Nat) : IsEscapeFree (toString n) := by
  unfold IsEscapeFree
  rw [Nat.toString_eq_ofList_toDigits, String.toList_ofList]
  intro hmem
  exact absurd (Nat.isDigit_of_mem_toDigits (by decide) (by decide) hmem) (by decide)

theorem isEscapeFree_toString (n : Int) : IsEscapeFree (toString n) := by
  cases n with
  | ofNat n => exact isEscapeFree_toString_nat n
  | negSucc n =>
      exact isEscapeFree_append.mpr ⟨by decide, isEscapeFree_toString_nat (n + 1)⟩

theorem isEscapeFree_lineNumberText (n : Int) : IsEscapeFree (lineNumberText n) := by
  refine isEscapeFree_append.mpr ⟨?_, isEscapeFree_toString n⟩
  unfold IsEscapeFree
  rw [String.toList_ofList]
  intro hmem
  exact absurd (List.eq_of_mem_replicate hmem) (by decide)

/-- The first line of a report, where the message may be decorated itself. -/
theorem headerText_decorates {code colored plain : String} (hcode : IsEscapeFree code)
    (h : Decorates colored plain) :
    Decorates (headerText true (some code) colored) (headerText false (some code) plain) := by
  unfold headerText
  dsimp only
  split
  · exact h
  · exact ((style_decorates .code hcode).append (.free (by decide))).append h

/-- A row of a snippet. -/
theorem sourceRow_decorates (n : Int) {content : String} (h : IsEscapeFree content) (failed : Bool) :
    Decorates (sourceRow true n content failed) (sourceRow false n content failed) := by
  have hgutter : IsEscapeFree ((if failed then ">" else " ") ++ lineNumberText n) :=
    isEscapeFree_append.mpr ⟨by cases failed <;> decide, isEscapeFree_lineNumberText n⟩
  exact ((style_decorates .gutter hgutter).append (.free (by decide))).append
    (style_decorates _ h)

/-- Lines that come from the entries of a list are decorated one by one. -/
theorem forall₂_map {α : Type} {xs : List α} {colored plain : α → String}
    (h : ∀ x ∈ xs, Decorates (colored x) (plain x)) :
    List.Forall₂ Decorates (xs.map colored) (xs.map plain) := by
  rw [List.forall₂_map_left_iff, List.forall₂_map_right_iff, List.forall₂_same]
  exact h

theorem Snippet.text_decorates {s : Snippet} (h : ∀ row ∈ s.rows, IsEscapeFree row.2) :
    Decorates (s.text true) (s.text false) := by
  have hrule : Decorates (style true .muted "   |") (style false .muted "   |") :=
    style_decorates .muted (by decide)
  have hrows : ∀ row ∈ s.rows, Decorates (sourceRow true row.1 row.2 (row.1 == s.errorLine))
      (sourceRow false row.1 row.2 (row.1 == s.errorLine)) :=
    fun row hrow => sourceRow_decorates row.1 (h row hrow) _
  exact Decorates.lines (.cons hrule (List.rel_append (forall₂_map hrows) (.cons hrule .nil)))

/-- The chain of enclosing templates. -/
theorem stackText_decorates {stack : List String} (h : ∀ name ∈ stack, IsEscapeFree name) :
    Decorates (stackText true stack) (stackText false stack) := by
  unfold stackText
  split
  · exact .free (by decide)
  · refine Decorates.lines (.cons (style_decorates .muted (by decide)) ?_)
    exact forall₂_map fun name hname =>
      (Decorates.free (by decide)).append (style_decorates .location (h name hname))

/-! ## §2. Reports. -/

theorem ErrorCode.isEscapeFree_docsUrl (c : ErrorCode) : IsEscapeFree c.docsUrl := by
  cases c <;> decide +kernel

/-- The closest name is one of the candidates. -/
theorem mem_of_closest? {name close : String} {candidates : List String}
    (h : closest? name candidates = some close) : close ∈ candidates := by
  unfold closest? at h
  obtain ⟨best, hbest, rfl⟩ := Option.map_eq_some_iff.mp h
  generalize hclose : (candidates.map fun c => (similarity c.toList name.toList, c)).filter
    (isClose ·.1) = close at hbest
  -- the best one so far is one of those that have been looked at
  have hmem : best ∈ close := by
    revert hbest
    refine List.foldlRecOn (motive := fun found => found = some best → best ∈ close) close _ nofun
      fun found hfound x hx hbest => ?_
    cases found with
    | none => exact Option.some.inj hbest ▸ hx
    | some b =>
        dsimp only at hbest
        split at hbest
        · exact Option.some.inj hbest ▸ hx
        · exact hfound hbest
  subst hclose
  obtain ⟨c, hc, rfl⟩ := List.mem_map.mp (List.mem_filter.mp hmem).1
  exact hc

/-- No text of a report has an escape character. -/
structure Report.IsEscapeFree (r : Report) : Prop where
  kind : match r.kind with
    | .plain text | .includeDepth text => Text.IsEscapeFree text
    | .undefined name close => Text.IsEscapeFree name ∧ ∀ other ∈ close, Text.IsEscapeFree other
  templateName : ∀ name ∈ r.templateName, Text.IsEscapeFree name
  suggestion : ∀ text ∈ r.suggestion, Text.IsEscapeFree text
  snippet : ∀ s ∈ r.snippet, ∀ row ∈ s.rows, Text.IsEscapeFree row.2
  stack : ∀ name ∈ r.stack, Text.IsEscapeFree name

namespace Report

theorem given_eq_some {name : Option String} {text : String} (h : given name = some text) :
    name = some text := (Option.filter_eq_some_iff.mp h).1

variable {r : Report} (h : r.IsEscapeFree)
include h

theorem detail_decorates : Decorates (r.detail true) (r.detail false) := by
  have hkind := h.kind
  unfold detail
  cases hr : r.kind with
  | plain text | includeDepth text =>
      rw [hr] at hkind
      exact .free hkind
  | undefined name close =>
      rw [hr] at hkind
      refine Decorates.append (.free ?_) ?_
      · exact isEscapeFree_append.mpr
          ⟨isEscapeFree_append.mpr ⟨by decide, hkind.1⟩, by decide⟩
      · cases close with
        | none => exact .free (by decide)
        | some other =>
            exact ((Decorates.free (by decide)).append
              (style_decorates .matched (hkind.2 other rfl))).append (.free (by decide))

theorem isEscapeFree_place : Text.IsEscapeFree r.place := by
  refine isEscapeFree_append.mpr ⟨?_, ?_⟩
  · cases hname : given r.templateName with
    | none => decide
    | some name => exact h.templateName name (given_eq_some hname)
  · split
    · exact isEscapeFree_append.mpr ⟨by decide, isEscapeFree_toString _⟩
    · decide

/-- The line that says where the failure is. -/
theorem location_decorates : Decorates ("  Location: " ++ style true .location r.place)
    ("  Location: " ++ style false .location r.place) :=
  (Decorates.free (by decide)).append (style_decorates .location (isEscapeFree_place h))

theorem snippet_decorates :
    List.Forall₂ Decorates (r.snippet.map (·.text true)).toList
      (r.snippet.map (·.text false)).toList := by
  have hsnippet := h.snippet
  cases hs : r.snippet with
  | none => exact .nil
  | some s => exact .cons (Snippet.text_decorates (hsnippet s hs)) .nil

/-- The line that says what may help, behind a word. -/
theorem help_decorates {start word : String} (hstart : Text.IsEscapeFree start)
    (hword : Text.IsEscapeFree word) :
    List.Forall₂ Decorates
      ((given r.suggestion).toList.map fun s => start ++ style true .hint word ++ " " ++ s)
      ((given r.suggestion).toList.map fun s => start ++ style false .hint word ++ " " ++ s) := by
  refine forall₂_map fun s hs => ?_
  have hfree := h.suggestion s (given_eq_some (Option.mem_toList.mp hs))
  exact (((Decorates.free hstart).append (style_decorates .hint hword)).append
    (.free (by decide))).append (.free hfree)

/-- **The full text of a report.** -/
theorem message_decorates : Decorates (r.message true) (r.message false) := by
  unfold message
  refine Decorates.lines (.cons ((Decorates.free (by decide)).append (detail_decorates h)) ?_)
  refine List.rel_append (List.rel_append (List.rel_append ?_ (snippet_decorates h)) ?_) ?_
  · split
    · exact .cons (location_decorates h) .nil
    · exact .nil
  · split
    · exact .nil
    · exact .cons (.free (by decide)) (.cons (stackText_decorates h.stack) .nil)
  · exact help_decorates h (by decide) (by decide)

/-- **The short form of a report.** -/
theorem compact_decorates : Decorates (r.compact true) (r.compact false) := by
  have hcode : Text.IsEscapeFree r.code.value := by
    cases r.code <;> decide
  have hdocs : Decorates ("  " ++ style true .muted "Docs:" ++ " " ++ style true .link r.code.docsUrl)
      ("  " ++ style false .muted "Docs:" ++ " " ++ style false .link r.code.docsUrl) :=
    (((Decorates.free (by decide)).append (style_decorates .muted (by decide))).append
      (.free (by decide))).append (style_decorates .link (r.code.isEscapeFree_docsUrl))
  unfold compact
  refine Decorates.lines (.cons (headerText_decorates hcode (detail_decorates h)) ?_)
  refine .cons (location_decorates h) ?_
  refine List.rel_append (List.rel_append (snippet_decorates h) ?_) (.cons hdocs .nil)
  exact help_decorates h (by decide) (by decide)

end Report

/-! ## §3. What reports are made of. -/

/-- What a failure of each kind is reported with. -/
inductive Account where
  /-- A failure with its description, and what may help. -/
  | plain (text : String) (suggestion : Option String)
  /-- Templates nest too deeply; the same. -/
  | includeDepth (text : String) (suggestion : Option String)
  /-- A name is undefined; some names are available. -/
  | undefined (name : String) (available : List String)

/-- What a failure of any kind may be reported with. -/
structure Whereabouts where
  /-- Name or path of the template. -/
  templateName : Option String := none
  /-- Line in the template. -/
  lineno : Option Int := none
  /-- Template lines around the line. -/
  snippet : Option Snippet := none
  /-- The enclosing templates, outermost first. -/
  stack : List String := []

/-- The report on a failure. -/
def Account.report (a : Account) (w : Whereabouts) : Report :=
  let base : Report :=
    match a with
    | .plain text suggestion => { kind := .plain text, suggestion }
    | .includeDepth text suggestion => { kind := .includeDepth text, suggestion }
    | .undefined name available => Report.ofUndefined name available
  { base with
    templateName := w.templateName
    lineno := w.lineno
    snippet := w.snippet
    stack := w.stack }

/-- The texts of an account. -/
def Account.texts : Account → List String
  | .plain text suggestion | .includeDepth text suggestion => text :: suggestion.toList
  | .undefined name available => name :: available

/-- The texts that say where a failure is. -/
def Whereabouts.texts (w : Whereabouts) : List String :=
  w.templateName.toList ++ w.snippet.toList.flatMap (fun s => s.rows.map (·.2)) ++ w.stack

theorem Account.report_isEscapeFree {a : Account} {w : Whereabouts}
    (ha : ∀ text ∈ a.texts, IsEscapeFree text) (hw : ∀ text ∈ w.texts, IsEscapeFree text) :
    (a.report w).IsEscapeFree where
  kind := by
    cases a with
    | plain text suggestion | includeDepth text suggestion => exact ha text List.mem_cons_self
    | undefined name available =>
        refine ⟨ha name List.mem_cons_self, fun other hother => ?_⟩
        exact ha other (List.mem_cons_of_mem _ (mem_of_closest? hother))
  templateName := fun name hname => hw name (by simp_all [Whereabouts.texts, report])
  suggestion := by
    cases a with
    | plain text suggestion | includeDepth text suggestion =>
        exact fun s hs => ha s (List.mem_cons_of_mem _ (Option.mem_toList.mpr hs))
    | undefined name available =>
        have hname := ha name List.mem_cons_self
        intro text htext
        obtain rfl := Option.some.inj htext
        simp only [isEscapeFree_append, hname, and_true]
        decide
  snippet := fun s hs row hrow => by
    refine hw row.2 (List.mem_append_left _ (List.mem_append_right _ ?_))
    exact List.mem_flatMap.mpr ⟨s, Option.mem_toList.mpr hs, List.mem_map_of_mem hrow⟩
  stack := fun name hname => hw name (List.mem_append_right _ hname)

/-- **Colours only decorate.**  Take a failure of any kind, reported with texts that have no escape
character.  Its full text, its short form, its snippet and its chain of templates are with colours
what they are without, once every sequence is deleted; and every style that a sequence sets is taken
back before the next one is set. -/
theorem colors_only_decorate (a : Account) (w : Whereabouts)
    (ha : ∀ text ∈ a.texts, IsEscapeFree text) (hw : ∀ text ∈ w.texts, IsEscapeFree text) :
    let e := TemplateError.failure (a.report w)
    IsDecorated (e.message ·) ∧ IsDecorated (e.compact ·)
      ∧ (∀ s ∈ w.snippet, IsDecorated (s.text ·)) ∧ IsDecorated (stackText · w.stack) := by
  intro e
  have hfree := Account.report_isEscapeFree ha hw
  refine ⟨?_, ?_, fun s hs => ?_, ?_⟩
  · exact Decorates.isDecorated (fun color => e.message color) (Report.message_decorates hfree)
  · exact Decorates.isDecorated (fun color => e.compact color) (Report.compact_decorates hfree)
  · exact Decorates.isDecorated (fun color => s.text color)
      (Snippet.text_decorates (hfree.snippet s hs))
  · exact Decorates.isDecorated (fun color => stackText color w.stack)
      (stackText_decorates hfree.stack)

/-- A misspelt name in a template that two others are around, with all that a report can have. -/
theorem colors_only_decorate_misspelt :
    let a : Account := .undefined "titel" ["body", "title"]
    let w : Whereabouts :=
      { templateName := some "nav.html", lineno := some 2
        snippet := some ⟨[(1, "<ul>"), (2, "<%= titel %>")], 2⟩
        stack := ["page.html", "menu.html"] }
    let e := TemplateError.failure (a.report w)
    (∀ text ∈ a.texts ++ w.texts, IsEscapeFree text)
      ∧ IsDecorated (e.message ·) ∧ IsDecorated (e.compact ·)
      ∧ (∀ s ∈ w.snippet, IsDecorated (s.text ·)) ∧ IsDecorated (stackText · w.stack) := by
  refine ⟨by decide, colors_only_decorate _ _ (by decide) (by decide)⟩

end TagTemplate
