/-
  TagTemplate.Proofs.Scan.Lossless
  ────────────────────────────────
  **PARSING LOSES NOTHING.**

  A parsed template is its source again: the source falls into gaps and well
  formed tags, and the nodes say exactly what these are.  `Represents` is
  that statement about nodes, one rule for the text behind the last tag and
  one for a gap with the tag behind it; it knows nothing of escaping, since a
  literal is described by the text it stands for.

      source = gap₀ tag₁ gap₁ … tagₙ gapₙ   and   Represents … nodes
-/
import TagTemplate.Proofs.Lookup
import TagTemplate.Proofs.Scan.Escape
import TagTemplate.Proofs.Scan.Span

namespace TagTemplate

open Text

/-! ## §1. What nodes stand for. -/

/-- The nodes of a text between tags: a literal that stands for it, and none for the empty text. -/
inductive LiteralNodes : List Char → List Node → Prop where
  /-- Nothing is left. -/
  | none : LiteralNodes [] []
  /-- Something is left. -/
  | one {text : List Char} {value : String} (hne : text ≠ [])
      (hvalue : Literal.text value = String.ofList text) : LiteralNodes text [.literal value]

/-- The kind that a prefix character selects; without one it is the kind of plain tags. -/
inductive HasKind (settings : ScanSettings) : Option Char → TagKind → Prop where
  /-- No prefix character. -/
  | plain : HasKind settings none settings.plainKind
  /-- A configured one. -/
  | marked {c : Char} {kind : TagKind} (h : (c, kind) ∈ settings.prefixes) :
      HasKind settings (some c) kind

/-- The line of a tag behind some text, if lines are recorded. -/
def lineBehind (settings : ScanSettings) (before : List Char) : Option Int :=
  if settings.debug then some ((1 + before.count '\n' : Nat) : Int) else none

/-- Nodes represent gaps, each with the tag behind it, and the text behind the last tag; `before`
is the text in front of them, and `start` what the first gap begins with. -/
inductive Represents (settings : ScanSettings) :
    (before : List Char) → (start : Edge) → List (List Char × TagSpan) → List Char →
      List Node → Prop where
  /-- Behind the last tag. -/
  | trailing {before : List Char} {start : Edge} {gap : List Char} {nodes : List Node}
      (hgap : LiteralNodes (trim settings start .free gap) nodes) :
      Represents settings before start [] gap nodes
  /-- A gap and a tag. -/
  | tag {before : List Char} {start : Edge} {gap : List Char} {span : TagSpan} {kind : TagKind}
      {tags : List (List Char × TagSpan)} {trailing : List Char} {literal nodes : List Node}
      (hgap : LiteralNodes (trim settings start (.ofMarker span.left) gap) literal)
      (hkind : HasKind settings span.mark kind)
      (hnodes : Represents settings (before ++ gap ++ span.text settings.delimiters)
        (.ofMarker span.right) tags trailing nodes) :
      Represents settings before start ((gap, span) :: tags) trailing
        (literal ++ .tag kind (String.ofList span.body) (lineBehind settings (before ++ gap))
          :: nodes)

/-! ## §2. The nodes that are made. -/

theorem breaks_escape_isEmpty (s : List Char) :
    (Literal.breaks (Literal.escape s)).isEmpty = s.isEmpty := by
  cases s with
  | nil => rfl
  | cons c s =>
      cases hv : Literal.breaks (Literal.escape (c :: s)) with
      | nil =>
          have := Literal.unescape_breaks_escape (c :: s)
          rw [hv] at this
          exact absurd this (by simp [Literal.unescape])
      | cons _ _ => rfl

/-- **The literal of a gap stands for the trimmed gap.** -/
theorem literalOf_nodes (settings : ScanSettings) (start stop : Edge) (gap : List Char) :
    LiteralNodes (trim settings start stop gap) (literalOf settings start stop gap) := by
  unfold literalOf
  simp only
  rw [Literal.trim_escape, breaks_escape_isEmpty]
  generalize trim settings start stop gap = text
  cases text with
  | nil => exact .none
  | cons c s =>
      refine .one (by simp) ?_
      unfold Literal.text
      rw [String.toList_ofList, Literal.unescape_breaks_escape]

theorem kindOf_hasKind {settings : ScanSettings} {mark : Option Char}
    (h : ∀ c ∈ mark, c ∈ settings.delimiters.marks) :
    HasKind settings mark (settings.kindOf mark) := by
  cases mark with
  | none => exact .plain
  | some c =>
      obtain ⟨⟨c', kind⟩, hmem, rfl⟩ := List.mem_map.mp (h c rfl)
      -- the first kind with this character need not be `kind`, but it is a configured one
      obtain ⟨found, hfound⟩ := exists_lookup hmem
      have hin := mem_of_lookup hfound
      have hkind : settings.kindOf (some c') = found := by
        unfold ScanSettings.kindOf
        simp only
        rw [hfound]
        rfl
      show HasKind settings (some c') (settings.kindOf (some c'))
      rw [hkind]
      exact .marked hin

/-- The nodes of a gap and a tag, and those behind them; the line is that of the text before. -/
theorem nodesFrom_cons (settings : ScanSettings) (before gap : List Char) (start : Edge)
    (span : TagSpan) (tags : List (List Char × TagSpan)) (trailing : List Char) :
    nodesFrom settings start (1 + before.count '\n') ((gap, span) :: tags) trailing
      = literalOf settings start (.ofMarker span.left) gap
        ++ .tag (settings.kindOf span.mark) (String.ofList span.body)
          (lineBehind settings (before ++ gap))
        :: nodesFrom settings (.ofMarker span.right)
          (1 + (before ++ gap ++ span.text settings.delimiters).count '\n') tags trailing := by
  have hline : 1 + before.count '\n' + gap.count '\n' + (span.text settings.delimiters).count '\n'
      = 1 + (before ++ gap ++ span.text settings.delimiters).count '\n' := by
    rw [List.count_append, List.count_append]
    omega
  have hhere : (if settings.debug then some ((1 + before.count '\n' + gap.count '\n' : Nat) : Int)
      else none) = lineBehind settings (before ++ gap) := by
    unfold lineBehind
    rw [List.count_append, Nat.add_assoc]
  rw [nodesFrom.eq_2, hline, hhere]

/-- The nodes of gaps and tags represent them. -/
theorem nodesFrom_represents (settings : ScanSettings) :
    ∀ (tags : List (List Char × TagSpan)) (before : List Char) (start : Edge)
      (trailing : List Char),
      (∀ t ∈ tags, t.2.WellFormed settings.delimiters) →
      Represents settings before start tags trailing
        (nodesFrom settings start (1 + before.count '\n') tags trailing)
  | [], _, start, trailing, _ => .trailing (literalOf_nodes settings start .free trailing)
  | (gap, span) :: tags, before, start, trailing, hwf => by
      have hmark := (hwf _ List.mem_cons_self).mark
      have hrest := nodesFrom_represents settings tags
        (before ++ gap ++ span.text settings.delimiters) (.ofMarker span.right) trailing
        (fun t ht => hwf t (List.mem_cons_of_mem _ ht))
      rw [nodesFrom_cons]
      exact .tag (literalOf_nodes settings start (.ofMarker span.left) gap) (kindOf_hasKind hmark)
        hrest

/-! ## §3. Parsing. -/

/-- Hooks that do not exist change no nodes. -/
theorem runNodePlugins_plain (nodes : List Node) (j : Journal) :
    ∀ (plugins : List Plugin), (∀ p ∈ plugins, p.onNodes = none) →
      (runNodePlugins plugins nodes).run.run j = (.ok nodes, j)
  | [], _ => rfl
  | p :: plugins, h => by
      unfold runNodePlugins
      rw [List.foldlM_cons, h p List.mem_cons_self]
      exact runNodePlugins_plain nodes j plugins (fun q hq => h q (List.mem_cons_of_mem _ hq))

/-- Parsing hands the nodes of the source to the hooks. -/
theorem parse_run (settings : ScanSettings) (source : String) (j : Journal) :
    ∃ j', (parse settings source).run.run j
      = (runNodePlugins settings.plugins (nodesOf settings source.toList)).run.run j' := by
  unfold parse
  simp only
  cases unterminatedAt? settings source.toList with
  | none => exact ⟨_, rfl⟩
  | some offset => exact ⟨_, rfl⟩

/-- Without hooks on nodes, parsing succeeds with the nodes of the source. -/
theorem parse_plain (settings : ScanSettings) (source : String)
    (plain : ∀ p ∈ settings.plugins, p.onNodes = none) (j : Journal) :
    ∃ j', (parse settings source).run.run j = (.ok (nodesOf settings source.toList), j') := by
  obtain ⟨j', hrun⟩ := parse_run settings source j
  exact ⟨j', hrun.trans (runNodePlugins_plain _ j' _ plain)⟩

/-- A computation that succeeds does so in both its parts. -/
theorem bind_eq_ok {ε α β : Type} {x : Except ε α} {f : α → Except ε β} {b : β}
    (h : (x >>= f) = .ok b) : ∃ a, x = .ok a ∧ f a = .ok b := by
  cases x with
  | error e => exact absurd h (by simp [bind, Except.bind])
  | ok a => exact ⟨a, rfl, h⟩

/-- Accepted delimiters are not empty. -/
theorem delimitersOf_ne_empty {entries : List Datum} {opening closing : String}
    (h : delimitersOf entries = .ok (opening, closing)) : opening ≠ "" ∧ closing ≠ "" := by
  unfold delimitersOf at h
  simp only at h
  split at h
  next =>
    split at h
    next => exact absurd h (by simp)
    next hne =>
      injection h with h
      obtain ⟨rfl, rfl⟩ := Prod.mk.inj h
      simpa using hne
  next => exact absurd h (by simp)

/-- The delimiters of accepted settings are not empty. -/
theorem ScanOptions.check_delimiters {o : ScanOptions} {settings : ScanSettings}
    (h : o.check = .ok settings) : settings.opening ≠ "" ∧ settings.closing ≠ "" := by
  unfold ScanOptions.check at h
  obtain ⟨_, _, h⟩ := bind_eq_ok h
  obtain ⟨_, _, h⟩ := bind_eq_ok h
  obtain ⟨⟨opening, closing⟩, hd, h⟩ := bind_eq_ok h
  obtain ⟨_, _, h⟩ := bind_eq_ok h
  obtain ⟨_, _, h⟩ := bind_eq_ok h
  obtain ⟨_, _, h⟩ := bind_eq_ok h
  have hne := delimitersOf_ne_empty hd
  simp only at h
  split at h
  next => injection h with h; exact h ▸ hne
  next =>
    split at h
    next =>
      split at h
      next => injection h with h; exact h ▸ hne
      next => exact absurd h (by simp [throw, throwThe, MonadExceptOf.throw])
    next => injection h with h; exact h ▸ hne
  next => exact absurd h (by simp [throw, throwThe, MonadExceptOf.throw])

/-! ## §4. THE THEOREM. -/

/-- **PARSING LOSES NOTHING**: for all accepted settings without hooks on nodes and every source,
the source consists of gaps and well formed tags, parsing succeeds, and its nodes represent exactly
these gaps and tags. -/
theorem parse_lossless (o : ScanOptions) (settings : ScanSettings)
    (accepted : o.check = .ok settings) (plain : ∀ p ∈ settings.plugins, p.onNodes = none)
    (source : String) :
    ∃ (tags : List (List Char × TagSpan)) (trailing : List Char) (nodes : List Node),
      source.toList = cutText settings.delimiters tags trailing
        ∧ (∀ t ∈ tags, t.2.WellFormed settings.delimiters)
        ∧ Represents settings [] .free tags trailing nodes
        ∧ ∀ j, ∃ j', (parse settings source).run.run j = (.ok nodes, j') := by
  have hopen : settings.delimiters.opening ≠ [] := by
    have := (ScanOptions.check_delimiters accepted).1
    show settings.opening.toList ≠ []
    simpa using this
  obtain ⟨htext, hwf⟩ := scanFrom_sound hopen [] source.toList
  refine ⟨_, _, nodesOf settings source.toList, htext.symm, hwf, ?_,
    parse_plain settings source plain⟩
  exact nodesFrom_represents settings _ [] .free _ hwf

/-- A template with both trim markers, a prefix character behind blanks, and a closing delimiter
inside a quoted run. -/
theorem parse_lossless_question_marks :
    let o : ScanOptions :=
      { tags := .list [.str "<?", .str "?>"], executeMark := .str "!", interpolateMark := .str "",
        autoTrim := .trim .slurp }
    let settings : ScanSettings :=
      { opening := "<?", closing := "?>", executeMark := some '!', interpolateMark := none,
        trimBefore := .slurp, trimAfter := .slurp }
    let source := "it's \n<?- ! f('?>') _?> \\ <? x"
    o.check = .ok settings ∧ (∀ p ∈ settings.plugins, p.onNodes = none)
      ∧ ∃ (tags : List (List Char × TagSpan)) (trailing : List Char) (nodes : List Node),
          source.toList = cutText settings.delimiters tags trailing
            ∧ (∀ t ∈ tags, t.2.WellFormed settings.delimiters)
            ∧ Represents settings [] .free tags trailing nodes
            ∧ ∀ j, ∃ j', (parse settings source).run.run j = (.ok nodes, j') := by
  intro o settings source
  have plain : ∀ p ∈ settings.plugins, p.onNodes = none := fun p hp => absurd hp List.not_mem_nil
  exact ⟨rfl, plain, parse_lossless o settings rfl plain source⟩

end TagTemplate
