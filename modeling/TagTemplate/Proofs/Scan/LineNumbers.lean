/-
  TagTemplate.Proofs.Scan.LineNumbers
  ────────────────────────────────
  **LINE NUMBERS.**

  The parser carries a line from gap to tag and from tag to gap.  At every
  tag this line is that of the whole text in front of it, and nothing else
  of a parse depends on whether lines are recorded:

    • `tag_nodesFrom` — the i-th tag node has the line of the i-th tag,
    • `nodesOf_recordLines` — with and without lines the nodes are the same,
      but for the lines,
    • `ScanOptions.check_recordLines` — the same options are accepted,
    • `parse_lines` — what a parse with lines and one without them leave.
-/
import TagTemplate.Proofs.Scan.Unterminated

namespace TagTemplate

open Text

/-! ## §1. Nodes with and without lines. -/

/-- A node is a tag. -/
def Node.isTag : Node → Bool
  | .tag .. => true
  | _ => false

/-- A node without its line. -/
def Node.withoutLine : Node → Node
  | .tag kind body _ => .tag kind body none
  | node => node

/-- The settings with lines recorded or not. -/
def ScanSettings.recordLines (settings : ScanSettings) (debug : Bool) : ScanSettings :=
  { settings with debug }

/-- A gap makes no tag. -/
theorem filter_literalOf (settings : ScanSettings) (start stop : Edge) (gap : List Char) :
    (literalOf settings start stop gap).filter Node.isTag = [] := by
  unfold literalOf
  dsimp only
  split <;> rfl

/-- A gap makes nothing that has a line. -/
theorem withoutLine_literalOf (settings : ScanSettings) (start stop : Edge) (gap : List Char) :
    (literalOf settings start stop gap).map Node.withoutLine = literalOf settings start stop gap := by
  unfold literalOf
  dsimp only
  split <;> rfl

/-! ## §2. The line of a tag. -/

/-- **The i-th tag node is made of the i-th tag**, and its line is that of all the text in front of
this tag. -/
theorem tag_nodesFrom (settings : ScanSettings) (trailing : List Char) :
    ∀ (tags : List (List Char × TagSpan)) (before : List Char) (start : Edge) (i : Nat),
      ((nodesFrom settings start (1 + before.count '\n') tags trailing).filter Node.isTag)[i]?
        = tags[i]?.map fun tag => .tag (settings.kindOf tag.2.mark) (String.ofList tag.2.body)
          (lineBehind settings (before ++ cutText settings.delimiters (tags.take i) tag.1))
  | [], before, start, i => by
      show ((literalOf settings start .free trailing).filter Node.isTag)[i]? = none
      rw [filter_literalOf]
      rfl
  | (gap, span) :: tags, before, start, i => by
      rw [nodesFrom_cons, List.filter_append, filter_literalOf, List.nil_append,
        List.filter_cons_of_pos (by rfl)]
      cases i with
      | zero => rfl
      | succ i =>
          -- the text in front of the tags that follow ends with this gap and this tag
          rw [List.getElem?_cons_succ, List.getElem?_cons_succ,
            tag_nodesFrom settings trailing tags (before ++ gap ++ span.text settings.delimiters)]
          simp only [List.take_succ_cons, cutText_cons, List.append_assoc]

/-- There are as many tag nodes as tags. -/
theorem length_tags_nodesFrom (settings : ScanSettings) (trailing : List Char) :
    ∀ (tags : List (List Char × TagSpan)) (start : Edge) (line : Nat),
      ((nodesFrom settings start line tags trailing).filter Node.isTag).length = tags.length
  | [], start, _ => congrArg List.length (filter_literalOf settings start .free trailing)
  | (gap, span) :: tags, start, line => by
      rw [nodesFrom.eq_2, List.filter_append, filter_literalOf, List.nil_append,
        List.filter_cons_of_pos (by rfl), List.length_cons, List.length_cons,
        length_tags_nodesFrom settings trailing tags]

/-! ## §3. Lines recorded or not. -/

/-- Recorded lines change the nodes in nothing else. -/
theorem nodesFrom_recordLines (settings : ScanSettings) (trailing : List Char) :
    ∀ (tags : List (List Char × TagSpan)) (start : Edge) (line : Nat),
      (nodesFrom (settings.recordLines true) start line tags trailing).map Node.withoutLine
        = nodesFrom (settings.recordLines false) start line tags trailing
  | [], start, _ => withoutLine_literalOf (settings.recordLines true) start .free trailing
  | (gap, span) :: tags, start, line => by
      have hrest := nodesFrom_recordLines settings trailing tags (.ofMarker span.right)
        (line + gap.count '\n' + (span.text settings.delimiters).count '\n')
      rw [nodesFrom.eq_2, nodesFrom.eq_2, List.map_append, List.map_cons, withoutLine_literalOf]
      -- the literal, the kind and the body are made without a look at the setting
      exact congrArg (literalOf settings start (.ofMarker span.left) gap ++ ·)
        (congrArg (Node.tag (settings.kindOf span.mark) (String.ofList span.body) none :: ·) hrest)

theorem nodesOf_recordLines (settings : ScanSettings) (source : List Char) :
    (nodesOf (settings.recordLines true) source).map Node.withoutLine
      = nodesOf (settings.recordLines false) source :=
  nodesFrom_recordLines settings _ _ .free 1

/-- A change of the result can be made behind the first part of a computation. -/
theorem bind_eq_map {ε α β γ : Type} {x : Except ε α} {f : α → Except ε β} {f' : α → Except ε γ}
    {g : β → γ} (h : ∀ a, f' a = (f a).map g) : (x >>= f') = (x >>= f).map g := by
  cases x with
  | error e => rfl
  | ok a => exact h a

/-- Options are accepted or refused whether or not lines are asked for. -/
theorem ScanOptions.check_recordLines (o : ScanOptions) (debug : Bool) :
    ({ o with debug } : ScanOptions).check = o.check.map (·.recordLines debug) := by
  unfold ScanOptions.check
  -- no part reads the field before the last one, which only hands it on
  refine bind_eq_map fun entries => bind_eq_map fun trims => bind_eq_map fun delimiters => ?_
  refine bind_eq_map fun executeMark => bind_eq_map fun interpolateMark => ?_
  refine bind_eq_map fun rawMark => ?_
  dsimp only [ScanSettings.marks]
  split
  case h_1 => rfl
  case h_2 kind =>
    split
    case h_1 given => split <;> rfl
    case h_2 => rfl
  case h_3 => rfl

/-! ## §4. THE THEOREM. -/

/-- The tags of a cut stand behind the text of the gaps and tags in front of them. -/
theorem cutText_at (d : Delimiters) (trailing : List Char) :
    ∀ (tags : List (List Char × TagSpan)) (i : Nat) (gap : List Char) (span : TagSpan),
      tags[i]? = some (gap, span) →
      cutText d tags trailing
        = cutText d (tags.take i) gap ++ (span.text d ++ cutText d (tags.drop (i + 1)) trailing)
  | [], i, _, _, h => nomatch h
  | tag :: tags, 0, gap, span, h => by
      obtain rfl : tag = (gap, span) := Option.some.inj h
      rw [cutText_cons, List.append_assoc]
      rfl
  | tag :: tags, i + 1, gap, span, h => by
      have hrest := cutText_at d trailing tags i gap span h
      rw [cutText_cons, hrest, List.take_succ_cons, cutText_cons, List.drop_succ_cons,
        List.append_assoc _ (cutText d (tags.take i) gap)]

/-- **LINE NUMBERS ARE EXACT, AND RECORDING THEM CHANGES NOTHING ELSE**: for all accepted options without
hooks on nodes and every source, the options are accepted with lines and without.  With lines, the i-th
tag node is made of the i-th tag of the source, and its line is one more than the number of line breaks
in front of this tag; without lines, the nodes are the same but for the lines, and so is the journal. -/
theorem parse_lines (o : ScanOptions) (settings : ScanSettings) (accepted : o.check = .ok settings)
    (plain : ∀ p ∈ settings.plugins, p.onNodes = none) (source : String) :
    (∀ debug, ({ o with debug } : ScanOptions).check = .ok (settings.recordLines debug))
      ∧ ∃ (tags : List (List Char × TagSpan)) (trailing : List Char) (nodes : List Node)
          (records : List Record),
        scanTags settings.delimiters source.toList = (tags, trailing)
          ∧ source.toList = cutText settings.delimiters tags trailing
          ∧ (∀ t ∈ tags, t.2.WellFormed settings.delimiters)
          ∧ Traced.Leaves (parse (settings.recordLines true) source) nodes records
          ∧ Traced.Leaves (parse (settings.recordLines false) source)
              (nodes.map Node.withoutLine) records
          ∧ (nodes.filter Node.isTag).length = tags.length
          ∧ ∀ i gap span, tags[i]? = some (gap, span) →
              ∃ before after, source.toList = before ++ (span.text settings.delimiters ++ after)
                ∧ before = cutText settings.delimiters (tags.take i) gap
                ∧ (nodes.filter Node.isTag)[i]? = some (.tag (settings.kindOf span.mark)
                    (String.ofList span.body) (some ((1 + before.count '\n' : Nat) : Int))) := by
  have hopen : settings.delimiters.opening ≠ [] := fun h =>
    (ScanOptions.check_delimiters accepted).1 (String.toList_eq_nil_iff.mp h)
  obtain ⟨htext, hwf⟩ := scanFrom_sound hopen [] source.toList
  refine ⟨fun debug => ?_, (scanTags settings.delimiters source.toList).1,
    (scanTags settings.delimiters source.toList).2,
    nodesOf (settings.recordLines true) source.toList, _, rfl, htext.symm, hwf,
    parse_leaves (settings.recordLines true) source plain, ?_, ?_, fun i gap span hat => ?_⟩
  · rw [ScanOptions.check_recordLines, accepted]
    rfl
  · have hleaves := parse_leaves (settings.recordLines false) source plain
    -- the journal tells the number of nodes, and that is the same
    have hscanned : scannedRecord (settings.recordLines false) source.toList
        = scannedRecord (settings.recordLines true) source.toList := by
      unfold scannedRecord
      rw [← nodesOf_recordLines, List.length_map]
    rwa [hscanned, ← nodesOf_recordLines] at hleaves
  · exact length_tags_nodesFrom (settings.recordLines true) _ _ .free 1
  · refine ⟨_, _, htext.symm.trans (cutText_at _ _ _ i gap span hat), rfl, ?_⟩
    have htag := tag_nodesFrom (settings.recordLines true)
      (scanTags settings.delimiters source.toList).2
      (scanTags settings.delimiters source.toList).1 [] .free i
    rw [hat] at htag
    exact htag

/-- A tag that goes over two lines, a gap that is trimmed away, and two tags side by side. -/
theorem parse_lines_multiline :
    let o : ScanOptions := { autoTrim := .trim .slurp, debug := true }
    let settings : ScanSettings := { trimBefore := .slurp, trimAfter := .slurp, debug := true }
    let source := "a\n<%=\nb %>\n<% c %><%~ d %>\n"
    o.check = .ok settings ∧ (∀ p ∈ settings.plugins, p.onNodes = none)
      ∧ ∃ (nodes : List Node) (records : List Record),
          Traced.Leaves (parse (settings.recordLines true) source) nodes records
            ∧ Traced.Leaves (parse (settings.recordLines false) source)
                (nodes.map Node.withoutLine) records
            ∧ nodes.filter Node.isTag
              = [.tag .interpolate "b" (some 2), .tag .execute "c" (some 4),
                .tag .raw "d" (some 4)] := by
  intro o settings source
  have plain : ∀ p ∈ settings.plugins, p.onNodes = none := fun p hp => absurd hp List.not_mem_nil
  obtain ⟨_, tags, trailing, nodes, records, hscan, _, _, hon, hoff, hlength, htags⟩ :=
    parse_lines o settings rfl plain source
  refine ⟨rfl, plain, nodes, records, hon, hoff, ?_⟩
  have hcut : scanTags settings.delimiters source.toList
      = ([(['a', '\n'], ⟨none, [], some '=', ['\n'], ['b'], [' '], none⟩),
          (['\n'], ⟨none, [' '], none, [], ['c'], [' '], none⟩),
          ([], ⟨none, [], some '~', [' '], ['d'], [' '], none⟩)], ['\n']) := by
    decide +kernel
  obtain ⟨rfl, rfl⟩ := Prod.mk.inj (hscan.symm.trans hcut)
  -- one break in front of the first tag; the break inside it and the one behind it come on top
  obtain ⟨_, _, _, hbefore, hfirst⟩ := htags 0 _ _ rfl
  rw [hbefore, show List.count '\n' _ = 1 from by decide +kernel] at hfirst
  obtain ⟨_, _, _, hbefore, hsecond⟩ := htags 1 _ _ rfl
  rw [hbefore, show List.count '\n' _ = 3 from by decide +kernel] at hsecond
  obtain ⟨_, _, _, hbefore, hthird⟩ := htags 2 _ _ rfl
  rw [hbefore, show List.count '\n' _ = 3 from by decide +kernel] at hthird
  generalize nodes.filter Node.isTag = found at hlength hfirst hsecond hthird ⊢
  match found, hlength with
  | [first, second, third], _ =>
      have hfirst : first = .tag .interpolate "b" (some 2) := Option.some.inj hfirst
      have hsecond : second = .tag .execute "c" (some 4) := Option.some.inj hsecond
      have hthird : third = .tag .raw "d" (some 4) := Option.some.inj hthird
      rw [hfirst, hsecond, hthird]

end TagTemplate
