/-
  TagTemplate.Proofs.Scan.Unterminated
  ────────────────────────────────
  **TAGS THAT ARE NEVER CLOSED.**

  A warning is left about the first opening delimiter behind the last tag
  (`parse_leaves`).  An opening delimiter may also be left in front of a tag,
  and no warning says so: the steps behind it run on into the tag, and one of
  them, a quoted run or a comment, covers the place where the tag ends.

    • `Steps.at_or_inside` — a place of a text is a boundary between its steps
      or lies inside a run or comment,
    • `CutFirst.covered` — an opening delimiter that is left in front of a tag
      does not see the tag's end for this reason only,
    • `parse_reports_open` — which opening delimiters are reported.
-/
import TagTemplate.Proofs.Machine.Records
import TagTemplate.Proofs.Scan.FirstEnd

namespace TagTemplate

open Text

/-! ## §1. Occurrences of a text. -/

namespace Text

/-- Where a text is found it stands. -/
theorem indexOf?_sound {needle : List Char} :
    ∀ {s : List Char} {n : Nat}, indexOf? needle s = some n →
      ∃ before after, s = before ++ (needle ++ after) ∧ before.length = n
  | [], n, h => by
      unfold indexOf? at h
      split at h
      next hempty =>
        rw [List.isEmpty_iff.mp hempty]
        exact ⟨[], [], rfl, Option.some.inj h⟩
      next => exact nomatch h
  | c :: s, n, h => by
      unfold indexOf? at h
      split at h
      next hstart =>
        obtain ⟨after, hafter⟩ := startsWith_iff.mp hstart
        exact ⟨[], after, hafter, Option.some.inj h⟩
      next =>
        obtain ⟨k, hk, rfl⟩ := Option.map_eq_some_iff.mp h
        obtain ⟨before, after, rfl, rfl⟩ := indexOf?_sound hk
        exact ⟨c :: before, after, rfl, rfl⟩

/-- Where a text stands it is found, there or earlier. -/
theorem indexOf?_le (needle after : List Char) :
    ∀ before : List Char, ∃ n ≤ before.length, indexOf? needle (before ++ (needle ++ after)) = some n
  | [] => by
      refine ⟨0, Nat.le_refl 0, ?_⟩
      have hstart := startsWith_append needle after
      show indexOf? needle (needle ++ after) = some 0
      cases hs : needle ++ after with
      | nil =>
          rw [(List.append_eq_nil_iff.mp hs).1]
          rfl
      | cons c s =>
          rw [hs] at hstart
          unfold indexOf?
          rw [if_pos hstart]
  | c :: before => by
      obtain ⟨n, hn, hfound⟩ := indexOf?_le needle after before
      rw [List.cons_append]
      unfold indexOf?
      split
      · exact ⟨0, Nat.zero_le _, rfl⟩
      · exact ⟨n + 1, Nat.succ_le_succ hn, by rw [hfound]; rfl⟩

end Text

/-! ## §2. What parsing leaves in the journal. -/

/-- The record about an opening delimiter that no tag begins with. -/
def openRecord (settings : ScanSettings) (offset : Nat) : Record :=
  ⟨.warning, .scanner, unterminatedText settings.opening offset⟩

/-- The record about what was found. -/
def scannedRecord (settings : ScanSettings) (source : List Char) : Record :=
  ⟨.debug, .scanner, "Scanned " ++ toString (nodesOf settings source).length ++ " nodes from "
    ++ toString source.length ++ " characters"⟩

/-- **What parsing leaves**: a warning if an opening delimiter stands behind the last tag, and how much
was found. -/
theorem parse_leaves (settings : ScanSettings) (source : String)
    (plain : ∀ p ∈ settings.plugins, p.onNodes = none) :
    Traced.Leaves (parse settings source) (nodesOf settings source.toList)
      ((unterminatedAt? settings source.toList).toList.map (openRecord settings)
        ++ [scannedRecord settings source.toList]) := by
  have hplugins : Traced.Leaves
      (runNodePlugins settings.plugins (nodesOf settings source.toList))
      (nodesOf settings source.toList) [] :=
    .nothing fun j => runNodePlugins_plain _ j _ plain
  have hscanned : Traced.Leaves (do
      debugRecord .scanner (scannedRecord settings source.toList).text
      runNodePlugins settings.plugins (nodesOf settings source.toList))
      (nodesOf settings source.toList) ([scannedRecord settings source.toList] ++ []) :=
    Traced.Leaves.record.bind hplugins
  unfold parse
  dsimp only
  cases unterminatedAt? settings source.toList with
  | none => exact Traced.Leaves.pure.bind hscanned
  | some offset => exact Traced.Leaves.record.bind hscanned

/-! ## §3. Places inside a step. -/

/-- The place between two parts of a text lies inside a run or comment that is one of its steps. -/
def InsideStep (x y : List Char) : Prop :=
  ∃ taken step left, Steps (x ++ y) taken (step ++ left) ∧ Enclosed step
    ∧ taken.length < x.length ∧ x.length < taken.length + step.length

/-- **A place of a text is a boundary between its steps or lies inside a run or comment.** -/
theorem Steps.at_or_inside (y : List Char) :
    ∀ (n : Nat) (x : List Char), x.length ≤ n → Steps (x ++ y) x y ∨ InsideStep x y
  | _, [], _ => .inl .none
  | 0, _ :: _, h => absurd h (Nat.not_succ_le_zero _)
  | n + 1, c :: x, h => by
      let k := stepTail c (x ++ y)
      have hstep : FirstStep (c :: (x ++ y)) (c :: (x ++ y).take k) ((x ++ y).drop k) :=
        firstStep_iff.mpr ⟨rfl, rfl⟩
      have hk : k ≤ (x ++ y).length := (stepTail_last c (x ++ y)).1
      by_cases hle : k ≤ x.length
      · -- the first step ends at the place or in front of it
        rw [List.take_append_of_le_length hle, List.drop_append_of_le_length hle] at hstep
        have hcut : c :: x.take k ++ x.drop k = c :: x := by
          rw [List.cons_append, List.take_append_drop]
        have hlength : (c :: x).length = (c :: x.take k).length + (x.drop k).length := by
          rw [← hcut, List.length_append]
        rcases Steps.at_or_inside y n (x.drop k) (by simp at h ⊢; omega) with hat | hinside
        · left
          have hsteps := Steps.next hstep hat
          rwa [hcut] at hsteps
        · right
          obtain ⟨taken, step, left, hsteps, hclosed, hbefore, hbehind⟩ := hinside
          refine ⟨c :: x.take k ++ taken, step, left, .next hstep hsteps, hclosed, ?_, ?_⟩
          · rw [hlength, List.length_append]
            omega
          · rw [hlength, List.length_append]
            omega
      · -- the first step goes beyond the place, so it has more than one character
        right
        have hclosed := enclosed_of_stepTail (c := c) (s := x ++ y) (by show k ≠ 0; omega)
        have hcut : c :: (x ++ y).take k ++ (x ++ y).drop k = c :: x ++ y := by
          rw [List.cons_append, List.take_append_drop, List.cons_append]
        refine ⟨[], c :: (x ++ y).take k, (x ++ y).drop k, ?_, hclosed, Nat.succ_pos _, ?_⟩
        · rw [hcut]
          exact .none
        · rw [List.length_cons, List.length_cons, List.length_take, Nat.min_eq_left hk]
          simp
          omega

section Covered

variable {d : Delimiters}

/-- Where a tag never ends, an end that could be read lies inside a run or comment. -/
theorem NeverEnds.inside {x y : List Char} (h : NeverEnds d (x ++ y)) (hend : CanEnd d y) :
    InsideStep x y := by
  rcases Steps.at_or_inside y x.length x (Nat.le_refl _) with hat | hinside
  · exact absurd hend (h x y hat)
  · exact hinside

/-- What stands in front of the body in the greedy head are characters of a head. -/
theorem greedyHead_front (s : List Char) :
    ∃ front, s = front ++ (greedyHead d s).rest ∧ ∀ c ∈ front, d.IsHeadChar c := by
  let head := greedyHead d s
  refine ⟨head.marker.toList ++ head.lead ++ head.mark.toList ++ head.gap, ?_, fun c hc => ?_⟩
  · conv => lhs; rw [greedyHead_text (d := d) s]
    simp [head]
  · have hmarker := (takeOne_append isMarker s).2
    have hmark := (takeOne_append d.marks.contains (stripStart (takeOne isMarker s).2)).2
    have hblank : ∀ t : List Char, ∀ c ∈ t.takeWhile isBlank, isBlank c = true :=
      fun t => allBlank_iff.mp (takeWhile_isBlank_allBlank t)
    simp only [List.mem_append, Option.mem_toList] at hc
    rcases hc with ((hc | hc) | hc) | hc
    · exact .inr (.inl (hmarker c hc))
    · exact .inl (hblank _ c hc)
    · exact .inr (.inr (List.contains_iff_mem.mp (hmark c hc)))
    · exact .inl (hblank _ c hc)

variable (clear : d.Clear)

include clear in
/-- An end that can be read in front of characters of a head can be read behind them. -/
theorem CanEnd.of_append {s : List Char} : ∀ {front : List Char},
    (∀ c ∈ front, d.IsHeadChar c) → CanEnd d (front ++ s) → CanEnd d s
  | [], _, h => h
  | _ :: _, hfront, h => by
      obtain ⟨hc, hfront⟩ := List.forall_mem_cons.mp hfront
      exact CanEnd.of_append hfront (h.of_cons clear hc)

include clear in
/-- **An opening delimiter that is left does not see a later end**: the end lies behind the head of its
tag, inside a run or comment. -/
theorem Unclosed.covered {after front y : List Char} (h : Unclosed d (d.opening ++ after))
    (hafter : after = front ++ y) (hend : CanEnd d y) :
    ∃ x, (greedyHead d after).rest = x ++ y ∧ InsideStep x y := by
  have hnever := h after rfl
  obtain ⟨front', htext, hfront'⟩ := greedyHead_front (d := d) after
  rcases List.append_eq_append_iff.mp (htext.symm.trans hafter) with ⟨more, _, hrest⟩ | ⟨more, hfront, hy⟩
  · refine ⟨more, hrest, ?_⟩
    rw [hrest] at hnever
    exact hnever.inside hend
  · -- the head would go beyond the end, and the tag would end behind its head
    rw [hy] at hend
    have hmore : ∀ c ∈ more, d.IsHeadChar c := fun c hc =>
      hfront' c (hfront ▸ List.mem_append_right _ hc)
    exact absurd (hend.of_append clear hmore) (hnever [] _ .none)

/-! ## §4. What is left in the gaps of a cut. -/

/-- The parts of a cut are its text. -/
theorem CutFirst.text {s trailing : List Char} {tags : List (List Char × TagSpan)}
    (h : CutFirst d s tags trailing) : s = cutText d tags trailing := by
  induction h with
  | trailing => rfl
  | tag _ _ _ ih => rw [cutText_cons, ← ih, List.append_assoc]

/-- Every tag of a cut ends at its first boundary, and what is left in front of it is not closed. -/
theorem CutFirst.mem {s trailing : List Char} {tags : List (List Char × TagSpan)}
    (h : CutFirst d s tags trailing) {gap : List Char} {span : TagSpan}
    {more : List (List Char × TagSpan)} (hin : (gap, span) :: more <:+ tags) :
    (∀ t, t <:+ gap → t ≠ [] → Unclosed d (t ++ (span.text d ++ cutText d more trailing)))
      ∧ span.ClosesFirst d (cutText d more trailing) := by
  induction h with
  | trailing => exact absurd (List.suffix_nil.mp hin) (List.cons_ne_nil _ _)
  | tag hgap hspan hrest ih =>
      rcases List.suffix_cons_iff.mp hin with heq | hin
      · obtain ⟨hfirst, rfl⟩ := List.cons.inj heq
        obtain ⟨rfl, rfl⟩ := Prod.mk.inj hfirst
        rw [← hrest.text]
        exact ⟨hgap, hspan⟩
      · exact ih hin

include clear in
/-- **What is left in front of a tag is covered**: behind an opening delimiter in a gap there is a run
or comment which begins in front of the place where the body of the next tag ends and ends behind it. -/
theorem CutFirst.covered {s trailing : List Char} {tags : List (List Char × TagSpan)}
    (h : CutFirst d s tags trailing) {gap : List Char} {span : TagSpan}
    {more : List (List Char × TagSpan)} (hin : (gap, span) :: more <:+ tags) {t after : List Char}
    (hgap : t <:+ gap) (hne : t ≠ [])
    (hopen : t ++ (span.text d ++ cutText d more trailing) = d.opening ++ after) :
    ∃ x, (greedyHead d after).rest = x ++ (span.stop.text d ++ cutText d more trailing)
      ∧ InsideStep x (span.stop.text d ++ cutText d more trailing) := by
  obtain ⟨hleft, hspan⟩ := h.mem hin
  have hunclosed := hleft t hgap hne
  rw [hopen] at hunclosed
  let rest := cutText d more trailing
  -- the tag begins behind the first character of the delimiter, so its own delimiter ends behind it
  have hafter : ∃ front, after = front ++ (span.stop.text d ++ rest) := by
    rw [span.text_append, ← List.append_assoc] at hopen
    rcases List.append_eq_append_iff.mp hopen with ⟨more', hlong, _⟩ | ⟨more', _, hafter⟩
    · have hlength := congrArg List.length hlong
      have hpos := List.length_pos_iff.mpr hne
      simp only [List.length_append] at hlength
      omega
    · refine ⟨more' ++ (span.left.toList ++ (span.lead ++ (span.mark.toList ++ (span.gap
        ++ span.body)))), ?_⟩
      rw [hafter]
      simp [TagSpan.fromHead, TagSpan.fromBody, rest]
  obtain ⟨front, hafter⟩ := hafter
  exact hunclosed.covered clear hafter ⟨span.stop, hspan.wellFormed.stop, _, rfl⟩

end Covered

/-! ## §5. THE THEOREM. -/

/-- The first opening delimiter behind the last tag of a cut. -/
structure FirstOpen (d : Delimiters) (trailing before after : List Char) : Prop where
  /-- It stands there. -/
  here : trailing = before ++ (d.opening ++ after)
  /-- None stands in front of it. -/
  first : ∀ before' after', trailing = before' ++ (d.opening ++ after') →
    before.length ≤ before'.length

/-- The position that is looked for is that of the first opening delimiter behind the last tag. -/
theorem unterminatedAt?_eq (settings : ScanSettings) (source : List Char)
    (htext : source = cutText settings.delimiters (scanTags settings.delimiters source).1
      (scanTags settings.delimiters source).2) :
    (∃ before after,
        FirstOpen settings.delimiters (scanTags settings.delimiters source).2 before after
        ∧ unterminatedAt? settings source
          = some (cutText settings.delimiters (scanTags settings.delimiters source).1 before).length)
      ∨ (¬ settings.delimiters.opening <:+: (scanTags settings.delimiters source).2
        ∧ unterminatedAt? settings source = none) := by
  have hat : unterminatedAt? settings source
      = (indexOf? settings.delimiters.opening (scanTags settings.delimiters source).2).map
        (· + (source.length - (scanTags settings.delimiters source).2.length)) := rfl
  rw [hat]
  generalize (scanTags settings.delimiters source).1 = tags at htext ⊢
  generalize (scanTags settings.delimiters source).2 = trailing at htext ⊢
  cases hindex : indexOf? settings.delimiters.opening trailing with
  | none =>
      -- a delimiter that stands there would have been found
      refine .inr ⟨?_, rfl⟩
      rintro ⟨before, after, hopen⟩
      obtain ⟨n, _, hfound⟩ := indexOf?_le settings.delimiters.opening after before
      rw [← List.append_assoc, hopen, hindex] at hfound
      exact nomatch hfound
  | some n =>
      obtain ⟨before, after, hhere, rfl⟩ := indexOf?_sound hindex
      refine .inl ⟨before, after, ⟨hhere, fun before' after' hopen => ?_⟩, congrArg some ?_⟩
      · obtain ⟨n, hn, hfound⟩ := indexOf?_le settings.delimiters.opening after' before'
        rw [← hopen, hindex] at hfound
        rwa [Option.some.inj hfound]
      · -- what stands in front of the trailing text is as long as the tags with their gaps
        rw [htext]
        unfold cutText
        simp only [List.length_append]
        omega

/-- **WHICH OPENING DELIMITERS ARE REPORTED**: for all accepted settings without hooks on nodes, whose
closing delimiter begins with no blank, marker or prefix character and whose prefix characters are no
quotes and no slashes, and every source, a warning is left exactly if an opening delimiter stands behind
the last tag, and it tells the place of the first one.  One that is left in front of a tag is not told:
behind it there is a quoted run or a comment that covers the place where the body of this tag ends. -/
theorem parse_reports_open (o : ScanOptions) (settings : ScanSettings)
    (accepted : o.check = .ok settings)
    (closing : ∀ c ∈ settings.delimiters.closing.head?,
      isBlank c = false ∧ isMarker c = false ∧ c ∉ settings.delimiters.marks)
    (marks : ∀ c ∈ settings.delimiters.marks, isQuote c = false ∧ c ≠ '/')
    (plain : ∀ p ∈ settings.plugins, p.onNodes = none) (source : String) :
    ∃ (tags : List (List Char × TagSpan)) (trailing : List Char) (nodes : List Node),
      CutFirst settings.delimiters source.toList tags trailing
        ∧ Represents settings [] .free tags trailing nodes
        ∧ ((∃ before after, FirstOpen settings.delimiters trailing before after
              ∧ Traced.Leaves (parse settings source) nodes
                [openRecord settings (cutText settings.delimiters tags before).length,
                  scannedRecord settings source.toList])
            ∨ (¬ settings.delimiters.opening <:+: trailing
              ∧ Traced.Leaves (parse settings source) nodes [scannedRecord settings source.toList]))
        ∧ ∀ gap span more, (gap, span) :: more <:+ tags → ∀ t after, t <:+ gap → t ≠ [] →
            t ++ (span.text settings.delimiters ++ cutText settings.delimiters more trailing)
              = settings.delimiters.opening ++ after →
            ∃ x, (greedyHead settings.delimiters after).rest
                = x ++ (span.stop.text settings.delimiters
                  ++ cutText settings.delimiters more trailing)
              ∧ InsideStep x (span.stop.text settings.delimiters
                  ++ cutText settings.delimiters more trailing) := by
  obtain ⟨hopening, hclosing⟩ := ScanOptions.check_delimiters accepted
  have hopen : settings.delimiters.opening ≠ [] := fun h => hopening (String.toList_eq_nil_iff.mp h)
  have clear : settings.delimiters.Clear :=
    ⟨fun h => hclosing (String.toList_eq_nil_iff.mp h), closing, marks⟩
  obtain ⟨htext, hwf⟩ := scanFrom_sound hopen [] source.toList
  have hcut : CutFirst settings.delimiters source.toList
      (scanTags settings.delimiters source.toList).1 (scanTags settings.delimiters source.toList).2 :=
    scanFrom_first clear hopen [] source.toList
      fun t ht hne => absurd (List.suffix_nil.mp ht) hne
  have hleaves := parse_leaves settings source plain
  refine ⟨_, _, nodesOf settings source.toList, hcut,
    nodesFrom_represents settings _ [] .free _ hwf, ?_,
    fun gap span more hin t after => hcut.covered clear hin⟩
  rcases unterminatedAt?_eq settings source.toList htext.symm with
    ⟨before, after, hfirst, hat⟩ | ⟨hnone, hat⟩
  · rw [hat] at hleaves
    exact .inl ⟨before, after, hfirst, hleaves⟩
  · rw [hat] at hleaves
    exact .inr ⟨hnone, hleaves⟩

/-- A quote begins a run that ends behind the next tag: the delimiter in front of this tag stays, and
nothing is found behind it. -/
example :
    let settings : ScanSettings := {}
    let source := "<% ' <%= x %> '".toList
    (scanTags settings.delimiters source).1.map (fun tag => (tag.1, tag.2.body))
        = [("<% ' ".toList, ['x'])]
      ∧ unterminatedAt? settings source = none := by
  decide +kernel

end TagTemplate
