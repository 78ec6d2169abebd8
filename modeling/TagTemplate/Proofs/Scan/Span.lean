/-
  TagTemplate.Proofs.Scan.Span
  ────────────────────────────────
  **EVERY TAG THAT IS FOUND IS A TAG.**

  The scanner's functions are sound, from the inside out:

    • `tagEnd?_sound` — what is read as the end of a tag is one,
    • `bodyEnd?_sound` — the body and the end stand in the text, and the body
      ends with no blank,
    • `bodyEnd?_head` — the body starts with no blank: blanks before it are
      given back only if the tag ends within them,
    • `tagAt?_sound` — a tag is well formed and stands in the text,
    • `scanFrom_sound` — gaps and tags are the text again.
-/
import TagTemplate.Proofs.Scan.Step

namespace TagTemplate

open Text

deriving instance DecidableEq for TagSpan

/-! ## §1. The end of a tag. -/

/-- What is read as the end of a tag. -/
structure TagEnd.WellFormed (stop : TagEnd) : Prop where
  /-- There are blanks. -/
  blanks : allBlank stop.blanks = true
  /-- There may be a marker. -/
  marker : ∀ c ∈ stop.marker, isMarker c = true

/-- The text of the end of a tag. -/
def TagEnd.text (d : Delimiters) (stop : TagEnd) : List Char :=
  stop.blanks ++ stop.marker.toList ++ d.closing

theorem endMarker?_sound {d : Delimiters} {s : List Char} {marker : Option Char}
    (h : endMarker? d s = some marker) :
    (∀ c ∈ marker, isMarker c = true) ∧ ∃ rest, s = marker.toList ++ d.closing ++ rest := by
  have hplain : (if startsWith d.closing s then some none else none) = some marker →
      (∀ c ∈ marker, isMarker c = true) ∧ ∃ rest, s = marker.toList ++ d.closing ++ rest := by
    intro h
    split at h
    next hs =>
      injection h with h
      subst h
      obtain ⟨rest, hrest⟩ := startsWith_iff.mp hs
      exact ⟨by simp, rest, hrest⟩
    next => exact absurd h (by simp)
  unfold endMarker? at h
  split at h
  next c t =>
    split at h
    next hc =>
      injection h with h
      subst h
      rw [Bool.and_eq_true] at hc
      obtain ⟨rest, rfl⟩ := startsWith_iff.mp hc.2
      exact ⟨fun x hx => (Option.mem_some.mp hx) ▸ hc.1, rest, rfl⟩
    next => exact hplain h
  next => exact hplain h

theorem endBehind?_sound {d : Delimiters} {s : List Char} {stop : TagEnd} :
    ∀ {k : Nat}, k ≤ (s.takeWhile isBlank).length → endBehind? d s k = some stop →
      stop.WellFormed ∧ ∃ rest, s = stop.text d ++ rest
  | 0, _, h => by
      unfold endBehind? at h
      obtain ⟨marker, hm, rfl⟩ := Option.map_eq_some_iff.mp h
      obtain ⟨hmark, rest, hrest⟩ := endMarker?_sound hm
      exact ⟨⟨rfl, hmark⟩, rest, hrest⟩
  | k + 1, hk, h => by
      unfold endBehind? at h
      split at h
      next marker hm =>
        injection h with h
        subst h
        obtain ⟨hmark, rest, hrest⟩ := endMarker?_sound hm
        refine ⟨⟨?_, hmark⟩, rest, ?_⟩
        · show allBlank (s.take (k + 1)) = true
          rw [← List.takeWhile_append_dropWhile (p := isBlank) (l := s),
              List.take_append_of_le_length hk]
          exact allBlank_take (takeWhile_isBlank_allBlank s) (k + 1)
        · show s = s.take (k + 1) ++ marker.toList ++ d.closing ++ rest
          rw [List.append_assoc, List.append_assoc, ← List.append_assoc marker.toList, ← hrest,
              List.take_append_drop]
      next => exact endBehind?_sound (by omega) h

/-- **What is read as the end of a tag is one.** -/
theorem tagEnd?_sound {d : Delimiters} {s : List Char} {stop : TagEnd}
    (h : tagEnd? d s = some stop) : stop.WellFormed ∧ ∃ rest, s = stop.text d ++ rest :=
  endBehind?_sound (Nat.le_refl _) h

theorem endBehind?_eq_none_iff {d : Delimiters} {s : List Char} :
    ∀ {k : Nat}, endBehind? d s k = none ↔ ∀ i ≤ k, endMarker? d (s.drop i) = none
  | 0 => by
      unfold endBehind?
      simp
  | k + 1 => by
      unfold endBehind?
      split
      next marker hm =>
        refine ⟨fun h => absurd h (by simp), fun h => ?_⟩
        rw [h (k + 1) (Nat.le_refl _)] at hm
        exact absurd hm (by simp)
      next hm =>
        -- the most blanks have failed, so only fewer are left to try
        rw [endBehind?_eq_none_iff]
        refine ⟨fun h i hi => ?_, fun h i hi => h i (by omega)⟩
        by_cases hik : i = k + 1
        · exact hik ▸ hm
        · exact h i (by omega)

/-- Blanks belong to the end of a tag: if it cannot be read in front of one, it cannot be read
behind it. -/
theorem tagEnd?_eq_none_of_blank {d : Delimiters} {c : Char} {s : List Char}
    (hc : isBlank c = true) (h : tagEnd? d (c :: s) = none) : tagEnd? d s = none := by
  unfold tagEnd? at h ⊢
  rw [endBehind?_eq_none_iff] at h ⊢
  intro i hi
  have := h (i + 1) (by rw [List.takeWhile_cons_of_pos hc, List.length_cons]; omega)
  rwa [List.drop_succ_cons] at this

/-! ## §2. The body. -/

/-- One step on: the tag does not end here. -/
theorem bodyEnd?_cons {d : Delimiters} {c : Char} {s : List Char}
    (h : tagEnd? d (c :: s) = none) :
    bodyEnd? d (c :: s) = (bodyEnd? d (s.drop (stepTail c s))).map
      fun found => (c :: s.take (stepTail c s) ++ found.1, found.2) := by
  conv => lhs; unfold bodyEnd?
  rw [h]

theorem bodyEnd?_of_tagEnd? {d : Delimiters} {s : List Char} {stop : TagEnd}
    (h : tagEnd? d s = some stop) : bodyEnd? d s = some ([], stop) := by
  unfold bodyEnd?
  rw [h]

/-- An empty body is one behind which the tag ends at once. -/
theorem tagEnd?_of_bodyEnd?_nil {d : Delimiters} {s : List Char} {stop : TagEnd}
    (h : bodyEnd? d s = some ([], stop)) : tagEnd? d s = some stop := by
  cases hend : tagEnd? d s with
  | some found =>
      rw [bodyEnd?_of_tagEnd? hend] at h
      simpa using h
  | none =>
      cases s with
      | nil =>
          unfold bodyEnd? at h
          rw [hend] at h
          exact absurd h (by simp)
      | cons c s =>
          rw [bodyEnd?_cons hend, Option.map_eq_some_iff] at h
          obtain ⟨_, _, heq⟩ := h
          exact absurd (Prod.mk.inj heq).1 (by simp)

/-- **The body and the end of a tag stand in the text, and the body ends with no blank.** -/
theorem bodyEnd?_sound (d : Delimiters) (s : List Char) :
    ∀ body stop, bodyEnd? d s = some (body, stop) →
      stop.WellFormed ∧ (∃ rest, s = body ++ stop.text d ++ rest)
        ∧ ∀ c ∈ body.getLast?, isBlank c = false := by
  fun_induction bodyEnd? d s with
  | case1 s found hend =>
      intro body stop h
      injection h with h
      obtain ⟨rfl, rfl⟩ := Prod.mk.inj h
      obtain ⟨hwf, rest, hrest⟩ := tagEnd?_sound hend
      exact ⟨hwf, ⟨rest, hrest⟩, by simp⟩
  | case2 => intro body stop h; exact absurd h (by simp)
  | case3 c s n hend ih =>
      intro body stop h
      obtain ⟨⟨more, stop'⟩, hmore, heq⟩ := Option.map_eq_some_iff.mp h
      obtain ⟨rfl, rfl⟩ := Prod.mk.inj heq
      obtain ⟨hwf, ⟨rest, hrest⟩, hlast⟩ := ih more stop' hmore
      refine ⟨hwf, ⟨rest, ?_⟩, ?_⟩
      · rw [List.append_assoc, List.append_assoc, ← List.append_assoc more, ← hrest,
            List.cons_append, List.take_append_drop]
      · intro x hx
        rw [List.getLast?_append] at hx
        cases hm : more.getLast? with
        | some y =>
            rw [hm, Option.some_or] at hx
            exact hlast x (hm ▸ hx)
        | none =>
            rw [hm, Option.none_or, List.getLast?_cons] at hx
            cases ht : (s.take n).getLast? with
            | some y =>
                rw [ht, Option.getD_some] at hx
                exact (stepTail_last c s).2 x (ht ▸ hx)
            | none =>
                -- the last step is the single character `c`; were it a blank, the tag would have
                -- ended before it
                rw [ht, Option.getD_none] at hx
                injection hx with hx
                subst hx
                cases hc : isBlank c with
                | false => rfl
                | true =>
                    have hn : n = 0 := stepTail_blank hc s
                    have hnil : more = [] := List.getLast?_eq_none_iff.mp hm
                    rw [hnil, hn, List.drop_zero] at hmore
                    have hend' := tagEnd?_of_bodyEnd?_nil hmore
                    rw [tagEnd?_eq_none_of_blank hc hend] at hend'
                    exact absurd hend' (by simp)

/-- **A body that is read behind as many blanks as possible starts with no blank**: if it is read
behind fewer, the tag ends within the blanks and the body is empty. -/
theorem bodyEnd?_head {d : Delimiters} {s : List Char} {k : Nat} {body : List Char}
    {stop : TagEnd} (hk : k ≤ (s.takeWhile isBlank).length)
    (h : bodyEnd? d (s.drop k) = some (body, stop))
    (hgreedy : ∀ j, k < j → j ≤ (s.takeWhile isBlank).length → bodyEnd? d (s.drop j) = none) :
    ∀ c ∈ body.head?, isBlank c = false := by
  by_cases hlt : k < (s.takeWhile isBlank).length
  · obtain ⟨b, hb, hdrop⟩ := drop_blank hlt
    rw [hdrop] at h
    cases hend : tagEnd? d (b :: s.drop (k + 1)) with
    | some found =>
        rw [bodyEnd?_of_tagEnd? hend] at h
        injection h with h
        rw [← (Prod.mk.inj h).1]
        simp
    | none =>
        -- the blank would be a step, and the body be found behind one blank more
        rw [bodyEnd?_cons hend, stepTail_blank hb, List.drop_zero,
            hgreedy (k + 1) (by omega) (by omega)] at h
        exact absurd h (by simp)
  · have hk' : k = (s.takeWhile isBlank).length := by omega
    rw [hk', drop_blanks] at h
    obtain ⟨_, ⟨rest, hrest⟩, _⟩ := bodyEnd?_sound d _ body stop h
    intro c hc
    apply stripStart_head s c
    rw [hrest, List.append_assoc, List.head?_append, Option.mem_def.mp hc]
    rfl

/-! ## §3. The head of a tag. -/

/-- The first success of a countdown: everything above it fails. -/
theorem findSome?_countdown {α β : Type} {g : Nat → α} {f : α → Option β} {x : β} :
    ∀ {n : Nat}, ((List.range (n + 1)).reverse.map g).findSome? f = some x →
      ∃ k ≤ n, f (g k) = some x ∧ ∀ j, k < j → j ≤ n → f (g j) = none
  | 0, h => by
      refine ⟨0, Nat.le_refl _, ?_, fun j h1 h2 => absurd h1 (by omega)⟩
      rw [List.range_one, List.reverse_singleton, List.map_singleton, List.findSome?_singleton] at h
      exact h
  | n + 1, h => by
      rw [List.range_succ, List.reverse_append, List.reverse_singleton, List.singleton_append,
          List.map_cons, List.findSome?_cons] at h
      split at h
      next y hy =>
        injection h with h
        exact ⟨n + 1, Nat.le_refl _, h ▸ hy, fun j h1 h2 => absurd h1 (by omega)⟩
      next hnone =>
        obtain ⟨k, hk, hx, habove⟩ := findSome?_countdown h
        refine ⟨k, by omega, hx, fun j h1 h2 => ?_⟩
        by_cases hj : j = n + 1
        · exact hj ▸ hnone
        · exact habove j h1 (by omega)

/-- The parts of a tag are what they should be. -/
structure TagSpan.WellFormed (d : Delimiters) (t : TagSpan) : Prop where
  /-- The left trim marker is one. -/
  left : ∀ c ∈ t.left, isMarker c = true
  /-- Blanks follow. -/
  lead : allBlank t.lead = true
  /-- The prefix character is a configured one. -/
  mark : ∀ c ∈ t.mark, c ∈ d.marks
  /-- Blanks follow. -/
  gap : allBlank t.gap = true
  /-- The body neither starts nor ends with a blank. -/
  body : IsTrimmed t.body
  /-- Blanks follow. -/
  tail : allBlank t.tail = true
  /-- The right trim marker is one. -/
  right : ∀ c ∈ t.right, isMarker c = true

/-- A way to read the head of a tag that is completed, after the greedier ones were not: `t` is the
text in front of which blanks are given back. -/
theorem countdown_sound {d : Delimiters} {g : Nat → TagHead} {t : List Char} {span : TagSpan}
    (hrest : ∀ k, (g k).rest = t.drop k)
    (h : ((List.range ((t.takeWhile isBlank).length + 1)).reverse.map g).findSome?
      (·.complete? d) = some span) :
    ∃ k ≤ (t.takeWhile isBlank).length, ∃ (stop : TagEnd) (rest : List Char),
      span.left = (g k).marker ∧ span.lead = (g k).lead ∧ span.mark = (g k).mark
        ∧ span.gap = (g k).gap ∧ span.tail = stop.blanks ∧ span.right = stop.marker
        ∧ stop.WellFormed ∧ IsTrimmed span.body ∧ t.drop k = span.body ++ stop.text d ++ rest := by
  obtain ⟨k, hk, hspan, habove⟩ := findSome?_countdown h
  unfold TagHead.complete? at hspan habove
  rw [hrest] at hspan
  obtain ⟨⟨body, stop⟩, hbody, rfl⟩ := Option.map_eq_some_iff.mp hspan
  obtain ⟨hwf, ⟨rest, htext⟩, hlast⟩ := bodyEnd?_sound d _ body stop hbody
  have hhead : ∀ c ∈ body.head?, isBlank c = false := by
    refine bodyEnd?_head hk hbody fun j h1 h2 => ?_
    have := habove j h1 h2
    rw [hrest] at this
    exact Option.map_eq_none_iff.mp this
  exact ⟨k, hk, stop, rest, rfl, rfl, rfl, rfl, rfl, rfl, hwf, ⟨hhead, hlast⟩, htext⟩

/-- Some of the blanks at the start of a text are its first characters. -/
theorem take_blanks {s : List Char} {k : Nat} (hk : k ≤ (s.takeWhile isBlank).length) :
    (s.takeWhile isBlank).take k = s.take k := by
  conv => rhs; rw [← List.takeWhile_append_dropWhile (p := isBlank) (l := s)]
  rw [List.take_append_of_le_length hk]

theorem headsAfter_sound {d : Delimiters} {marker : Option Char} {s : List Char} {span : TagSpan}
    (hmarker : ∀ c ∈ marker, isMarker c = true)
    (h : (headsAfter d marker s).findSome? (·.complete? d) = some span) :
    span.WellFormed d ∧ ∃ rest, d.opening ++ marker.toList ++ s = span.text d ++ rest := by
  unfold headsAfter at h
  rw [List.findSome?_append, Option.or_eq_some_iff] at h
  rcases h with h | ⟨_, h⟩
  · -- with a prefix character
    split at h
    next c t hafter =>
      split at h
      next hc =>
        obtain ⟨k, hk, stop, rest, hl, hle, hm, hg, ht, hr, hwf, hbody, htext⟩ :=
          countdown_sound (g := fun k => ⟨marker, s.takeWhile isBlank, some c,
            (t.takeWhile isBlank).take k, t.drop k⟩) (fun _ => rfl) h
        refine ⟨⟨hl ▸ hmarker, hle ▸ takeWhile_isBlank_allBlank s, ?_,
          hg ▸ allBlank_take (takeWhile_isBlank_allBlank t) k, hbody, ht ▸ hwf.blanks,
          hr ▸ hwf.marker⟩, rest, ?_⟩
        · rw [hm]
          intro x hx
          exact Option.mem_some.mp hx ▸ List.contains_iff_mem.mp hc
        · have hs : s = s.takeWhile isBlank ++ (c :: (t.take k ++ t.drop k)) := by
            rw [List.take_append_drop, ← hafter, drop_blanks]
            exact List.takeWhile_append_dropWhile.symm
          unfold TagSpan.text
          rw [hl, hle, hm, hg, ht, hr]
          conv => lhs; rw [hs, htext]
          simp [TagEnd.text, take_blanks hk]
      next => exact absurd h (by simp)
    next => exact absurd h (by simp)
  · -- without one
    obtain ⟨k, hk, stop, rest, hl, hle, hm, hg, ht, hr, hwf, hbody, htext⟩ :=
      countdown_sound (g := fun k => ⟨marker, (s.takeWhile isBlank).take k, none, [], s.drop k⟩)
        (fun _ => rfl) h
    refine ⟨⟨hl ▸ hmarker, hle ▸ allBlank_take (takeWhile_isBlank_allBlank s) k,
      by simp [hm], by simp [hg, allBlank], hbody, ht ▸ hwf.blanks, hr ▸ hwf.marker⟩, rest, ?_⟩
    unfold TagSpan.text
    rw [hl, hle, hm, hg, ht, hr]
    conv => lhs; rw [← List.take_append_drop k s, htext]
    simp [TagEnd.text, take_blanks hk]

/-! ## §4. Tags and gaps. -/

/-- **A tag that is found is well formed and stands in the text.** -/
theorem tagAt?_sound {d : Delimiters} {s : List Char} {span : TagSpan}
    (h : tagAt? d s = some span) : span.WellFormed d ∧ ∃ rest, s = span.text d ++ rest := by
  unfold tagAt? at h
  split at h
  next after hopen =>
    rw [dropStart?_eq_some_iff.mp hopen]
    unfold heads at h
    split at h
    next c t =>
      split at h
      next hc =>
        rw [List.findSome?_append, Option.or_eq_some_iff] at h
        rcases h with h | ⟨_, h⟩
        · have := headsAfter_sound (fun x hx => Option.mem_some.mp hx ▸ hc) h
          simpa using this
        · simpa using headsAfter_sound (by simp) h
      next => simpa using headsAfter_sound (by simp) h
    next => simpa using headsAfter_sound (by simp) h
  next => exact absurd h (by simp)

theorem TagSpan.text_ne_nil {d : Delimiters} (span : TagSpan) (hopen : d.opening ≠ []) :
    span.text d ≠ [] := by
  unfold TagSpan.text
  simp [hopen]

/-- Behind a text that is not empty the scan goes on with the rest. -/
theorem drop_text_length {c : Char} {s text rest : List Char} (hne : text ≠ [])
    (h : c :: s = text ++ rest) : s.drop (text.length - 1) = rest := by
  cases text with
  | nil => exact absurd rfl hne
  | cons a t =>
      rw [(List.cons.inj h).2]
      exact List.drop_left

/-- The text of gaps, each followed by a tag, and of what stands behind the last tag. -/
def cutText (d : Delimiters) (tags : List (List Char × TagSpan)) (trailing : List Char) :
    List Char :=
  tags.flatMap (fun t => t.1 ++ t.2.text d) ++ trailing

theorem cutText_cons (d : Delimiters) (gap : List Char) (span : TagSpan)
    (tags : List (List Char × TagSpan)) (trailing : List Char) :
    cutText d ((gap, span) :: tags) trailing
      = gap ++ span.text d ++ cutText d tags trailing := by
  unfold cutText
  rw [List.flatMap_cons, List.append_assoc]

/-- **Gaps and tags are the text again, and every tag is well formed.** -/
theorem scanFrom_sound {d : Delimiters} (hopen : d.opening ≠ []) (gap s : List Char) :
    cutText d (scanFrom d gap s).1 (scanFrom d gap s).2 = gap.reverse ++ s
      ∧ ∀ t ∈ (scanFrom d gap s).1, t.2.WellFormed d := by
  fun_induction scanFrom d gap s with
  | case1 gap => exact ⟨by simp [cutText], by simp⟩
  | case2 gap c s span hspan more ih =>
      obtain ⟨hwf, rest, htext⟩ := tagAt?_sound hspan
      obtain ⟨ih1, ih2⟩ := ih
      refine ⟨?_, ?_⟩
      · rw [cutText_cons, ih1, htext, drop_text_length (span.text_ne_nil hopen) htext]
        simp
      · intro t ht
        rcases List.mem_cons.mp ht with rfl | ht
        · exact hwf
        · exact ih2 t ht
  | case3 gap c s hnone ih =>
      -- the character goes from the text to the gap
      obtain ⟨ih1, ih2⟩ := ih
      exact ⟨by rw [ih1]; simp, ih2⟩

end TagTemplate
