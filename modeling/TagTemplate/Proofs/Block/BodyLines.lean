/-
  TagTemplate.Proofs.Block.BodyLines
  ────────────────────────────────
  **THE LINES OF A BODY, AND THEIR INDENTATION.**

  The first line of a body is trimmed, for it stands at the tag.  The lines
  below it keep their indentation relative to one another: what they lose is
  one margin, the same for all of them.

      strip code   =   first ↵ p l₁ ↵ p l₂ … ↵ p lₙ
      its lines    =   first,   l₁,   l₂, …,   lₙ

  The margin `p` is empty if the first line opens a block or some line starts
  at the margin, and else the longest that the lines have in common.

    • `arranged_relative` — what becomes of the lines below the first,
    • `splitOn_newline` — the lines of a text, below its first,
    • `statementLines_part` — a part without line ends is part of one line,
    • `statementLines_relative` — the lines of a body.
-/
import TagTemplate.Block.Statement
import TagTemplate.Proofs.Text.Pieces

namespace TagTemplate.Block

open Text

/-! ## §1. The lines below the first. -/

/-- The first line with the lines below it, which may be freed of the margin they have in common. -/
def arranged (first : List Char) (tail : List (List Char)) : List (List Char) :=
  if tail.isEmpty then [first]
  else if opensBlock first || tail.any atMargin then first :: tail
  else first :: dedent tail

theorem arranged_head (first : List Char) (tail : List (List Char)) :
    (arranged first tail).head? = some first := by
  unfold arranged
  split
  · rfl
  · split <;> rfl

/-- **The lines below the first lose one margin, all the same.** -/
theorem arranged_relative (first : List Char) (tail : List (List Char)) :
    ∃ p entries, arranged first tail = first :: entries ∧ tail = entries.map (p ++ ·) ∧ IsMargin p
      ∧ ((opensBlock first = true ∨ ∃ l ∈ tail, atMargin l = true) → p = [])
      ∧ (¬ (opensBlock first = true ∨ ∃ l ∈ tail, atMargin l = true) → tail ≠ [] →
          IsLongestMargin p tail) := by
  have hkept : (opensBlock first || tail.any atMargin) = true
      ↔ (opensBlock first = true ∨ ∃ l ∈ tail, atMargin l = true) := by
    rw [Bool.or_eq_true, List.any_eq_true]
  have hsame : tail = tail.map ([] ++ ·) := (List.map_id tail).symm
  unfold arranged
  split
  next hnone =>
    rw [List.isEmpty_iff] at hnone
    subst hnone
    exact ⟨[], [], rfl, rfl, by simp [IsMargin], fun _ => rfl, fun _ hsome => absurd rfl hsome⟩
  next =>
    split
    next hkeep =>
      exact ⟨[], tail, rfl, hsame, by simp [IsMargin], fun _ => rfl,
        fun hfree => absurd (hkept.mp hkeep) hfree⟩
    next hfree =>
      exact ⟨commonMargin tail, dedent tail, rfl, (dedent_behind_margin tail).symm,
        commonMargin_isMargin tail, fun hkeep => absurd (hkept.mpr hkeep) hfree,
        fun _ hsome => isLongestMargin_commonMargin hsome⟩

/-! ## §2. The text below the first line. -/

/-- The lines of a body are its first line, trimmed, and what becomes of the others. -/
theorem statementLines_eq (code : List Char) :
    statementLines code
      = arranged (strip (cutAt '\n' (strip code)).1)
          (solidPieces isLineEnd (cutAt '\n' (strip code)).2) := by
  rw [← splitLines_pieces]
  rfl

/-- The lines of a text, its first one apart, are the lines of what is below the first. -/
theorem splitOn_newline (s : List Char) :
    (splitOn '\n' s).headD [] = (cutAt '\n' s).1
      ∧ ((splitOn '\n' s).tail.filter (!allBlank ·)).map stripEnd
          = solidPieces (· == '\n') (cutAt '\n' s).2 := by
  have hin : ∀ {first : List Char}, '\n' ∉ first → ∀ c ∈ first, (c == '\n') = false := by
    intro first hfirst c hc
    rw [beq_eq_false_iff_ne]
    rintro rfl
    exact hfirst hc
  rw [splitOn_eq_splitOnP]
  rcases cutAt_cases '\n' s with ⟨hs, hcut⟩ | ⟨first, rest, rfl, hfirst, hcut⟩
  · rw [hcut, List.splitOnP_eq_singleton (hin hs)]
    exact ⟨rfl, rfl⟩
  · rw [hcut, List.splitOnP_append_cons_of_forall_mem (hin hfirst) '\n' (by decide)]
    exact ⟨rfl, rfl⟩

/-- In a trimmed text, no more characters stand below the first line than in the whole. -/
theorem mem_of_mem_below {code : List Char} {c : Char} (h : c ∈ (cutAt '\n' (strip code)).2) :
    c ∈ code := by
  have hstrip : c ∈ strip code := by
    rcases cutAt_cases '\n' (strip code) with ⟨_, hcut⟩ | ⟨first, rest, hs, _, hcut⟩
    · rw [hcut] at h
      exact absurd h List.not_mem_nil
    · rw [hcut] at h
      rw [hs]
      exact List.mem_append_right _ (List.mem_cons_of_mem _ h)
  exact mem_of_mem_strip hstrip

/-! ## §3. Parts of a body. -/

/-- **A trimmed part of a body without line ends is part of one of its lines.** -/
theorem statementLines_part {code s : List Char} (hs : IsTrimmed s) (hne : s ≠ [])
    (hline : ∀ c ∈ s, isLineEnd c = false) (h : s <:+: code) :
    ∃ l ∈ statementLines code, s <:+: l := by
  have hstrip := part_strip hs hne h
  have hnewline : '\n' ∉ s := fun hmem => by
    have hend := hline _ hmem
    revert hend
    decide
  obtain ⟨p, entries, hlines, htail, hp, _⟩ :=
    arranged_relative (strip (cutAt '\n' (strip code)).1)
      (solidPieces isLineEnd (cutAt '\n' (strip code)).2)
  rw [statementLines_eq, hlines]
  -- it is in the first line or in what is below it
  have hside : s <:+: (cutAt '\n' (strip code)).1 ∨ s <:+: (cutAt '\n' (strip code)).2 := by
    rcases cutAt_cases '\n' (strip code) with ⟨_, hcut⟩ | ⟨first, rest, heq, _, hcut⟩
    · exact .inl (by rw [hcut]; exact hstrip)
    · rw [hcut]
      exact part_cut hne hnewline (heq ▸ hstrip)
  rcases hside with hfirst | hbelow
  · exact ⟨_, List.mem_cons_self, part_strip hs hne hfirst⟩
  · obtain ⟨l, hl, hin⟩ := part_solidPieces hs hne hline hbelow
    rw [htail] at hl
    obtain ⟨entry, hentry, rfl⟩ := List.mem_map.mp hl
    exact ⟨entry, List.mem_cons_of_mem _ hentry,
      part_behind_blanks (allBlank_iff.mpr hp.isBlank) hne hs.head hin⟩

/-- A body that is not blank has a first line that is not empty. -/
theorem statementLines_first {code : List Char} (h : allBlank code = false) :
    (statementLines code).headD [] ≠ [] := by
  have hhead : (statementLines code).headD [] = strip (cutAt '\n' (strip code)).1 := by
    rw [statementLines_eq, List.headD_eq_head?_getD, arranged_head]
    rfl
  have hcode : strip code ≠ [] := fun hnil => by
    rw [strip_eq_nil_iff.mp hnil] at h
    cases h
  obtain ⟨c, more, hstrip⟩ := List.exists_cons_of_ne_nil hcode
  have hc : isBlank c = false := (strip_isTrimmed code).head c (by rw [hstrip]; rfl)
  -- a trimmed text does not start with a line end
  have hmem : c ∈ (cutAt '\n' (c :: more)).1 := by
    have hne : (c != '\n') = true := by
      rw [bne_iff_ne]
      rintro rfl
      revert hc
      decide
    unfold cutAt
    rw [List.takeWhile_cons, if_pos hne]
    exact List.mem_cons_self
  rw [hhead, hstrip, ne_eq, strip_eq_nil_iff, allBlank_iff]
  intro hall
  rw [hall c hmem] at hc
  cases hc

/-! ## §4. Lines with blanks at their end. -/

/-- The blanks at its end say nothing about where a line starts. -/
theorem atMargin_stripEnd {l : List Char} (h : allBlank l = false) :
    atMargin (stripEnd l) = atMargin l := by
  have hsolid := isSolid_stripEnd h
  obtain ⟨blanks, _, hl⟩ := stripEnd_append l
  obtain ⟨c, rest, hstart⟩ := List.exists_cons_of_ne_nil hsolid.ne_nil
  rw [hstart] at hl ⊢
  rw [hl]
  rfl

/-- The blanks at their ends are no part of the margin of several lines. -/
theorem isLongestMargin_stripEnd {p : List Char} {lines : List (List Char)}
    (h : ∀ l ∈ lines, allBlank l = false) (hp : IsLongestMargin p (lines.map stripEnd)) :
    IsLongestMargin p lines := by
  refine ⟨hp.isMargin, fun l hl => ?_, fun q hq hstart => hp.longest q hq ?_⟩
  · obtain ⟨blanks, _, hline⟩ := stripEnd_append l
    have hstart : stripEnd l <+: l := ⟨blanks, hline.symm⟩
    exact (hp.common _ (List.mem_map_of_mem hl)).trans hstart
  · rw [List.forall_mem_map]
    intro l hl
    obtain ⟨blanks, _, hline⟩ := stripEnd_append l
    -- the run ends before the last character of the line that is no blank
    have hmargin : q <+: margin l := hq.prefix_margin (hstart l hl)
    rw [hline, margin_append (isSolid_stripEnd (h l hl)) blanks] at hmargin
    exact hmargin.trans (List.takeWhile_prefix _)

/-! ## §5. THE THEOREM. -/

/-- **The lines of a body keep their indentation relative to one another.**  In a text whose lines end
in newlines only, the first line is trimmed, and every further line that is not blank is one entry: the
blanks at its end are dropped, and at its start one margin, the same for all lines. -/
theorem statementLines_relative (code : List Char)
    (hends : ∀ c ∈ code, isLineEnd c = true → c = '\n') :
    let lines := splitOn '\n' (strip code)
    let first := strip (lines.headD [])
    let tail := lines.tail.filter (!allBlank ·)
    ∃ p entries, statementLines code = first :: entries
      ∧ tail.map stripEnd = entries.map (p ++ ·)
      ∧ IsMargin p
      ∧ ((opensBlock first = true ∨ ∃ l ∈ tail, atMargin l = true) → p = [])
      ∧ (¬ (opensBlock first = true ∨ ∃ l ∈ tail, atMargin l = true) → tail ≠ [] →
          IsLongestMargin p tail) := by
  intro lines first tail
  obtain ⟨hhead, htail⟩ := splitOn_newline (strip code)
  have hblank : ∀ l ∈ tail, allBlank l = false := by
    intro l hl
    simpa using (List.mem_filter.mp hl).2
  -- below the first line, the newlines are all that ends lines
  have hbelow : solidPieces isLineEnd (cutAt '\n' (strip code)).2 = tail.map stripEnd := by
    rw [solidPieces_congr fun c hc => ?_]
    · exact htail.symm
    · rw [Bool.eq_iff_iff, beq_iff_eq]
      exact ⟨hends c (mem_of_mem_below hc), fun h => by rw [h]; decide⟩
  have hstart : (∃ l ∈ tail.map stripEnd, atMargin l = true) ↔ ∃ l ∈ tail, atMargin l = true := by
    constructor
    · rintro ⟨_, hmem, hmargin⟩
      obtain ⟨l, hl, rfl⟩ := List.mem_map.mp hmem
      exact ⟨l, hl, by rwa [atMargin_stripEnd (hblank l hl)] at hmargin⟩
    · rintro ⟨l, hl, hmargin⟩
      exact ⟨_, List.mem_map_of_mem hl, by rwa [atMargin_stripEnd (hblank l hl)]⟩
  obtain ⟨p, entries, hlines, hentries, hp, hkept, hfree⟩ :=
    arranged_relative first (tail.map stripEnd)
  rw [hstart] at hkept hfree
  refine ⟨p, entries, ?_, hentries, hp, hkept, fun hno hsome => ?_⟩
  · rw [statementLines_eq, hbelow, ← hhead]
    exact hlines
  · exact isLongestMargin_stripEnd hblank (hfree hno (by simpa using hsome))

/-- Two lines below the first, with one margin in common, at which neither of them stands. -/
theorem statementLines_relative_indented :
    let code := "a = 1\n    if a:\n        b = 2".toList
    (∀ c ∈ code, isLineEnd c = true → c = '\n')
      ∧ ∃ p entries, statementLines code = "a = 1".toList :: entries
          ∧ ["    if a:".toList, "        b = 2".toList] = entries.map (p ++ ·)
          ∧ IsLongestMargin p ["    if a:".toList, "        b = 2".toList] := by
  intro code
  have hall : code.all (fun c => !isLineEnd c || c == '\n') = true := by decide
  have hends : ∀ c ∈ code, isLineEnd c = true → c = '\n' := by
    intro c hc hend
    simpa [hend] using List.all_eq_true.mp hall c hc
  obtain ⟨p, entries, hlines, hentries, _, _, hfree⟩ := statementLines_relative code hends
  exact ⟨hends, p, entries, hlines, hentries, hfree (by decide) (by decide)⟩

end TagTemplate.Block
