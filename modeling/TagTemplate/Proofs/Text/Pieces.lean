/-
  TagTemplate.Proofs.Text.Pieces
  ────────────────────────────────
  **WHAT STANDS BETWEEN THE LINE ENDS OF A TEXT.**

  A text may be cut into lines at one character or at many.  Once blank lines
  are dropped, it no longer matters how often a line is ended, nor that two
  characters may be one line end: the lines are the pieces between the
  characters that end lines, whatever these are.

    • `solidPieces_cut`, `solidPieces_joined` — a character that ends lines cuts
      a text in two, and blanks before it are no line,
    • `part_solidPieces` — a part without line ends is part of one line,
    • `solidPieces_more_iff` — when more characters may end lines,
    • `splitLines_pieces` — Unicode lines as such pieces,
    • `isLongestMargin_commonMargin` — the margin that several lines share.
-/
import TagTemplate.Proofs.Text.Lines

namespace TagTemplate.Text

/-! ## §1. Pieces. -/

/-- The lines of a text whose lines end at some characters: blank ones dropped, the others without
blanks at their end. -/
def solidPieces (ends : Char → Bool) (s : List Char) : List (List Char) :=
  ((s.splitOnP ends).filter (!allBlank ·)).map stripEnd

/-- A text has no character of a kind, or a first one. -/
theorem exists_first (p : Char → Bool) (s : List Char) :
    (∀ c ∈ s, p c = false)
      ∨ ∃ a c b, s = a ++ c :: b ∧ (∀ d ∈ a, p d = false) ∧ p c = true := by
  induction s with
  | nil => exact .inl (by simp)
  | cons d s ih =>
      by_cases hd : p d = true
      · exact .inr ⟨[], d, s, rfl, by simp, hd⟩
      · have hd : p d = false := Bool.eq_false_iff.mpr hd
        rcases ih with hnone | ⟨a, c, b, rfl, ha, hc⟩
        · exact .inl (List.forall_mem_cons.mpr ⟨hd, hnone⟩)
        · exact .inr ⟨d :: a, c, b, rfl, List.forall_mem_cons.mpr ⟨hd, ha⟩, hc⟩

/-- **What holds of one line, and of a text cut in two, holds of every text.** -/
theorem cutting (ends : Char → Bool) {motive : List Char → Prop}
    (one : ∀ s, (∀ c ∈ s, ends c = false) → motive s)
    (cut : ∀ a c b, (∀ d ∈ a, ends d = false) → ends c = true → motive a → motive b →
      motive (a ++ c :: b)) (s : List Char) : motive s := by
  induction hn : s.length using Nat.strongRecOn generalizing s with
  | ind n ih =>
      rcases exists_first ends s with hnone | ⟨a, c, b, rfl, ha, hc⟩
      · exact one s hnone
      · rw [List.length_append, List.length_cons] at hn
        exact cut a c b ha hc (one a ha) (ih b.length (by omega) b rfl)

section Pieces

variable {ends : Char → Bool}

/-- A text without line ends is one line. -/
theorem solidPieces_line {s : List Char} (h : ∀ c ∈ s, ends c = false) :
    solidPieces ends s = ([s].filter (!allBlank ·)).map stripEnd := by
  unfold solidPieces
  rw [List.splitOnP_eq_singleton h]

/-- The lines of a text depend on which of its own characters end lines. -/
theorem solidPieces_congr {p q : Char → Bool} {s : List Char} (h : ∀ c ∈ s, p c = q c) :
    solidPieces p s = solidPieces q s := by
  have hcut : s.splitOnP p = s.splitOnP q := by
    induction s with
    | nil => rfl
    | cons c s ih =>
        rw [List.forall_mem_cons] at h
        rw [List.splitOnP_cons_eq_if_modifyHead, List.splitOnP_cons_eq_if_modifyHead, h.1, ih h.2]
  unfold solidPieces
  rw [hcut]

/-- What is left of one line, if anything is. -/
theorem solidPieces_one {s : List Char} (h : ∀ c ∈ s, ends c = false) :
    solidPieces ends s = if allBlank s then [] else [stripEnd s] := by
  rw [solidPieces_line h]
  by_cases hblank : allBlank s = true
  · rw [if_pos hblank, List.filter_cons_of_neg (by simp [hblank])]
    rfl
  · rw [if_neg hblank, List.filter_cons_of_pos (by simp [hblank])]
    rfl

/-- **A character that ends lines cuts a text in two.** -/
theorem solidPieces_cut (s t : List Char) {c : Char} (hc : ends c = true) :
    solidPieces ends (s ++ c :: t) = solidPieces ends s ++ solidPieces ends t := by
  unfold solidPieces
  rw [List.splitOnP_append_cons s t hc, List.filter_append, List.map_append]

/-- A text of blanks has no lines. -/
theorem solidPieces_blank {s : List Char} (h : allBlank s = true) : solidPieces ends s = [] := by
  induction s using cutting ends with
  | one s hnone => rw [solidPieces_one hnone, if_pos h]
  | cut a c b _ hc iha ihb =>
      -- both sides of the line end are blank
      have hblank := allBlank_iff.mp h
      rw [List.forall_mem_append, List.forall_mem_cons] at hblank
      rw [solidPieces_cut a b hc, iha (allBlank_iff.mpr hblank.1), ihb (allBlank_iff.mpr hblank.2.2)]
      rfl

/-- Blanks before a line end are no line. -/
theorem solidPieces_joined {s : List Char} (h : allBlank s = true) (t : List Char) {c : Char}
    (hc : ends c = true) : solidPieces ends (s ++ c :: t) = solidPieces ends t := by
  rw [solidPieces_cut s t hc, solidPieces_blank h]
  rfl

/-- No line has a character that ends lines. -/
theorem not_ends_of_mem_splitOnP (s : List Char) :
    ∀ l ∈ s.splitOnP ends, ∀ c ∈ l, ends c = false := by
  induction s with
  | nil => simp
  | cons d s ih =>
      rw [List.splitOnP_cons_eq_if_modifyHead]
      split
      · simpa using ih
      next hd =>
        obtain ⟨first, more, hcut⟩ := List.exists_cons_of_ne_nil (List.splitOnP_ne_nil ends s)
        rw [hcut] at ih ⊢
        rw [List.forall_mem_cons] at ih
        rw [List.modifyHead_cons, List.forall_mem_cons, List.forall_mem_cons]
        exact ⟨⟨Bool.eq_false_iff.mpr hd, ih.1⟩, ih.2⟩

/-- A line without blanks at its end, if it is not blank, is solid. -/
theorem isSolid_stripEnd {l : List Char} (h : allBlank l = false) : IsSolid (stripEnd l) := by
  refine ⟨fun hnil => ?_, stripEnd_last l⟩
  obtain ⟨blanks, hblanks, hl⟩ := stripEnd_append l
  rw [hnil, List.nil_append] at hl
  rw [hl, hblanks] at h
  cases h

theorem solidPieces_spec (s : List Char) :
    ∀ l ∈ solidPieces ends s, IsSolid l ∧ ∀ c ∈ l, ends c = false := by
  intro l hl
  unfold solidPieces at hl
  obtain ⟨piece, hpiece, rfl⟩ := List.mem_map.mp hl
  rw [List.mem_filter] at hpiece
  have hsolid : allBlank piece = false := by simpa using hpiece.2
  exact ⟨isSolid_stripEnd hsolid, fun c hc =>
    not_ends_of_mem_splitOnP s piece hpiece.1 c (mem_of_mem_stripEnd hc)⟩

/-- A solid line with blanks behind it is one line, whether or not the blanks end lines. -/
theorem solidPieces_solid {l blanks : List Char} (hl : IsSolid l) (hin : ∀ c ∈ l, ends c = false)
    (hblanks : allBlank blanks = true) : solidPieces ends (l ++ blanks) = [l] := by
  -- the blanks up to the first of them that ends a line belong to the line
  have hone : ∀ more, allBlank more = true → (∀ c ∈ more, ends c = false) →
      solidPieces ends (l ++ more) = [l] := by
    intro more hmore hline
    have hsome : allBlank (l ++ more) = false := by
      rw [allBlank_append, hl.not_allBlank]
      rfl
    rw [solidPieces_one (List.forall_mem_append.mpr ⟨hin, hline⟩), if_neg (by simp [hsome]),
      stripEnd_append_blanks hmore hl.last]
  rcases exists_first ends blanks with hnone | ⟨a, c, b, rfl, ha, hc⟩
  · exact hone blanks hblanks hnone
  · have hall := allBlank_iff.mp hblanks
    rw [List.forall_mem_append, List.forall_mem_cons] at hall
    rw [← List.append_assoc, solidPieces_cut _ _ hc, hone a (allBlank_iff.mpr hall.1) ha,
      solidPieces_blank (allBlank_iff.mpr hall.2.2)]
    rfl

end Pieces

/-! ## §2. Parts of a text. -/

/-- A part without a character is on one side of it. -/
theorem part_cut {s x y : List Char} {c : Char} (hne : s ≠ []) (hc : c ∉ s)
    (h : s <:+: x ++ c :: y) : s <:+: x ∨ s <:+: y := by
  rcases List.infix_append_iff.mp h with h | h | ⟨front, back, rfl, hfront, hback⟩
  · exact .inl h
  · rcases List.infix_cons_iff.mp h with h | h
    · rcases List.prefix_cons_iff.mp h with rfl | ⟨more, rfl, _⟩
      · exact absurd rfl hne
      · exact absurd List.mem_cons_self hc
    · exact .inr h
  · -- on both sides it would hold the character
    rcases List.prefix_cons_iff.mp hback with rfl | ⟨more, rfl, _⟩
    · rw [List.append_nil]
      exact .inl hfront.isInfix
    · exact absurd (List.mem_append_right _ List.mem_cons_self) hc

/-- **A trimmed part of a text without line ends is part of one of its lines.** -/
theorem part_solidPieces {ends : Char → Bool} {s t : List Char} (hs : IsTrimmed s) (hne : s ≠ [])
    (hline : ∀ c ∈ s, ends c = false) (h : s <:+: t) : ∃ l ∈ solidPieces ends t, s <:+: l := by
  induction t using cutting ends with
  | one t hnone =>
      rw [solidPieces_one hnone, if_neg (by simp [allBlank_of_part hs hne h])]
      exact ⟨_, List.mem_singleton.mpr rfl, part_stripEnd hs hne h⟩
  | cut a c b _ hc iha ihb =>
      have hnot : c ∉ s := fun hmem => by
        rw [hline c hmem] at hc
        cases hc
      rw [solidPieces_cut a b hc]
      rcases part_cut hne hnot h with h | h
      · obtain ⟨l, hl, hin⟩ := iha h
        exact ⟨l, List.mem_append_left _ hl, hin⟩
      · obtain ⟨l, hl, hin⟩ := ihb h
        exact ⟨l, List.mem_append_right _ hl, hin⟩

/-! ## §3. More characters that end lines. -/

/-- **More characters may end lines exactly if none of them stands in a line.** -/
theorem solidPieces_more_iff {ends more : Char → Bool} (hmore : ∀ c, ends c = true → more c = true)
    (s : List Char) :
    solidPieces more s = solidPieces ends s ↔ ∀ l ∈ solidPieces ends s, ∀ c ∈ l, more c = false := by
  constructor
  · intro heq l hl
    rw [← heq] at hl
    exact (solidPieces_spec s l hl).2
  · intro h
    induction s using cutting ends with
    | one s hnone =>
        -- one line: the blanks behind it are all that `more` could cut
        obtain ⟨blanks, hblanks, hs⟩ := stripEnd_append s
        by_cases hblank : allBlank s = true
        · rw [solidPieces_blank hblank, solidPieces_blank hblank]
        · rw [solidPieces_one hnone, if_neg hblank] at h ⊢
          exact (congrArg (solidPieces more) hs).trans
            (solidPieces_solid (isSolid_stripEnd (Bool.eq_false_iff.mpr hblank))
              (h _ List.mem_cons_self) hblanks)
    | cut a c b _ hc iha ihb =>
        rw [solidPieces_cut a b hc] at h ⊢
        rw [List.forall_mem_append] at h
        rw [solidPieces_cut a b (hmore c hc), iha h.1, ihb h.2]

/-! ## §4. Other ways to cut a text. -/

/-- A text cut at one character. -/
theorem splitOn_eq_splitOnP (sep : Char) (s : List Char) : splitOn sep s = s.splitOnP (· == sep) := by
  induction s with
  | nil => rfl
  | cons c s ih =>
      rw [List.splitOnP_cons_eq_if_modifyHead, splitOn, ih]
      split
      · rfl
      · obtain ⟨first, more, hcut⟩ := List.exists_cons_of_ne_nil (List.splitOnP_ne_nil (· == sep) s)
        rw [hcut]
        rfl

/-- A line up to the first character that ends lines. -/
theorem splitLines_first {line t : List Char} {lines : List (List Char)}
    (hline : ∀ c ∈ line, isLineEnd c = false) (ht : splitLines t = [] :: lines) :
    splitLines (line ++ t) = line :: lines := by
  induction line with
  | nil => exact ht
  | cons c line ih =>
      rw [List.forall_mem_cons] at hline
      rw [List.cons_append, splitLines_cons hline.1, ih hline.2]
      rfl

/-- **The lines of a text are the pieces between the characters that end lines**: that a carriage
return and a newline are one line end makes no difference once blank lines are dropped. -/
theorem splitLines_pieces (s : List Char) :
    ((splitLines s).filter (!allBlank ·)).map stripEnd = solidPieces isLineEnd s := by
  induction hn : s.length using Nat.strongRecOn generalizing s with
  | ind n ih =>
      rcases exists_first isLineEnd s with hnone | ⟨a, c, b, rfl, ha, hc⟩
      · by_cases hs : s = []
        · rw [hs]
          rfl
        · rw [splitLines_inLine hs hnone, solidPieces_line hnone]
      · rw [List.length_append, List.length_cons] at hn
        -- what follows a newline behind a carriage return is shorter by two
        have hhead : ∀ t, t.length < n → solidPieces isLineEnd t = solidPieces isLineEnd b →
            splitLines (c :: b) = [] :: splitLines t →
            ((splitLines (a ++ c :: b)).filter (!allBlank ·)).map stripEnd
              = solidPieces isLineEnd (a ++ c :: b) := by
          intro t ht hsame hlines
          rw [splitLines_first ha hlines, solidPieces_cut a b hc, ← hsame, ← ih t.length ht t rfl,
            solidPieces_line ha, ← List.map_append, ← List.filter_append]
          rfl
        by_cases hpair : c = '\r' ∧ ∃ rest, b = '\n' :: rest
        · obtain ⟨rfl, rest, rfl⟩ := hpair
          rw [List.length_cons] at hn
          exact hhead rest (by omega) (solidPieces_joined (s := []) rfl rest (by decide)).symm rfl
        · refine hhead b (by omega) rfl ?_
          rw [splitLines, if_pos hc]
          rintro rest rfl rfl
          exact hpair ⟨rfl, rest, rfl⟩

/-! ## §5. The margin of several lines. -/

theorem commonStart_left : ∀ a b : List Char, commonStart a b <+: a
  | [], _ => List.prefix_refl []
  | _ :: _, [] => List.nil_prefix
  | x :: a, y :: b => by
      unfold commonStart
      split
      · exact List.cons_prefix_cons.mpr ⟨rfl, commonStart_left a b⟩
      · exact List.nil_prefix

theorem commonStart_right : ∀ a b : List Char, commonStart a b <+: b
  | [], _ => List.nil_prefix
  | _ :: _, [] => List.prefix_refl []
  | x :: a, y :: b => by
      unfold commonStart
      split
      next hxy => exact List.cons_prefix_cons.mpr ⟨beq_iff_eq.mp hxy, commonStart_right a b⟩
      next => exact List.nil_prefix

/-- Whatever both texts start with stands at the start of what they have in common. -/
theorem commonStart_greatest : ∀ {q a b : List Char}, q <+: a → q <+: b → q <+: commonStart a b
  | [], _, _, _, _ => List.nil_prefix
  | _ :: _, [], _, ha, _ => absurd (List.prefix_nil.mp ha) (List.cons_ne_nil _ _)
  | _ :: _, _ :: _, [], _, hb => absurd (List.prefix_nil.mp hb) (List.cons_ne_nil _ _)
  | z :: q, x :: a, y :: b, ha, hb => by
      rw [List.cons_prefix_cons] at ha hb
      obtain ⟨rfl, ha⟩ := ha
      obtain ⟨rfl, hb⟩ := hb
      rw [commonStart, if_pos (beq_self_eq_true z), List.cons_prefix_cons]
      exact ⟨rfl, commonStart_greatest ha hb⟩

theorem margin_isMargin (l : List Char) : IsMargin (margin l) := by
  intro c hc
  have hone := List.all_eq_true.mp List.all_takeWhile c hc
  simpa using hone

theorem IsMargin.of_start {p q : List Char} (hq : IsMargin q) (h : p <+: q) : IsMargin p :=
  fun c hc => hq c (h.subset hc)

/-- The tabs and spaces that a line starts with are part of its margin. -/
theorem IsMargin.prefix_margin {q l : List Char} (hq : IsMargin q) (h : q <+: l) : q <+: margin l := by
  obtain ⟨rest, rfl⟩ := h
  have hall : ∀ c ∈ q, (c == ' ' || c == '\t') = true := by
    intro c hc
    rcases hq c hc with rfl | rfl <;> decide
  unfold margin
  rw [List.takeWhile_append_of_pos hall]
  exact List.prefix_append _ _

/-- The longest run of tabs and spaces that several lines start with. -/
structure IsLongestMargin (p : List Char) (lines : List (List Char)) : Prop where
  /-- Nothing but tabs and spaces. -/
  isMargin : IsMargin p
  /-- Every line starts with it. -/
  common : ∀ l ∈ lines, p <+: l
  /-- Every run of tabs and spaces that all lines start with is part of it. -/
  longest : ∀ q, IsMargin q → (∀ l ∈ lines, q <+: l) → q <+: p

/-- **The margin of several lines is the longest that they have in common.** -/
theorem isLongestMargin_commonMargin {lines : List (List Char)} (h : lines ≠ []) :
    IsLongestMargin (commonMargin lines) lines := by
  induction lines with
  | nil => exact absurd rfl h
  | cons line lines ih =>
      by_cases hmore : lines = []
      · subst hmore
        refine ⟨margin_isMargin line, ?_, fun q hq hstart => ?_⟩
        · exact fun l hl => List.mem_singleton.mp hl ▸ List.takeWhile_prefix _
        · exact hq.prefix_margin (hstart line List.mem_cons_self)
      · have hrest := ih hmore
        rw [commonMargin_cons line hmore]
        refine ⟨?_, List.forall_mem_cons.mpr ⟨?_, fun l hl => ?_⟩, fun q hq hstart => ?_⟩
        · exact (margin_isMargin line).of_start (commonStart_left _ _)
        · exact (commonStart_left _ _).trans (List.takeWhile_prefix _)
        · exact (commonStart_right _ _).trans (hrest.common l hl)
        · rw [List.forall_mem_cons] at hstart
          exact commonStart_greatest (hq.prefix_margin hstart.1) (hrest.longest q hq hstart.2)

theorem commonMargin_isMargin (lines : List (List Char)) : IsMargin (commonMargin lines) := by
  by_cases h : lines = []
  · subst h
    exact fun c hc => absurd hc List.not_mem_nil
  · exact (isLongestMargin_commonMargin h).isMargin

/-- Freed of their margin, the lines are what stands behind it. -/
theorem dedent_behind_margin (lines : List (List Char)) :
    (dedent lines).map (commonMargin lines ++ ·) = lines := by
  unfold dedent
  rw [List.map_map]
  refine (List.map_congr_left fun l hl => ?_).trans (List.map_id lines)
  obtain ⟨rest, hrest⟩ := (isLongestMargin_commonMargin (List.ne_nil_of_mem hl)).common l hl
  calc commonMargin lines ++ l.drop (commonMargin lines).length
      = commonMargin lines ++ (commonMargin lines ++ rest).drop (commonMargin lines).length := by
        rw [hrest]
    _ = commonMargin lines ++ rest := by rw [List.drop_left]
    _ = l := hrest

end TagTemplate.Text
