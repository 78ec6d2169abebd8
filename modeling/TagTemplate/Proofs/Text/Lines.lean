/-
  TagTemplate.Proofs.Text.Lines
  ────────────────────────────────
  **TEXTS BEHIND TEXTS, LINE BY LINE.**

  Two texts one behind the other have the lines of both, with the last line
  of the first and the first line of the second in one.  The margin that
  lines have in common depends on what each of them starts with, so what is
  added behind a line does not change it.

    • `IsSolid` — a line that ends in no blank,
    • `splitLines_append` — the lines of two texts,
    • `stripStart_drop_margin` — a line without part of its margin,
    • `dedent_append_last` — lines freed of their margin, with more behind the
      last of them.
-/
import TagTemplate.Proofs.Text.Strip

namespace TagTemplate.Text

/-! ## §1. Lines that end in no blank. -/

theorem isBlank_of_isLineEnd {c : Char} (h : isLineEnd c = true) : isBlank c = true := by
  unfold isLineEnd at h
  unfold isBlank
  simp only [Bool.or_eq_true, Bool.and_eq_true, decide_eq_true_eq, beq_iff_eq] at h ⊢
  omega

/-- A line that ends in no blank, and is not empty. -/
structure IsSolid (l : List Char) : Prop where
  /-- There is something in it. -/
  ne_nil : l ≠ []
  /-- It ends in no blank. -/
  last : ∀ c ∈ l.getLast?, isBlank c = false

/-- A trimmed text with something in it is solid. -/
theorem IsTrimmed.isSolid {s : List Char} (h : IsTrimmed s) (hne : s ≠ []) : IsSolid s := ⟨hne, h.last⟩

section Solid

variable {l : List Char} (h : IsSolid l)

include h

theorem IsSolid.notLineEnd : ∀ c ∈ l.getLast?, isLineEnd c = false := by
  intro c hc
  refine Bool.eq_false_iff.mpr fun hend => ?_
  have hblank := isBlank_of_isLineEnd hend
  rw [h.last c hc] at hblank
  cases hblank

theorem IsSolid.not_allBlank : allBlank l = false := by
  refine Bool.eq_false_iff.mpr fun hall => ?_
  have hblank := allBlank_iff.mp hall _ (List.getLast_mem h.ne_nil)
  rw [h.last _ (List.getLast?_eq_some_getLast h.ne_nil)] at hblank
  cases hblank

/-- The blanks at the start of a solid line end in it. -/
theorem IsSolid.takeWhile_append {p : Char → Bool} (hp : ∀ c, p c = true → isBlank c = true)
    (z : List Char) : (l ++ z).takeWhile p = l.takeWhile p := by
  rw [List.takeWhile_append]
  split
  next hlength =>
    -- the whole line would be blank
    have hwhole : l.takeWhile p = l := (List.takeWhile_prefix p).eq_of_length hlength
    have hall : allBlank l = true := by
      rw [allBlank_iff]
      intro c hc
      rw [← hwhole] at hc
      exact hp c (List.all_eq_true.mp List.all_takeWhile c hc)
    rw [h.not_allBlank] at hall
    cases hall
  next => rfl

theorem IsSolid.stripStart_append (z : List Char) : stripStart (l ++ z) = stripStart l ++ z := by
  have hcut := h.takeWhile_append (fun _ hc => hc) z
  have hle : (l.takeWhile isBlank).length ≤ l.length := (List.takeWhile_prefix _).length_le
  rw [← drop_blanks, hcut, List.drop_append_of_le_length hle, drop_blanks]

/-- Without the blanks it starts with, a solid line is trimmed, and something is left of it. -/
theorem IsSolid.stripStart : IsSolid (stripStart l) := by
  have hcut : l.takeWhile isBlank ++ Text.stripStart l = l := List.takeWhile_append_dropWhile
  refine ⟨fun hnil => ?_, fun c hc => h.last c ?_⟩
  · have hall : allBlank l = true := by
      rw [hnil, List.append_nil] at hcut
      rw [← hcut]
      exact takeWhile_isBlank_allBlank l
    rw [h.not_allBlank] at hall
    cases hall
  · rw [← hcut, List.getLast?_append, Option.mem_def.mp hc]
    rfl

theorem IsSolid.strip_eq : strip l = Text.stripStart l := stripEnd_eq_self h.stripStart.last

theorem IsSolid.behind (s : List Char) : IsSolid (s ++ l) := by
  refine ⟨by simp [h.ne_nil], fun c hc => h.last c ?_⟩
  rw [List.getLast?_append, List.getLast?_eq_some_getLast h.ne_nil] at hc
  rw [List.getLast?_eq_some_getLast h.ne_nil]
  exact hc

end Solid

/-! ## §2. The lines of two texts. -/

/-- A line that the first of further lines goes on. -/
def glue (line : List Char) : List (List Char) → List (List Char)
  | [] => [line]
  | next :: lines => (line ++ next) :: lines

theorem glue_glue (a b : List Char) (lines : List (List Char)) :
    glue a (glue b lines) = glue (a ++ b) lines := by
  cases lines with
  | nil => rfl
  | cons line lines =>
      show (a ++ (b ++ line)) :: lines = (a ++ b ++ line) :: lines
      rw [List.append_assoc]

theorem splitLines_cons {c : Char} (hc : isLineEnd c = false) (rest : List Char) :
    splitLines (c :: rest) = glue [c] (splitLines rest) := by
  have hreturn : c ≠ '\r' := by
    rintro rfl
    revert hc
    decide
  rw [splitLines, if_neg (by simp [hc])]
  · cases splitLines rest <;> rfl
  · exact fun _ h _ => hreturn h

/-- A text without line ends is one line. -/
theorem splitLines_inLine : ∀ {s : List Char}, s ≠ [] → (∀ c ∈ s, isLineEnd c = false) →
    splitLines s = [s]
  | [], h, _ => absurd rfl h
  | [c], _, h => splitLines_cons (h c List.mem_cons_self) []
  | c :: d :: rest, _, h => by
      rw [List.forall_mem_cons] at h
      rw [splitLines_cons h.1, splitLines_inLine (List.cons_ne_nil d rest) h.2]
      rfl

/-- **The lines of two texts**, the first of which does not end where a line ends. -/
theorem splitLines_append : ∀ {s : List Char}, s ≠ [] → (∀ c ∈ s.getLast?, isLineEnd c = false) →
    ∃ init l, splitLines s = init ++ [l] ∧ l.getLast? = s.getLast?
      ∧ ∀ z, splitLines (s ++ z) = init ++ glue l (splitLines z)
  | [], hne, _ => absurd rfl hne
  | [c], _, hlast => by
      have hc : isLineEnd c = false := hlast c rfl
      exact ⟨[], [c], splitLines_cons hc [], rfl, splitLines_cons hc⟩
  | c :: d :: rest, _, hlast => by
      have hbehind : ∀ e ∈ (d :: rest).getLast?, isLineEnd e = false := by
        intro e he
        exact hlast e (by rw [List.getLast?_cons_cons]; exact he)
      obtain ⟨init, l, hlines, hl, hglue⟩ := splitLines_append (List.cons_ne_nil d rest) hbehind
      rw [List.getLast?_cons_cons]
      by_cases hc : isLineEnd c = true
      · by_cases hpair : c = '\r' ∧ d = '\n'
        · -- the two are one boundary, and the text does not end there
          obtain ⟨rfl, rfl⟩ := hpair
          have hne : rest ≠ [] := by
            rintro rfl
            exact absurd (hbehind '\n' rfl) (by decide)
          have hrest : ∀ e ∈ rest.getLast?, isLineEnd e = false := by
            intro e he
            refine hbehind e ?_
            rw [List.getLast?_cons_of_ne_nil hne]
            exact he
          obtain ⟨init, l, hlines, hl, hglue⟩ := splitLines_append hne hrest
          refine ⟨[] :: init, l, ?_, ?_, fun z => ?_⟩
          · rw [splitLines, hlines]
            rfl
          · rw [hl, List.getLast?_cons_of_ne_nil hne]
          · rw [List.cons_append, List.cons_append, splitLines, hglue z]
            rfl
        · have hbreak : ∀ more, splitLines (c :: d :: more) = [] :: splitLines (d :: more) := by
            intro more
            rw [splitLines, if_pos hc]
            rintro rest rfl h
            exact hpair ⟨rfl, (List.cons.inj h).1⟩
          refine ⟨[] :: init, l, ?_, hl, fun z => ?_⟩
          · rw [hbreak, hlines]
            rfl
          · rw [List.cons_append, List.cons_append, hbreak, ← List.cons_append, hglue z]
            rfl
      · have hc : isLineEnd c = false := Bool.eq_false_iff.mpr hc
        have hne : l ≠ [] := by
          rintro rfl
          rw [List.getLast?_nil, eq_comm, List.getLast?_eq_none_iff] at hl
          cases hl
        cases init with
        | nil =>
            refine ⟨[], c :: l, ?_, ?_, fun z => ?_⟩
            · rw [splitLines_cons hc, hlines]
              rfl
            · rw [List.getLast?_cons_of_ne_nil hne, hl]
            · rw [List.cons_append, splitLines_cons hc, hglue z]
              exact glue_glue [c] l (splitLines z)
        | cons first init =>
            refine ⟨(c :: first) :: init, l, ?_, hl, fun z => ?_⟩
            · rw [splitLines_cons hc, hlines]
              rfl
            · rw [List.cons_append, splitLines_cons hc, hglue z]
              rfl

/-- A solid text goes on in its last line, or in a further one. -/
theorem splitLines_append_inLine {s : List Char} (h : IsSolid s) :
    ∃ init l, splitLines s = init ++ [l] ∧ IsSolid l
      ∧ ∀ z, z ≠ [] → (∀ c ∈ z, isLineEnd c = false) →
        splitLines (s ++ z) = init ++ [l ++ z] ∧ splitLines (s ++ '\n' :: z) = init ++ [l, z] := by
  obtain ⟨init, l, hlines, hl, hglue⟩ := splitLines_append h.ne_nil h.notLineEnd
  have hsolid : IsSolid l := by
    refine ⟨?_, by rw [hl]; exact h.last⟩
    rintro rfl
    rw [List.getLast?_nil, eq_comm, List.getLast?_eq_none_iff] at hl
    exact h.ne_nil hl
  refine ⟨init, l, hlines, hsolid, fun z hz hline => ⟨?_, ?_⟩⟩
  · rw [hglue, splitLines_inLine hz hline]
    rfl
  · rw [hglue, show splitLines ('\n' :: z) = [] :: splitLines z from rfl, splitLines_inLine hz hline]
    show init ++ [l ++ [], z] = _
    rw [List.append_nil]

/-! ## §3. Margins. -/

/-- Nothing but spaces and tabs. -/
def IsMargin (blanks : List Char) : Prop := ∀ c ∈ blanks, c = ' ' ∨ c = '\t'

theorem isMargin_spaces (n : Nat) : IsMargin (List.replicate n ' ') := fun _ hc =>
  .inl (List.eq_of_mem_replicate hc)

section IsMargin

variable {blanks : List Char} (h : IsMargin blanks)

include h

theorem IsMargin.behind_tab : IsMargin ('\t' :: blanks) := List.forall_mem_cons.mpr ⟨.inr rfl, h⟩

theorem IsMargin.append {more : List Char} (hmore : IsMargin more) : IsMargin (blanks ++ more) :=
  List.forall_mem_append.mpr ⟨h, hmore⟩

theorem IsMargin.isBlank : ∀ c ∈ blanks, isBlank c = true := by
  intro c hc
  rcases h c hc with rfl | rfl <;> decide

end IsMargin

theorem isBlank_of_margin {c : Char} (h : (c == ' ' || c == '\t') = true) : isBlank c = true := by
  rcases Bool.or_eq_true_iff.mp h with h | h <;> (rw [beq_iff_eq.mp h]; decide)

/-- What is added behind a solid line does not change its margin. -/
theorem margin_append {l : List Char} (h : IsSolid l) (z : List Char) : margin (l ++ z) = margin l :=
  h.takeWhile_append (fun _ hc => isBlank_of_margin hc) z

theorem length_commonStart : ∀ a b : List Char, (commonStart a b).length ≤ b.length
  | [], _ => Nat.zero_le _
  | _ :: _, [] => Nat.le_refl 0
  | x :: a, y :: b => by
      unfold commonStart
      split
      · exact Nat.succ_le_succ (length_commonStart a b)
      · exact Nat.zero_le _

theorem commonMargin_cons (line : List Char) {lines : List (List Char)} (h : lines ≠ []) :
    commonMargin (line :: lines) = commonStart (margin line) (commonMargin lines) := by
  cases lines with
  | nil => exact absurd rfl h
  | cons next lines => rfl

/-- The common margin depends on the margin of the last line. -/
theorem commonMargin_last {l l' : List Char} (h : margin l' = margin l) (init : List (List Char)) :
    commonMargin (init ++ [l']) = commonMargin (init ++ [l]) := by
  induction init with
  | nil => exact h
  | cons line init ih =>
      rw [List.cons_append, List.cons_append, commonMargin_cons _ (by simp),
        commonMargin_cons _ (by simp), ih]

/-- The common margin is no longer than that of the last line. -/
theorem length_commonMargin_last (l : List Char) (init : List (List Char)) :
    (commonMargin (init ++ [l])).length ≤ (margin l).length := by
  induction init with
  | nil => exact Nat.le_refl _
  | cons line init ih =>
      rw [List.cons_append, commonMargin_cons _ (by simp)]
      exact Nat.le_trans (length_commonStart _ _) ih

theorem length_margin_le (l : List Char) : (margin l).length ≤ l.length :=
  (List.takeWhile_prefix _).length_le

/-- Part of its margin is no part of what is left of a line without its blanks. -/
theorem stripStart_drop_margin {l : List Char} {n : Nat} (h : n ≤ (margin l).length) :
    stripStart (l.drop n) = stripStart l := by
  have hcut : margin l ++ l.dropWhile (fun c => c == ' ' || c == '\t') = l :=
    List.takeWhile_append_dropWhile
  have hstart : l.take n = (margin l).take n := by
    rw [← List.take_append_of_le_length h, hcut]
  have hblank : ∀ c ∈ l.take n, isBlank c = true := by
    intro c hc
    rw [hstart] at hc
    exact isBlank_of_margin (List.all_eq_true.mp List.all_takeWhile c (List.mem_of_mem_take hc))
  have hwhole : stripStart l = stripStart (l.take n ++ l.drop n) := by rw [List.take_append_drop]
  rw [hwhole, stripStart, stripStart, List.dropWhile_append_of_pos hblank]

/-- Without part of its margin, a solid line is solid. -/
theorem IsSolid.drop_margin {l : List Char} (h : IsSolid l) {n : Nat} (hn : n ≤ (margin l).length) :
    IsSolid (l.drop n) := by
  refine ⟨fun hnil => ?_, fun c hc => h.last c ?_⟩
  · have hstrip := stripStart_drop_margin hn
    rw [hnil] at hstrip
    exact h.stripStart.ne_nil hstrip.symm
  · rw [List.getLast?_drop] at hc
    split at hc
    · cases hc
    · exact hc

/-- **Lines freed of their margin, with more behind the last**: the others are as they were, and the last
is as it was with the addition behind it. -/
theorem dedent_append_last {l : List Char} (h : IsSolid l) (init : List (List Char)) :
    ∃ init' n, n ≤ (margin l).length ∧ dedent (init ++ [l]) = init' ++ [l.drop n]
      ∧ ∀ z, dedent (init ++ [l ++ z]) = init' ++ [l.drop n ++ z] := by
  have hlength := length_commonMargin_last l init
  refine ⟨init.map (·.drop (commonMargin (init ++ [l])).length), _, hlength, ?_, fun z => ?_⟩
  · unfold dedent
    rw [List.map_append]
    rfl
  · unfold dedent
    rw [commonMargin_last (margin_append h z) init, List.map_append]
    show _ ++ [(l ++ z).drop _] = _
    rw [List.drop_append_of_le_length (Nat.le_trans hlength (length_margin_le l))]

end TagTemplate.Text
