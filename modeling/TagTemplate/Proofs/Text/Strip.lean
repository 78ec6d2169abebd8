/-
  TagTemplate.Proofs.Text.Strip
  ────────────────────────────────
  **TRIMMED TEXTS AND BEGINNINGS OF TEXTS.**

  A text is trimmed when it neither starts nor ends with a blank.  `strip`
  yields trimmed texts and leaves them as they are, so trimming twice is
  trimming once.  `dropStart?` and `startsWith` are stated through `++`;
  nothing beyond this module unfolds them.
-/
import TagTemplate.Text.Lines

namespace TagTemplate.Text

/-! ## §1. Trimmed texts. -/

theorem allBlank_iff {s : List Char} : allBlank s = true ↔ ∀ c ∈ s, isBlank c = true :=
  List.all_eq_true

theorem allBlank_append (s t : List Char) : allBlank (s ++ t) = (allBlank s && allBlank t) :=
  List.all_append

/-- A text that neither starts nor ends with a blank. -/
structure IsTrimmed (s : List Char) : Prop where
  /-- The first character is no blank. -/
  head : ∀ c ∈ s.head?, isBlank c = false
  /-- The last character is no blank. -/
  last : ∀ c ∈ s.getLast?, isBlank c = false

theorem IsTrimmed.nil : IsTrimmed [] := ⟨by simp, by simp⟩

/-- The end of a text ends as the whole text does. -/
theorem last_of_append {s t : List Char} (h : ∀ c ∈ (s ++ t).getLast?, isBlank c = false) :
    ∀ c ∈ t.getLast?, isBlank c = false := by
  intro c hc
  apply h c
  rw [List.getLast?_append, Option.mem_def.mp hc]
  rfl

theorem stripStart_head (s : List Char) : ∀ c ∈ (stripStart s).head?, isBlank c = false := by
  intro c hc
  have h := List.head?_dropWhile_not isBlank s
  rw [show s.dropWhile isBlank = stripStart s from rfl, Option.mem_def.mp hc] at h
  exact h

theorem stripEnd_last (s : List Char) : ∀ c ∈ (stripEnd s).getLast?, isBlank c = false := by
  intro c hc
  unfold stripEnd at hc
  rw [List.getLast?_reverse] at hc
  exact stripStart_head s.reverse c hc

theorem stripStart_eq_self {s : List Char} (h : ∀ c ∈ s.head?, isBlank c = false) :
    stripStart s = s := by
  cases s with
  | nil => rfl
  | cons a r => exact List.dropWhile_cons_of_neg (by simp [h a rfl])

theorem stripEnd_eq_self {s : List Char} (h : ∀ c ∈ s.getLast?, isBlank c = false) :
    stripEnd s = s := by
  unfold stripEnd
  rw [show s.reverse.dropWhile isBlank = stripStart s.reverse from rfl,
      stripStart_eq_self (by rw [List.head?_reverse]; exact h), List.reverse_reverse]

/-- Trimming the end leaves a first character that is no blank. -/
theorem stripEnd_cons {a : Char} (ha : isBlank a = false) (r : List Char) :
    stripEnd (a :: r) = a :: stripEnd r := by
  unfold stripEnd
  rw [List.reverse_cons, List.dropWhile_append]
  split
  next hr =>
    rw [List.isEmpty_iff.mp hr]
    simp [ha]
  next hr => simp

/-- Only blanks are trimmed at the end. -/
theorem stripEnd_append (s : List Char) :
    ∃ blanks, allBlank blanks = true ∧ s = stripEnd s ++ blanks := by
  refine ⟨(s.reverse.takeWhile isBlank).reverse, ?_, ?_⟩
  · unfold allBlank
    rw [List.all_reverse]
    exact List.all_takeWhile
  · unfold stripEnd
    rw [← List.reverse_append, List.takeWhile_append_dropWhile, List.reverse_reverse]

/-- Blanks at the end are trimmed. -/
theorem stripEnd_append_blanks {s blanks : List Char} (hb : allBlank blanks = true)
    (hs : ∀ c ∈ s.getLast?, isBlank c = false) : stripEnd (s ++ blanks) = s := by
  have hr : ∀ c ∈ blanks.reverse, isBlank c = true :=
    fun c hc => allBlank_iff.mp hb c (List.mem_reverse.mp hc)
  unfold stripEnd
  rw [List.reverse_append, List.dropWhile_append_of_pos hr]
  exact stripEnd_eq_self hs

theorem mem_of_mem_stripEnd {s : List Char} {c : Char} (h : c ∈ stripEnd s) : c ∈ s := by
  obtain ⟨blanks, _, hs⟩ := stripEnd_append s
  rw [hs]
  exact List.mem_append_left _ h

theorem mem_of_mem_strip {s : List Char} {c : Char} (h : c ∈ strip s) : c ∈ s :=
  (List.dropWhile_suffix isBlank).subset (mem_of_mem_stripEnd h)

/-- Of blanks nothing is left. -/
theorem stripStart_allBlank {s : List Char} (h : allBlank s = true) : stripStart s = [] := by
  have hdrop : stripStart (s ++ []) = stripStart [] :=
    List.dropWhile_append_of_pos (allBlank_iff.mp h)
  rwa [List.append_nil] at hdrop

theorem stripEnd_allBlank {s : List Char} (h : allBlank s = true) : stripEnd s = [] :=
  stripEnd_append_blanks (s := []) h nofun

theorem strip_isTrimmed (s : List Char) : IsTrimmed (strip s) := by
  refine ⟨?_, stripEnd_last (stripStart s)⟩
  unfold strip
  have hs := stripStart_head s
  cases hcut : stripStart s with
  | nil => simp [stripEnd]
  | cons a r =>
      rw [hcut] at hs
      rw [stripEnd_cons (hs a rfl)]
      simpa using hs a rfl

theorem strip_eq_self {s : List Char} (h : IsTrimmed s) : strip s = s := by
  unfold strip
  rw [stripStart_eq_self h.head, stripEnd_eq_self h.last]

/-- Trimming twice is trimming once. -/
theorem strip_strip (s : List Char) : strip (strip s) = strip s :=
  strip_eq_self (strip_isTrimmed s)

/-- Every text is its trimmed text between blanks. -/
theorem strip_append (s : List Char) :
    ∃ before behind, allBlank before = true ∧ allBlank behind = true
      ∧ s = before ++ strip s ++ behind := by
  obtain ⟨behind, hbehind, hend⟩ := stripEnd_append (stripStart s)
  have hstart : s.takeWhile isBlank ++ stripStart s = s := List.takeWhile_append_dropWhile
  refine ⟨s.takeWhile isBlank, behind, List.all_takeWhile, hbehind, ?_⟩
  rw [List.append_assoc, strip, ← hend]
  exact hstart.symm

/-- Blanks around a trimmed text are trimmed. -/
theorem strip_between {before s behind : List Char} (hbefore : allBlank before = true)
    (hs : IsTrimmed s) (hbehind : allBlank behind = true) : strip (before ++ s ++ behind) = s := by
  unfold strip stripStart
  rw [List.append_assoc, List.dropWhile_append_of_pos (allBlank_iff.mp hbefore)]
  cases s with
  | nil => rw [List.nil_append, ← stripStart, stripStart_allBlank hbehind, stripEnd_allBlank rfl]
  | cons c s =>
      rw [List.cons_append, List.dropWhile_cons_of_neg (by simp [hs.head c rfl]), ← List.cons_append,
        stripEnd_append_blanks hbehind hs.last]

/-- Nothing is left of blanks, and of them only. -/
theorem strip_eq_nil_iff {s : List Char} : strip s = [] ↔ allBlank s = true := by
  constructor
  · intro h
    obtain ⟨before, behind, hbefore, hbehind, hs⟩ := strip_append s
    rw [hs, h, List.append_nil, allBlank_append, hbefore, hbehind]
    rfl
  · intro h
    rw [strip, stripStart_allBlank h, stripEnd_allBlank rfl]

/-! ## §2. Beginnings. -/

theorem dropStart?_eq_some_iff :
    ∀ {p s r : List Char}, dropStart? p s = some r ↔ s = p ++ r
  | [], s, r => by simp [dropStart?]
  | a :: p, [], r => by simp [dropStart?]
  | a :: p, c :: s, r => by
      unfold dropStart?
      split
      next hac =>
        rw [dropStart?_eq_some_iff]
        simp [beq_iff_eq.mp hac]
      next hac =>
        have hne : c ≠ a := fun h => hac (by simp [h])
        simp [hne]

theorem dropStart?_append (p r : List Char) : dropStart? p (p ++ r) = some r :=
  dropStart?_eq_some_iff.mpr rfl

theorem startsWith_iff {p s : List Char} : startsWith p s = true ↔ ∃ r, s = p ++ r := by
  unfold startsWith
  rw [Option.isSome_iff_exists]
  simp only [dropStart?_eq_some_iff]

theorem startsWith_append (p r : List Char) : startsWith p (p ++ r) = true :=
  startsWith_iff.mpr ⟨r, rfl⟩

/-! ## §3. Texts cut at a character. -/

section Cut

variable {sep : Char} {s : List Char}

theorem bne_of_not_mem (h : sep ∉ s) : ∀ c ∈ s, (c != sep) = true := by
  intro c hc
  rw [bne_iff_ne]
  rintro rfl
  exact h hc

/-- A text without the character is all in front of it. -/
theorem cutAt_whole (h : sep ∉ s) : cutAt sep s = (s, []) := by
  have hin := bne_of_not_mem h
  have htake : (s ++ []).takeWhile (· != sep) = s ++ [] := List.takeWhile_append_of_pos hin
  have hdrop : (s ++ []).dropWhile (· != sep) = [] := List.dropWhile_append_of_pos hin
  rw [List.append_nil] at htake hdrop
  unfold cutAt
  rw [htake, hdrop]
  rfl

/-- A text is cut where the character stands first. -/
theorem cutAt_behind (h : sep ∉ s) (rest : List Char) : cutAt sep (s ++ sep :: rest) = (s, rest) := by
  have hin := bne_of_not_mem h
  unfold cutAt
  rw [List.takeWhile_append_of_pos hin, List.dropWhile_append_of_pos hin,
    List.takeWhile_cons_of_neg (by simp), List.dropWhile_cons_of_neg (by simp), List.append_nil]
  rfl

/-- A text without the character, or one with something in front of it and behind it. -/
theorem cutAt_cases (sep : Char) (s : List Char) :
    (sep ∉ s ∧ cutAt sep s = (s, []))
      ∨ ∃ first rest, s = first ++ sep :: rest ∧ sep ∉ first ∧ cutAt sep s = (first, rest) := by
  by_cases hs : sep ∈ s
  · obtain ⟨first, rest, rfl, hfirst⟩ := List.eq_append_cons_of_mem hs
    exact .inr ⟨first, rest, rfl, hfirst, cutAt_behind hfirst rest⟩
  · exact .inl ⟨hs, cutAt_whole hs⟩

end Cut

/-! ## §4. Blanks at the start. -/

theorem takeWhile_isBlank_allBlank (s : List Char) : allBlank (s.takeWhile isBlank) = true :=
  List.all_takeWhile

/-- Part of a run of blanks is a run of blanks. -/
theorem allBlank_take {s : List Char} (h : allBlank s = true) (k : Nat) :
    allBlank (s.take k) = true :=
  allBlank_iff.mpr fun c hc => allBlank_iff.mp h c (List.mem_of_mem_take hc)

/-- The blanks at the start of a text end where the first other character stands. -/
theorem takeWhile_append_blanks {blanks s : List Char} (hb : allBlank blanks = true)
    (hs : ∀ c ∈ s.head?, isBlank c = false) : (blanks ++ s).takeWhile isBlank = blanks := by
  rw [List.takeWhile_append_of_pos (allBlank_iff.mp hb)]
  cases s with
  | nil => simp
  | cons c s => rw [List.takeWhile_cons_of_neg (by simp [hs c rfl]), List.append_nil]

theorem drop_blanks (s : List Char) : s.drop (s.takeWhile isBlank).length = stripStart s := by
  have hcut : s.takeWhile isBlank ++ stripStart s = s := List.takeWhile_append_dropWhile
  calc s.drop (s.takeWhile isBlank).length
      = (s.takeWhile isBlank ++ stripStart s).drop (s.takeWhile isBlank).length := by rw [hcut]
    _ = stripStart s := List.drop_left

/-- Behind some of the blanks at the start of a text stands one more blank. -/
theorem drop_blank {s : List Char} {k : Nat} (hk : k < (s.takeWhile isBlank).length) :
    ∃ c, isBlank c = true ∧ s.drop k = c :: s.drop (k + 1) := by
  have hcut : s.takeWhile isBlank ++ stripStart s = s := List.takeWhile_append_dropWhile
  have hlen : k < s.length := by
    have := congrArg List.length hcut
    rw [List.length_append] at this
    omega
  refine ⟨s[k], ?_, List.drop_eq_getElem_cons hlen⟩
  have hget : s[k] = (s.takeWhile isBlank)[k] := ((List.takeWhile_prefix isBlank).getElem hk).symm
  rw [hget]
  exact allBlank_iff.mp (takeWhile_isBlank_allBlank s) _ (List.getElem_mem hk)

/-! ## §5. Texts with blanks around them. -/

section Infix

variable {s t blanks : List Char}

/-- What starts with no blank does not reach into blanks before it. -/
theorem part_behind_blanks (hb : allBlank blanks = true) (hne : s ≠ [])
    (hs : ∀ c ∈ s.head?, isBlank c = false) (h : s <:+: blanks ++ t) : s <:+: t := by
  obtain ⟨c, more, rfl⟩ := List.exists_cons_of_ne_nil hne
  have hc : c ∉ blanks := fun hmem => by
    have hblank := allBlank_iff.mp hb c hmem
    rw [hs c rfl] at hblank
    cases hblank
  rcases List.infix_append_iff.mp h with h | h | ⟨front, back, heq, hfront, hback⟩
  · exact absurd (h.subset List.mem_cons_self) hc
  · exact h
  · -- the part of it among the blanks is empty
    cases front with
    | nil => exact heq ▸ hback.isInfix
    | cons d front =>
        obtain ⟨rfl, _⟩ := List.cons.inj heq
        exact absurd (hfront.subset List.mem_cons_self) hc

/-- What ends in no blank does not reach into blanks behind it. -/
theorem part_before_blanks (hb : allBlank blanks = true) (hne : s ≠ [])
    (hs : ∀ c ∈ s.getLast?, isBlank c = false) (h : s <:+: t ++ blanks) : s <:+: t := by
  rw [← List.reverse_infix, List.reverse_append] at h
  rw [← List.reverse_infix]
  refine part_behind_blanks ?_ (by simpa using hne) (by rw [List.head?_reverse]; exact hs) h
  rw [allBlank, List.all_reverse]
  exact hb

/-- A trimmed part of a text is part of the trimmed text. -/
theorem part_strip (hs : IsTrimmed s) (hne : s ≠ []) (h : s <:+: t) : s <:+: strip t := by
  obtain ⟨before, behind, hbefore, hbehind, ht⟩ := strip_append t
  rw [ht] at h
  exact part_behind_blanks hbefore hne hs.head (part_before_blanks hbehind hne hs.last h)

theorem part_stripEnd (hs : IsTrimmed s) (hne : s ≠ []) (h : s <:+: t) : s <:+: stripEnd t := by
  obtain ⟨blanks, hblanks, ht⟩ := stripEnd_append t
  rw [ht] at h
  exact part_before_blanks hblanks hne hs.last h

/-- A text with a part that is not blank is not blank. -/
theorem allBlank_of_part (hs : IsTrimmed s) (hne : s ≠ []) (h : s <:+: t) : allBlank t = false := by
  refine Bool.eq_false_iff.mpr fun hblank => hne ?_
  have hall := part_stripEnd hs hne h
  rwa [stripEnd_allBlank hblank, List.infix_nil] at hall

end Infix

end TagTemplate.Text
