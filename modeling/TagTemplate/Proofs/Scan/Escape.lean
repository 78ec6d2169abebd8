/-
  TagTemplate.Proofs.Scan.Escape
  ────────────────────────────────
  **A LITERAL STANDS FOR ITS TRIMMED TEXT.**

  A gap is escaped, trimmed, and then freed of line breaks.  Escaping only
  touches characters that are no blanks, so it may trade places with
  trimming (`trim_escape`), and `Literal.unescape` undoes both escapes
  (`unescape_breaks_escape`).  Together: what is kept of a gap stands for the
  trimmed gap.
-/
import TagTemplate.Scan.Parse
import TagTemplate.Proofs.Text.Strip

namespace TagTemplate

open Text

namespace Literal

/-! ## §1. Escaping one character. -/

/-- What a character becomes before trimming. -/
def escapeChar (c : Char) : List Char := if c == '\\' || c == '\'' then ['\\', c] else [c]

theorem escape_cons (c : Char) (s : List Char) : escape (c :: s) = escapeChar c ++ escape s := rfl

theorem escape_append (s t : List Char) : escape (s ++ t) = escape s ++ escape t :=
  List.flatMap_append

/-- A blank is left as it is. -/
theorem escapeChar_blank {c : Char} (h : isBlank c = true) : escapeChar c = [c] := by
  have hb : c ≠ '\\' := fun hc => absurd (hc ▸ h) (by decide)
  have hq : c ≠ '\'' := fun hc => absurd (hc ▸ h) (by decide)
  unfold escapeChar
  simp [hb, hq]

/-- What another character becomes starts with no blank and ends with that character. -/
theorem escapeChar_solid {c : Char} (h : isBlank c = false) :
    ∃ lead, escapeChar c = lead ++ [c] ∧ ∀ x ∈ (lead ++ [c]).head?, isBlank x = false := by
  unfold escapeChar
  split
  · exact ⟨['\\'], rfl, by simp; decide⟩
  · exact ⟨[], rfl, by simpa using h⟩

theorem escape_allBlank {s : List Char} (h : allBlank s = true) : escape s = s := by
  induction s with
  | nil => rfl
  | cons c s ih =>
      unfold allBlank at h ih
      rw [List.all_cons, Bool.and_eq_true] at h
      rw [escape_cons, escapeChar_blank h.1, ih h.2]
      rfl

/-- An escaped text ends as the text does. -/
theorem escape_getLast? (s : List Char) : (escape s).getLast? = s.getLast? := by
  rcases List.eq_nil_or_concat s with rfl | ⟨t, c, rfl⟩
  · rfl
  · rw [List.concat_eq_append, escape_append, List.getLast?_append, List.getLast?_append]
    show ((escapeChar c ++ []).getLast?).or _ = ([c].getLast?).or _
    unfold escapeChar
    split <;> simp

/-! ## §2. Escaping trades places with trimming. -/

theorem stripStart_escape (s : List Char) : stripStart (escape s) = escape (stripStart s) := by
  induction s with
  | nil => rfl
  | cons c s ih =>
      unfold stripStart at ih ⊢
      cases hc : isBlank c with
      | true =>
          rw [escape_cons, escapeChar_blank hc, List.singleton_append,
              List.dropWhile_cons_of_pos hc, List.dropWhile_cons_of_pos hc, ih]
      | false =>
          rw [List.dropWhile_cons_of_neg (by simp [hc]), escape_cons]
          obtain ⟨lead, heq, hhead⟩ := escapeChar_solid hc
          rw [heq]
          apply stripStart_eq_self
          intro x hx
          apply hhead x
          rw [List.head?_append] at hx
          cases lead <;> simpa using hx

theorem stripEnd_escape (s : List Char) : stripEnd (escape s) = escape (stripEnd s) := by
  obtain ⟨blanks, hb, hs⟩ := stripEnd_append s
  calc stripEnd (escape s)
      = stripEnd (escape (stripEnd s) ++ blanks) := by
          conv => lhs; rw [hs, escape_append, escape_allBlank hb]
    _ = escape (stripEnd s) := by
          refine stripEnd_append_blanks hb ?_
          rw [escape_getLast?]
          exact stripEnd_last s

theorem strip_escape (s : List Char) : strip (escape s) = escape (strip s) := by
  unfold strip
  rw [stripStart_escape, stripEnd_escape]

/-- A text that starts with no line break loses none. -/
theorem dropLeadingBreak_eq_self {s : List Char}
    (h : ∀ c ∈ s.head?, c ≠ '\n' ∧ c ≠ '\r') : dropLeadingBreak s = s := by
  unfold dropLeadingBreak
  split
  next => exact absurd rfl (h '\r' rfl).2
  next => exact absurd rfl (h '\n' rfl).1
  next => exact absurd rfl (h '\r' rfl).2
  next => rfl

/-- A return in front of anything but a newline is a break of its own. -/
theorem dropLeadingBreak_return {s : List Char} (h : ∀ c ∈ s.head?, c ≠ '\n') :
    dropLeadingBreak ('\r' :: s) = s := by
  cases s with
  | nil => rfl
  | cons c s =>
      unfold dropLeadingBreak
      split
      next heq =>
        injection heq with _ htail
        injection htail with hc _
        exact absurd hc (h c rfl)
      next heq => injection heq with hc _; exact absurd hc (by decide)
      next heq => injection heq with _ htail; exact htail.symm
      next hr => exact absurd rfl (hr (c :: s))

/-- An escaped text starts with a newline only if the text does. -/
theorem escape_head_ne_newline {s : List Char} (h : ∀ c ∈ s.head?, c ≠ '\n') :
    ∀ c ∈ (escape s).head?, c ≠ '\n' := by
  cases s with
  | nil => simp [escape]
  | cons a s =>
      rw [escape_cons]
      unfold escapeChar
      split
      · simp
      · simpa using h a rfl

theorem dropLeadingBreak_escape (s : List Char) :
    dropLeadingBreak (escape s) = escape (dropLeadingBreak s) := by
  cases s with
  | nil => rfl
  | cons c s =>
      by_cases hn : c = '\n'
      · subst hn
        rfl
      by_cases hr : c = '\r'
      · subst hr
        cases s with
        | nil => rfl
        | cons d s =>
            by_cases hd : d = '\n'
            · subst hd
              rfl
            · have hhead : ∀ x ∈ (d :: s).head?, x ≠ '\n' := by simpa using hd
              rw [dropLeadingBreak_return hhead]
              exact dropLeadingBreak_return (escape_head_ne_newline hhead)
      · rw [dropLeadingBreak_eq_self (s := c :: s) (by simp [hn, hr])]
        apply dropLeadingBreak_eq_self
        rw [escape_cons]
        unfold escapeChar
        split
        · simp
        · simp [hn, hr]

/-- A text that ends with no line break loses none. -/
theorem dropTrailingBreak_eq_self {s : List Char}
    (h : ∀ c ∈ s.getLast?, c ≠ '\n' ∧ c ≠ '\r') : dropTrailingBreak s = s := by
  rw [← List.head?_reverse] at h
  unfold dropTrailingBreak
  split
  next heq => exact absurd rfl (h '\n' (by rw [heq]; rfl)).1
  next heq => exact absurd rfl (h '\n' (by rw [heq]; rfl)).1
  next heq => exact absurd rfl (h '\r' (by rw [heq]; rfl)).2
  next => rfl

theorem dropTrailingBreak_pair (s : List Char) : dropTrailingBreak (s ++ ['\r', '\n']) = s := by
  unfold dropTrailingBreak
  rw [List.reverse_append]
  exact List.reverse_reverse s

theorem dropTrailingBreak_return (s : List Char) : dropTrailingBreak (s ++ ['\r']) = s := by
  unfold dropTrailingBreak
  rw [List.reverse_append]
  exact List.reverse_reverse s

/-- A newline behind anything but a return is a break of its own. -/
theorem dropTrailingBreak_newline {s : List Char} (h : ∀ c ∈ s.getLast?, c ≠ '\r') :
    dropTrailingBreak (s ++ ['\n']) = s := by
  unfold dropTrailingBreak
  rw [List.reverse_append, List.reverse_singleton, List.singleton_append]
  rw [← List.head?_reverse] at h
  split
  next heq =>
    injection heq with _ htail
    exact absurd rfl (h '\r' (by rw [htail]; rfl))
  next heq =>
    injection heq with _ htail
    rw [← htail, List.reverse_reverse]
  next heq => injection heq with hc _; exact absurd hc (by decide)
  next hn _ => exact absurd rfl (hn s.reverse)

theorem dropTrailingBreak_escape (s : List Char) :
    dropTrailingBreak (escape s) = escape (dropTrailingBreak s) := by
  rcases List.eq_nil_or_concat s with rfl | ⟨t, c, rfl⟩
  · rfl
  rw [List.concat_eq_append]
  by_cases hr : c = '\r'
  · subst hr
    rw [escape_append, dropTrailingBreak_return]
    exact dropTrailingBreak_return (escape t)
  by_cases hn : c = '\n'
  · subst hn
    by_cases ht : t.getLast? = some '\r'
    · obtain ⟨u, rfl⟩ := List.getLast?_eq_some_iff.mp ht
      rw [List.append_assoc, List.singleton_append, escape_append, dropTrailingBreak_pair]
      exact dropTrailingBreak_pair (escape u)
    · have hlast : ∀ x ∈ t.getLast?, x ≠ '\r' := fun x hx hxr => ht (hxr ▸ hx)
      rw [escape_append, dropTrailingBreak_newline hlast]
      apply dropTrailingBreak_newline
      rw [escape_getLast?]
      exact hlast
  · have hlast : ∀ x ∈ (t ++ [c]).getLast?, x ≠ '\n' ∧ x ≠ '\r' := by simp [hn, hr]
    rw [dropTrailingBreak_eq_self hlast]
    apply dropTrailingBreak_eq_self
    rw [escape_getLast?]
    exact hlast

/-- **Escaping trades places with trimming.** -/
theorem trim_escape (settings : ScanSettings) (start stop : Edge) (s : List Char) :
    trim settings start stop (escape s) = escape (trim settings start stop s) := by
  have hstart : ∀ (mode : TrimMode) (t : List Char),
      trimStart mode (escape t) = escape (trimStart mode t) := by
    intro mode t
    cases mode with
    | off => rfl
    | newline => exact dropLeadingBreak_escape t
    | slurp => exact stripStart_escape t
  have hstop : ∀ (mode : TrimMode) (t : List Char),
      trimEnd mode (escape t) = escape (trimEnd mode t) := by
    intro mode t
    cases mode with
    | off => rfl
    | newline => exact dropTrailingBreak_escape t
    | slurp => exact stripEnd_escape t
  unfold trim
  split
  · rfl
  · exact strip_escape s
  · rw [hstart, hstop]

/-! ## §3. Reading a literal back. -/

theorem breaks_append (s t : List Char) : breaks (s ++ t) = breaks s ++ breaks t :=
  List.flatMap_append

/-- What is no backslash is read as it is. -/
theorem unescape_cons {c : Char} (h : c ≠ '\\') (s : List Char) :
    unescape (c :: s) = c :: unescape s := by
  conv => lhs; unfold unescape
  split <;> simp_all

/-- Both escapes of one character are undone. -/
theorem unescape_breaks_escapeChar (c : Char) (s : List Char) :
    unescape (breaks (escapeChar c) ++ s) = c :: unescape s := by
  by_cases hb : c = '\\'
  · subst hb
    rfl
  by_cases hq : c = '\''
  · subst hq
    rfl
  have hesc : escapeChar c = [c] := by
    unfold escapeChar
    simp [hb, hq]
  rw [hesc]
  by_cases hn : c = '\n'
  · subst hn
    rfl
  by_cases hr : c = '\r'
  · subst hr
    rfl
  by_cases hz : c = Char.ofNat 0
  · subst hz
    rfl
  have hnat : c.toNat ≠ 0 := fun h => hz (by rw [← h, Char.ofNat_toNat])
  have hbr : breaks [c] = [c] := by
    unfold breaks
    simp [hn, hr, hnat]
  rw [hbr, List.singleton_append, unescape_cons hb]

/-- **A literal is read back as the text it was made from.** -/
theorem unescape_breaks_escape (s : List Char) : unescape (breaks (escape s)) = s := by
  induction s with
  | nil => rfl
  | cons c s ih => rw [escape_cons, breaks_append, unescape_breaks_escapeChar, ih]

end Literal

end TagTemplate
