/-
  TagTemplate.Proofs.Scan.Edges
  ────────────────────────────────
  **WHAT THE EDGES OF A LITERAL LOSE.**

  Each edge of a literal takes from its end of the text what its mode allows:
  nothing, one line break, or all blanks.  `LostAtStart` and `LostAtEnd` say
  what is taken and what is left, without the functions that take it.

    • `trimStart_eq_iff`, `trimEnd_eq_iff` — the functions take exactly that,
    • `trimStart_trimEnd` — it does not matter which edge comes first.

  The second holds where something is left between the edges, because then
  neither of them sees what the other one takes.  Where nothing is left the
  text was blank, and both edges may want the same break; one of them gets it.
-/
import TagTemplate.Proofs.Scan.Escape

namespace TagTemplate

open Text

/-! ## §1. What is lost. -/

/-- What a mode takes from the start of a text, and what is left of it. -/
inductive LostAtStart : TrimMode → List Char → List Char → Prop where
  /-- Nothing. -/
  | off {rest : List Char} : LostAtStart .off [] rest
  /-- A return and a newline are one break. -/
  | pair {rest : List Char} : LostAtStart .newline ['\r', '\n'] rest
  /-- A newline is one. -/
  | newline {rest : List Char} : LostAtStart .newline ['\n'] rest
  /-- A return in front of no newline is one. -/
  | carriage {rest : List Char} (h : ∀ c ∈ rest.head?, c ≠ '\n') :
      LostAtStart .newline ['\r'] rest
  /-- There is no break to take. -/
  | unbroken {rest : List Char} (h : ∀ c ∈ rest.head?, c ≠ '\n' ∧ c ≠ '\r') :
      LostAtStart .newline [] rest
  /-- All blanks. -/
  | slurp {blanks rest : List Char} (hblanks : allBlank blanks = true)
      (h : ∀ c ∈ rest.head?, isBlank c = false) : LostAtStart .slurp blanks rest

/-- What is left of a text, and what a mode takes from its end. -/
inductive LostAtEnd : TrimMode → List Char → List Char → Prop where
  /-- Nothing. -/
  | off {rest : List Char} : LostAtEnd .off rest []
  /-- A return and a newline are one break. -/
  | pair {rest : List Char} : LostAtEnd .newline rest ['\r', '\n']
  /-- A newline behind no return is one. -/
  | newline {rest : List Char} (h : ∀ c ∈ rest.getLast?, c ≠ '\r') :
      LostAtEnd .newline rest ['\n']
  /-- A return is one. -/
  | carriage {rest : List Char} : LostAtEnd .newline rest ['\r']
  /-- There is no break to take. -/
  | unbroken {rest : List Char} (h : ∀ c ∈ rest.getLast?, c ≠ '\n' ∧ c ≠ '\r') :
      LostAtEnd .newline rest []
  /-- All blanks. -/
  | slurp {blanks rest : List Char} (hblanks : allBlank blanks = true)
      (h : ∀ c ∈ rest.getLast?, isBlank c = false) : LostAtEnd .slurp rest blanks

section Lost

variable {mode : TrimMode} {lost rest : List Char}

/-- Only blanks are lost. -/
theorem LostAtStart.allBlank (h : LostAtStart mode lost rest) : allBlank lost = true := by
  cases h with
  | slurp hblanks _ => exact hblanks
  | _ => decide

theorem LostAtEnd.allBlank (h : LostAtEnd mode rest lost) : allBlank lost = true := by
  cases h with
  | slurp hblanks _ => exact hblanks
  | _ => decide

/-- What is lost at the start does not depend on the end, as long as something is left. -/
theorem LostAtStart.of_append {more : List Char} (hne : rest ≠ [])
    (h : LostAtStart mode lost (rest ++ more)) : LostAtStart mode lost rest := by
  have hhead : (rest ++ more).head? = rest.head? := by
    obtain ⟨c, t, rfl⟩ := List.exists_cons_of_ne_nil hne
    rfl
  cases h with
  | off => exact .off
  | pair => exact .pair
  | newline => exact .newline
  | carriage h => exact .carriage (hhead ▸ h)
  | unbroken h => exact .unbroken (hhead ▸ h)
  | slurp hblanks h => exact .slurp hblanks (hhead ▸ h)

/-- What is lost at the end does not depend on the start, as long as something is left. -/
theorem LostAtEnd.append_left {more : List Char} (hne : rest ≠ [])
    (h : LostAtEnd mode rest lost) : LostAtEnd mode (more ++ rest) lost := by
  have hlast : (more ++ rest).getLast? = rest.getLast? := by
    rw [List.getLast?_append, List.getLast?_eq_some_getLast hne]
    rfl
  cases h with
  | off => exact .off
  | pair => exact .pair
  | newline h => exact .newline (hlast.symm ▸ h)
  | carriage => exact .carriage
  | unbroken h => exact .unbroken (hlast.symm ▸ h)
  | slurp hblanks h => exact .slurp hblanks (hlast.symm ▸ h)

end Lost

/-! ## §2. One edge. -/

/-- Every text starts with something that is lost, be it nothing. -/
theorem exists_lostAtStart (mode : TrimMode) (s : List Char) :
    ∃ lost rest, s = lost ++ rest ∧ LostAtStart mode lost rest := by
  cases mode with
  | off => exact ⟨[], s, rfl, .off⟩
  | slurp =>
      exact ⟨s.takeWhile isBlank, stripStart s, List.takeWhile_append_dropWhile.symm,
        .slurp (takeWhile_isBlank_allBlank s) (stripStart_head s)⟩
  | newline =>
      cases s with
      | nil => exact ⟨[], [], rfl, .unbroken (by simp)⟩
      | cons c t =>
          by_cases hn : c = '\n'
          · subst hn
            exact ⟨['\n'], t, rfl, .newline⟩
          by_cases hr : c = '\r'
          · subst hr
            -- a newline behind the return belongs to the break
            by_cases ht : t.head? = some '\n'
            · obtain ⟨u, rfl⟩ := List.head?_eq_some_iff.mp ht
              exact ⟨['\r', '\n'], u, rfl, .pair⟩
            · exact ⟨['\r'], t, rfl, .carriage fun x hx hxn => ht (hxn ▸ hx)⟩
          · exact ⟨[], c :: t, rfl, .unbroken (by simp [hn, hr])⟩

theorem exists_lostAtEnd (mode : TrimMode) (s : List Char) :
    ∃ rest lost, s = rest ++ lost ∧ LostAtEnd mode rest lost := by
  cases mode with
  | off => exact ⟨s, [], (List.append_nil s).symm, .off⟩
  | slurp =>
      obtain ⟨blanks, hblanks, hs⟩ := stripEnd_append s
      exact ⟨stripEnd s, blanks, hs, .slurp hblanks (stripEnd_last s)⟩
  | newline =>
      rcases List.eq_nil_or_concat s with rfl | ⟨t, c, rfl⟩
      · exact ⟨[], [], rfl, .unbroken (by simp)⟩
      rw [List.concat_eq_append]
      by_cases hr : c = '\r'
      · subst hr
        exact ⟨t, ['\r'], rfl, .carriage⟩
      by_cases hn : c = '\n'
      · subst hn
        -- a return in front of the newline belongs to the break
        by_cases ht : t.getLast? = some '\r'
        · obtain ⟨u, rfl⟩ := List.getLast?_eq_some_iff.mp ht
          exact ⟨u, ['\r', '\n'], List.append_assoc _ _ _, .pair⟩
        · exact ⟨t, ['\n'], rfl, .newline fun x hx hxr => ht (hxr ▸ hx)⟩
      · exact ⟨t ++ [c], [], (List.append_nil _).symm, .unbroken (by simp [hn, hr])⟩

/-- What is lost at the start is trimmed there. -/
theorem LostAtStart.trimStart {mode : TrimMode} {lost rest : List Char}
    (h : LostAtStart mode lost rest) : trimStart mode (lost ++ rest) = rest := by
  cases h with
  | off => rfl
  | pair => rfl
  | newline => rfl
  | carriage h => exact Literal.dropLeadingBreak_return h
  | unbroken h => exact Literal.dropLeadingBreak_eq_self h
  | slurp hblanks h =>
      show (lost ++ rest).dropWhile isBlank = rest
      rw [List.dropWhile_append_of_pos (allBlank_iff.mp hblanks)]
      exact stripStart_eq_self h

/-- What is lost at the end is trimmed there. -/
theorem LostAtEnd.trimEnd {mode : TrimMode} {lost rest : List Char}
    (h : LostAtEnd mode rest lost) : trimEnd mode (rest ++ lost) = rest := by
  cases h with
  | off => exact List.append_nil rest
  | pair => exact Literal.dropTrailingBreak_pair rest
  | newline h => exact Literal.dropTrailingBreak_newline h
  | carriage => exact Literal.dropTrailingBreak_return rest
  | unbroken h =>
      rw [List.append_nil]
      exact Literal.dropTrailingBreak_eq_self h
  | slurp hblanks h => exact stripEnd_append_blanks hblanks h

/-- **Trimming the start takes what its mode allows.** -/
theorem trimStart_eq_iff {mode : TrimMode} {s r : List Char} :
    trimStart mode s = r ↔ ∃ lost, s = lost ++ r ∧ LostAtStart mode lost r := by
  constructor
  · rintro rfl
    obtain ⟨lost, rest, rfl, hlost⟩ := exists_lostAtStart mode s
    exact ⟨lost, by rw [hlost.trimStart], by rwa [hlost.trimStart]⟩
  · rintro ⟨lost, rfl, hlost⟩
    exact hlost.trimStart

/-- **Trimming the end takes what its mode allows.** -/
theorem trimEnd_eq_iff {mode : TrimMode} {s r : List Char} :
    trimEnd mode s = r ↔ ∃ lost, s = r ++ lost ∧ LostAtEnd mode r lost := by
  constructor
  · rintro rfl
    obtain ⟨rest, lost, rfl, hlost⟩ := exists_lostAtEnd mode s
    exact ⟨lost, by rw [hlost.trimEnd], by rwa [hlost.trimEnd]⟩
  · rintro ⟨lost, rfl, hlost⟩
    exact hlost.trimEnd

/-! ## §3. Both edges. -/

/-- Where both edges together take everything, they do so in either order. -/
theorem trimStart_trimEnd_nil {before behind : TrimMode} {lost lost' : List Char}
    (hstart : LostAtStart before lost lost') (hend : LostAtEnd behind [] lost') :
    trimStart before (trimEnd behind (lost ++ lost')) = [] := by
  have hblank : allBlank (lost ++ lost') = true := by
    rw [allBlank_append, hstart.allBlank, hend.allBlank]
    rfl
  cases before with
  | off =>
      -- the start takes nothing, so the end takes everything
      cases hstart
      exact hend.trimEnd
  | slurp =>
      obtain ⟨more, htext, _⟩ := trimEnd_eq_iff.mp (Eq.refl (trimEnd behind (lost ++ lost')))
      have hleft : allBlank (trimEnd behind (lost ++ lost')) = true := by
        rw [htext, allBlank_append, Bool.and_eq_true] at hblank
        exact hblank.1
      exact stripStart_allBlank hleft
  | newline =>
      cases behind with
      | off =>
          cases hend
          rw [show trimEnd .off (lost ++ []) = lost ++ [] from rfl]
          exact hstart.trimStart
      | slurp =>
          rw [show trimEnd .slurp (lost ++ lost') = [] from stripEnd_allBlank hblank]
          rfl
      | newline =>
          cases hstart with
          | pair => cases hend <;> rfl
          | newline => cases hend <;> rfl
          | carriage h =>
              -- a newline behind the return would belong to its break
              cases hend with
              | newline _ => exact absurd rfl (h '\n' rfl)
              | _ => rfl
          | unbroken h =>
              -- a break that the end takes would have been the start's
              cases hend with
              | unbroken _ => rfl
              | newline _ => exact absurd rfl (h '\n' rfl).1
              | _ => exact absurd rfl (h '\r' rfl).2

/-- **It does not matter which edge is trimmed first.** -/
theorem trimStart_trimEnd (before behind : TrimMode) (s : List Char) :
    trimStart before (trimEnd behind s) = trimEnd behind (trimStart before s) := by
  obtain ⟨lost, hs, hstart⟩ := trimStart_eq_iff.mp (Eq.refl (trimStart before s))
  generalize trimStart before s = rest at hs hstart ⊢
  obtain ⟨lost', hrest, hend⟩ := trimEnd_eq_iff.mp (Eq.refl (trimEnd behind rest))
  generalize trimEnd behind rest = r at hrest hend ⊢
  subst hrest hs
  by_cases hne : r = []
  · subst hne
    exact trimStart_trimEnd_nil hstart hend
  · -- with something left between them, neither edge sees what the other one takes
    rw [← List.append_assoc, (hend.append_left hne).trimEnd]
    exact (hstart.of_append hne).trimStart

/-- Trimming a literal is trimming its edges, also where both slurp or both do nothing. -/
theorem trim_eq (settings : ScanSettings) (start stop : Edge) (s : List Char) :
    trim settings start stop s
      = trimEnd (stop.mode settings.trimBefore) (trimStart (start.mode settings.trimAfter) s) := by
  unfold trim
  split
  next hstart hstop => rw [hstart, hstop]; rfl
  next hstart hstop => rw [hstart, hstop]; rfl
  next => rfl

/-! ## §4. THE THEOREM. -/

/-- **EACH EDGE LOSES WHAT ITS MODE ALLOWS, AND THE EDGES DO NOT INTERFERE**: for all settings, edges
and texts, a literal is its text trimmed at one edge and then at the other, in either order.  In either
order the text is what is left between two runs of blanks, and each of these is what its edge takes of
the text that it finds: nothing, one break if there is one, or all blanks. -/
theorem trim_edges (settings : ScanSettings) (start stop : Edge) (s : List Char) :
    let before := start.mode settings.trimAfter
    let behind := stop.mode settings.trimBefore
    let r := trim settings start stop s
    r = trimEnd behind (trimStart before s) ∧ r = trimStart before (trimEnd behind s)
      ∧ (∃ a b, s = a ++ (r ++ b) ∧ allBlank a = true ∧ allBlank b = true
          ∧ LostAtStart before a (r ++ b) ∧ LostAtEnd behind r b)
      ∧ ∃ a b, s = a ++ r ++ b ∧ allBlank a = true ∧ allBlank b = true
          ∧ LostAtEnd behind (a ++ r) b ∧ LostAtStart before a r := by
  intro before behind r
  have hstartFirst : r = trimEnd behind (trimStart before s) := trim_eq settings start stop s
  have hendFirst : r = trimStart before (trimEnd behind s) :=
    hstartFirst.trans (trimStart_trimEnd before behind s).symm
  refine ⟨hstartFirst, hendFirst, ?_, ?_⟩
  · obtain ⟨a, hs, ha⟩ := trimStart_eq_iff.mp (Eq.refl (trimStart before s))
    obtain ⟨b, hrest, hb⟩ := trimEnd_eq_iff.mp hstartFirst.symm
    rw [hrest] at hs ha
    exact ⟨a, b, hs, ha.allBlank, hb.allBlank, ha, hb⟩
  · obtain ⟨b, hs, hb⟩ := trimEnd_eq_iff.mp (Eq.refl (trimEnd behind s))
    obtain ⟨a, hrest, ha⟩ := trimStart_eq_iff.mp hendFirst.symm
    rw [hrest] at hs hb
    exact ⟨a, b, hs, ha.allBlank, hb.allBlank, hb, ha⟩

/-- A break that both edges want, and one behind it that only the end can take. -/
example :
    trim { trimBefore := .newline, trimAfter := .newline } .plain .plain ['\r', '\n'] = []
      ∧ trim { trimBefore := .newline, trimAfter := .newline } .plain .plain ['\r', '\n', '\n'] = [] := by
  decide

end TagTemplate
