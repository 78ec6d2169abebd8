/-
  TagTemplate.Proofs.Block.LineBreaks
  ────────────────────────────────
  **WHERE A BODY IS CUT INTO LINES.**

  The first line of a body ends at the first newline, and the lines below it
  end at every Unicode line boundary.  The interpreter that runs the body
  breaks a line at a newline, a carriage return, or both of them.  So the two
  agree on newlines, also behind carriage returns, and disagree on

      a carriage return alone     in the first line — no end for the body
      another line boundary       in a later line — an end for the body

    • `statementLines_returns` — a carriage return in front of every newline,
    • `statementLines_physical_iff` — when the two agree.
-/
import TagTemplate.Proofs.Block.BodyLines

namespace TagTemplate.Block

open Text

/-! ## §1. Lines that end in a carriage return and a newline. -/

/-- A text with a carriage return in front of every newline. -/
def withReturns (s : List Char) : List Char := s.flatMap fun c => if c == '\n' then ['\r', '\n'] else [c]

theorem withReturns_append (s t : List Char) : withReturns (s ++ t) = withReturns s ++ withReturns t :=
  List.flatMap_append

theorem withReturns_line {s : List Char} (h : '\n' ∉ s) : withReturns s = s := by
  unfold withReturns
  induction s with
  | nil => rfl
  | cons c s ih =>
      rw [List.mem_cons, not_or] at h
      rw [List.flatMap_cons, ih h.2, if_neg (by simpa using Ne.symm h.1)]
      rfl

/-- A newline with what is before and behind it. -/
theorem withReturns_cut (s t : List Char) :
    withReturns (s ++ '\n' :: t) = withReturns s ++ '\r' :: '\n' :: withReturns t :=
  withReturns_append s ('\n' :: t)

theorem allBlank_withReturns {s : List Char} (h : allBlank s = true) :
    allBlank (withReturns s) = true := by
  rw [allBlank_iff] at h ⊢
  intro c hc
  obtain ⟨d, hd, hcd⟩ := List.mem_flatMap.mp hc
  split at hcd
  · rw [List.mem_cons, List.mem_singleton] at hcd
    rcases hcd with rfl | rfl <;> decide
  · exact List.mem_singleton.mp hcd ▸ h d hd

/-- A text ends as it did. -/
theorem withReturns_getLast (s : List Char) : (withReturns s).getLast? = s.getLast? := by
  rcases List.eq_nil_or_concat s with rfl | ⟨s, c, rfl⟩
  · rfl
  · rw [List.concat_eq_append, withReturns_append, List.getLast?_append, List.getLast?_concat]
    by_cases hc : c = '\n'
    · subst hc
      rfl
    · rw [withReturns_line (by simpa using Ne.symm hc)]
      rfl

/-- Neither end of a trimmed text is a newline, so it stays trimmed. -/
theorem withReturns_trimmed {s : List Char} (h : IsTrimmed s) : IsTrimmed (withReturns s) := by
  refine ⟨fun c hc => h.head c ?_, fun c hc => h.last c ?_⟩
  · cases s with
    | nil => exact hc
    | cons d s =>
        have hd : ¬ (d == '\n') = true := by
          intro hd
          have hblank := h.head d rfl
          rw [beq_iff_eq.mp hd] at hblank
          revert hblank
          decide
        rw [withReturns, List.flatMap_cons, if_neg hd] at hc
        exact hc
  · rwa [withReturns_getLast] at hc

theorem strip_withReturns (code : List Char) :
    strip (withReturns code) = withReturns (strip code) := by
  obtain ⟨before, behind, hbefore, hbehind, hcode⟩ := strip_append code
  have htrimmed := withReturns_trimmed (strip_isTrimmed code)
  calc strip (withReturns code)
      = strip (withReturns before ++ withReturns (strip code) ++ withReturns behind) := by
        rw [← withReturns_append, ← withReturns_append, ← hcode]
    _ = withReturns (strip code) :=
        strip_between (allBlank_withReturns hbefore) htrimmed (allBlank_withReturns hbehind)

/-- The lines of a text are what they are without the carriage returns. -/
theorem solidPieces_withReturns {ends : Char → Bool} (hnewline : ends '\n' = true)
    (hreturn : ends '\r' = true) (s : List Char) :
    solidPieces ends (withReturns s) = solidPieces ends s := by
  induction s using cutting (· == '\n') with
  | one s hline =>
      rw [withReturns_line fun hmem => absurd (hline _ hmem) (by decide)]
  | cut a c b _ hc iha ihb =>
      obtain rfl : c = '\n' := beq_iff_eq.mp hc
      rw [withReturns_cut, solidPieces_cut _ _ hreturn, solidPieces_cut a b hnewline, iha, ← ihb]
      exact congrArg _ (solidPieces_joined (s := []) rfl _ hnewline)

/-- **A body has the same lines if they end in a carriage return and a newline.** -/
theorem statementLines_returns (code : List Char) :
    statementLines (withReturns code) = statementLines code := by
  rw [statementLines_eq, statementLines_eq, strip_withReturns]
  rcases cutAt_cases '\n' (strip code) with ⟨hs, hcut⟩ | ⟨first, rest, hs, hfirst, hcut⟩
  · rw [withReturns_line hs]
  · have hreturn : '\n' ∉ first ++ ['\r'] := by simpa using hfirst
    have hwhole : withReturns (strip code) = (first ++ ['\r']) ++ '\n' :: withReturns rest := by
      rw [hs, withReturns_cut, withReturns_line hfirst, List.append_assoc]
      rfl
    have hstrip : strip (first ++ ['\r']) = strip first := by
      obtain ⟨before, behind, hbefore, hbehind, hcode⟩ := strip_append first
      have hmore : allBlank (behind ++ ['\r']) = true := by
        rw [allBlank_append, hbehind]
        rfl
      conv => lhs; rw [hcode, List.append_assoc]
      exact strip_between hbefore (strip_isTrimmed first) hmore
    rw [hcut, hwhole, cutAt_behind hreturn]
    show arranged (strip (first ++ ['\r'])) _ = _
    rw [hstrip, solidPieces_withReturns (by decide) (by decide)]

/-! ## §2. Lines that end at line breaks. -/

/-- The characters that break a line: a newline, a carriage return, or both. -/
def isBreak (c : Char) : Bool := c == '\n' || c == '\r'

/-- The lines of a body whose lines end at some characters. -/
def linesEndingAt (ends : Char → Bool) (code : List Char) : List (List Char) :=
  match solidPieces ends (strip code) with
  | [] => [[]]
  | first :: tail => arranged first tail

/-- No first line has a character that ends lines. -/
theorem linesEndingAt_head (ends : Char → Bool) (code : List Char) :
    ∀ first ∈ (linesEndingAt ends code).head?, ∀ c ∈ first, ends c = false := by
  intro first hfirst
  unfold linesEndingAt at hfirst
  split at hfirst
  next => exact Option.some.inj hfirst ▸ nofun
  next line tail hlines =>
      rw [arranged_head] at hfirst
      have hmem : line ∈ solidPieces ends (strip code) := by
        rw [hlines]
        exact List.mem_cons_self
      exact Option.some.inj hfirst ▸ (solidPieces_spec _ line hmem).2

/-- The first line up to a newline is the first line if nothing in it ends lines. -/
theorem linesEndingAt_eq {ends : Char → Bool} (hnewline : ends '\n' = true) {code : List Char}
    (h : ∀ c ∈ strip (cutAt '\n' (strip code)).1, ends c = false) :
    linesEndingAt ends code
      = arranged (strip (cutAt '\n' (strip code)).1)
          (solidPieces ends (cutAt '\n' (strip code)).2) := by
  have htrimmed := strip_isTrimmed code
  unfold linesEndingAt
  rcases cutAt_cases '\n' (strip code) with ⟨_, hcut⟩ | ⟨first, rest, hs, _, hcut⟩
  · rw [hcut, strip_strip] at h ⊢
    by_cases hnil : strip code = []
    · rw [hnil]
      rfl
    · have hone : solidPieces ends (strip code ++ []) = [strip code] :=
        solidPieces_solid (htrimmed.isSolid hnil) h rfl
      rw [List.append_nil] at hone
      rw [hone]
      rfl
  · rw [hcut] at h ⊢
    -- the first line starts where the body does, so it has blanks at its end only
    have hne : first ≠ [] := by
      rintro rfl
      rw [hs] at htrimmed
      exact absurd (htrimmed.head '\n' rfl) (by decide)
    obtain ⟨c, line, rfl⟩ := List.exists_cons_of_ne_nil hne
    have hc : isBlank c = false := htrimmed.head c (by rw [hs]; rfl)
    have hstrip : strip (c :: line) = stripEnd (c :: line) := by
      rw [strip, stripStart, List.dropWhile_cons_of_neg (by simp [hc])]
    have hsolid : IsSolid (stripEnd (c :: line)) := by
      refine isSolid_stripEnd (Bool.eq_false_iff.mpr fun hall => ?_)
      rw [allBlank_iff.mp hall c List.mem_cons_self] at hc
      cases hc
    obtain ⟨blanks, hblanks, hline⟩ := stripEnd_append (c :: line)
    rw [hstrip] at h ⊢
    have hone := solidPieces_solid hsolid h hblanks
    rw [← hline] at hone
    rw [hs, solidPieces_cut _ rest hnewline, hone]
    rfl

/-- What ends lines is kept where lines are freed of their margin. -/
theorem arranged_inLine {first first' : List Char} {tail tail' : List (List Char)}
    (h : arranged first tail = arranged first' tail')
    (hin : ∀ l ∈ tail, ∀ c ∈ l, isLineEnd c = false) : ∀ l ∈ tail', ∀ c ∈ l, isLineEnd c = false := by
  obtain ⟨p, entries, hlines, rfl, _⟩ := arranged_relative first tail
  obtain ⟨p', entries', hlines', rfl, hp', _⟩ := arranged_relative first' tail'
  rw [hlines, hlines'] at h
  obtain rfl : entries = entries' := (List.cons.inj h).2
  rw [List.forall_mem_map] at hin ⊢
  intro entry hentry
  refine List.forall_mem_append.mpr ⟨fun c hc => ?_, ?_⟩
  · rcases hp' c hc with rfl | rfl <;> decide
  · exact (List.forall_mem_append.mp (hin entry hentry)).2

/-! ## §3. THE THEOREM. -/

/-- **When a body is cut at its line breaks**: exactly if its first line holds no carriage return, and
its further lines hold no other character that ends lines. -/
theorem statementLines_physical_iff (code : List Char) :
    statementLines code = linesEndingAt isBreak code
      ↔ '\r' ∉ strip (cutAt '\n' (strip code)).1
        ∧ ∀ l ∈ solidPieces isBreak (cutAt '\n' (strip code)).2, ∀ c ∈ l, isLineEnd c = false := by
  have hmore : ∀ c, isBreak c = true → isLineEnd c = true := by
    intro c hc
    rcases Bool.or_eq_true_iff.mp hc with hc | hc <;> (rw [beq_iff_eq.mp hc]; decide)
  constructor
  · intro heq
    have hhead : (linesEndingAt isBreak code).head? = some (strip (cutAt '\n' (strip code)).1) := by
      rw [← heq, statementLines_eq, arranged_head]
    have hfirst := linesEndingAt_head isBreak code _ hhead
    refine ⟨fun hmem => absurd (hfirst _ hmem) (by decide), ?_⟩
    rw [statementLines_eq, linesEndingAt_eq (by decide) hfirst] at heq
    exact arranged_inLine heq fun l hl => (solidPieces_spec _ l hl).2
  · rintro ⟨hreturn, hlines⟩
    have hfirst : ∀ c ∈ strip (cutAt '\n' (strip code)).1, isBreak c = false := by
      intro c hc
      have hnewline : (c != '\n') = true :=
        List.all_eq_true.mp List.all_takeWhile c (mem_of_mem_strip hc)
      rw [isBreak, Bool.or_eq_false_iff, beq_eq_false_iff_ne, beq_eq_false_iff_ne]
      exact ⟨bne_iff_ne.mp hnewline, fun h => hreturn (h ▸ hc)⟩
    rw [statementLines_eq, linesEndingAt_eq (by decide) hfirst,
      (solidPieces_more_iff hmore _).mpr hlines]

/-- A form feed in the first line is part of it, and one in a later line ends that line. -/
example :
    statementLines "y = 'a\x0cb'".toList = ["y = 'a\x0cb'".toList]
      ∧ statementLines "x = 1\ny = 'a\x0cb'".toList
        = ["x = 1".toList, "y = 'a".toList, "b'".toList] := by decide

end TagTemplate.Block
