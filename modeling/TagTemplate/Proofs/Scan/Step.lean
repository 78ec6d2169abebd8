/-
  TagTemplate.Proofs.Scan.Step
  ────────────────────────────────
  **THE STEPS OF A BODY AS A GRAMMAR.**

  A quoted run and a comment are described by what they consist of
  (`RunRest`, `CommentRest`); `runLength` and `commentLength` find exactly
  these.  A step of a body is one character together with the rest of the run
  or comment that it opens (`stepTail`).
-/
import TagTemplate.Scan.Tag
import TagTemplate.Proofs.Text.Strip

namespace TagTemplate

open Text

/-! ## §1. Quoted runs. -/

/-- A quotation mark of any of the three kinds. -/
def isQuote (c : Char) : Bool := c == '\'' || c == '"' || c == backquote

/-- A quoted run behind its opening quote, up to the closing one. -/
inductive RunRest (quote : Char) : List Char → Prop where
  /-- The closing quote. -/
  | close : RunRest quote [quote]
  /-- A backslash with the character behind it. -/
  | escaped {c : Char} {s : List Char} (hc : isEscapable c = true) (hs : RunRest quote s) :
      RunRest quote ('\\' :: c :: s)
  /-- Any other character. -/
  | char {c : Char} {s : List Char} (hc : isRunChar quote c = true) (hs : RunRest quote s) :
      RunRest quote (c :: s)

theorem isQuote_cases {q : Char} (h : isQuote q = true) :
    q = '\'' ∨ q = '"' ∨ q = backquote := by
  unfold isQuote at h
  simpa [or_assoc] using h

theorem isMarker_cases {c : Char} (h : isMarker c = true) : c = '-' ∨ c = '_' := by
  unfold isMarker at h
  simpa using h

theorem isQuote_ne_backslash {q : Char} (h : isQuote q = true) : q ≠ '\\' := by
  rcases isQuote_cases h with rfl | rfl | rfl <;> decide

theorem isQuote_not_blank {q : Char} (h : isQuote q = true) : isBlank q = false := by
  rcases isQuote_cases h with rfl | rfl | rfl <;> decide

theorem isRunChar_ne {quote c : Char} (h : isRunChar quote c = true) : c ≠ quote ∧ c ≠ '\\' := by
  unfold isRunChar at h
  simp only [Bool.and_eq_true, bne_iff_ne] at h
  exact h.1

/-- A run ends with its quote. -/
theorem RunRest.getLast? {quote : Char} {s : List Char} (h : RunRest quote s) :
    s.getLast? = some quote := by
  induction h with
  | close => rfl
  | escaped _ _ ih =>
      rw [List.getLast?_cons, List.getLast?_cons, ih]
      rfl
  | char _ _ ih =>
      rw [List.getLast?_cons, ih]
      rfl

/-- What `runLength` counts is a run. -/
theorem runLength_sound (quote : Char) (s : List Char) :
    ∀ n, runLength quote s = some n → n ≤ s.length ∧ RunRest quote (s.take n) := by
  fun_induction runLength quote s with
  | case1 => intro n h; exact absurd h (by simp)
  | case2 c rest hc ih =>
      intro n h
      obtain ⟨k, hk, rfl⟩ := Option.map_eq_some_iff.mp h
      obtain ⟨hle, hrun⟩ := ih k hk
      exact ⟨by simp only [List.length_cons]; omega, .escaped hc hrun⟩
  | case3 => intro n h; exact absurd h (by simp)
  | case4 c rest _ hq =>
      intro n h
      injection h with h
      subst h
      rw [beq_iff_eq.mp hq]
      exact ⟨by simp, .close⟩
  | case5 c rest _ hq hc ih =>
      intro n h
      obtain ⟨k, hk, rfl⟩ := Option.map_eq_some_iff.mp h
      obtain ⟨hle, hrun⟩ := ih k hk
      exact ⟨by simp only [List.length_cons]; omega, .char hc hrun⟩
  | case6 => intro n h; exact absurd h (by simp)

/-- A run is counted to its end, whatever follows. -/
theorem RunRest.runLength {quote : Char} (hq : isQuote quote = true) {s : List Char}
    (h : RunRest quote s) (rest : List Char) : runLength quote (s ++ rest) = some s.length := by
  induction h with
  | close =>
      rw [List.singleton_append, TagTemplate.runLength.eq_3 _ _ _ ?_]
      · simp
      · exact fun _ _ hb => absurd hb (isQuote_ne_backslash hq)
  | escaped hc _ ih =>
      rw [List.cons_append, List.cons_append, TagTemplate.runLength.eq_2, if_pos hc, ih]
      rfl
  | char hc _ ih =>
      obtain ⟨hne, hb⟩ := isRunChar_ne hc
      rw [List.cons_append, TagTemplate.runLength.eq_3 _ _ _ ?_]
      · simp [hne, hc, ih]
      · exact fun _ _ h => absurd h hb

/-! ## §2. Comments. -/

/-- A comment behind its start, up to the first `*` with a slash behind it. -/
inductive CommentRest : List Char → Prop where
  /-- The end. -/
  | close : CommentRest ['*', '/']
  /-- A character with which the end does not begin. -/
  | char {c : Char} {s : List Char} (hc : c = '*' → s.head? ≠ some '/') (hs : CommentRest s) :
      CommentRest (c :: s)

/-- A comment ends with a slash. -/
theorem CommentRest.getLast? {s : List Char} (h : CommentRest s) : s.getLast? = some '/' := by
  induction h with
  | close => rfl
  | char _ _ ih =>
      rw [List.getLast?_cons, ih]
      rfl

/-- What `commentLength` counts is a comment. -/
theorem commentLength_sound (s : List Char) :
    ∀ n, commentLength s = some n → n ≤ s.length ∧ CommentRest (s.take n) := by
  fun_induction commentLength s with
  | case1 rest =>
      intro n h
      injection h with h
      subst h
      exact ⟨by simp, .close⟩
  | case2 c rest hne ih =>
      intro n h
      obtain ⟨k, hk, rfl⟩ := Option.map_eq_some_iff.mp h
      obtain ⟨hle, hrest⟩ := ih k hk
      refine ⟨by simp only [List.length_cons]; omega, .char ?_ hrest⟩
      intro hc hhead
      rw [List.head?_take] at hhead
      split at hhead
      · exact absurd hhead (by simp)
      · obtain ⟨t, rfl⟩ := List.head?_eq_some_iff.mp hhead
        exact hne t hc rfl
  | case3 => intro n h; exact absurd h (by simp)

/-- A comment is counted to its end, whatever follows. -/
theorem CommentRest.commentLength {s : List Char} (h : CommentRest s) (rest : List Char) :
    commentLength (s ++ rest) = some s.length := by
  induction h with
  | close => rfl
  | @char c s hc hs ih =>
      rw [List.cons_append, TagTemplate.commentLength.eq_2 _ _ ?_, ih]
      · rfl
      · intro t hstar ht
        apply hc hstar
        cases hs with
        | close => simpa using (List.cons.inj ht).1
        | char _ _ => simpa using (List.cons.inj ht).1

/-! ## §3. Steps. -/

/-- A quote opens a step that is its run. -/
theorem stepTail_quoted {q : Char} (hq : isQuote q = true) {run : List Char}
    (hrun : RunRest q run) (s : List Char) : stepTail q (run ++ s) = run.length := by
  unfold stepTail
  unfold isQuote at hq
  rw [if_pos hq, hrun.runLength hq]
  rfl

/-- A slash with a star behind it opens a step that is its comment. -/
theorem stepTail_comment {rest : List Char} (hrest : CommentRest rest) (s : List Char) :
    stepTail '/' ('*' :: (rest ++ s)) = rest.length + 1 := by
  show ((commentLength (rest ++ s)).map (· + 1)).getD 0 = _
  rw [hrest.commentLength]
  rfl

/-- Any other character is a step of its own. -/
theorem stepTail_char {c : Char} {s : List Char} (hq : isQuote c = false)
    (hcomment : c = '/' → s.head? ≠ some '*') : stepTail c s = 0 := by
  unfold stepTail
  unfold isQuote at hq
  rw [if_neg (by simp [hq])]
  split
  next hslash =>
    split
    next after => exact absurd rfl (hcomment (beq_iff_eq.mp hslash))
    next => rfl
  next => rfl

theorem isQuote_of_blank {c : Char} (hc : isBlank c = true) : isQuote c = false := by
  cases h : isQuote c with
  | false => rfl
  | true => exact absurd hc (by simp [isQuote_not_blank h])

theorem ne_slash_of_blank {c : Char} (hc : isBlank c = true) : c ≠ '/' :=
  fun h => absurd (h ▸ hc) (by decide)

/-- A blank is a step of its own. -/
theorem stepTail_blank {c : Char} (hc : isBlank c = true) (rest : List Char) :
    stepTail c rest = 0 :=
  stepTail_char (isQuote_of_blank hc) fun h => absurd h (ne_slash_of_blank hc)

/-- A step of several characters ends with no blank. -/
theorem stepTail_last (c : Char) (rest : List Char) :
    stepTail c rest ≤ rest.length
      ∧ ∀ x ∈ (rest.take (stepTail c rest)).getLast?, isBlank x = false := by
  unfold stepTail
  split
  next hq =>
    cases hrun : runLength c rest with
    | none => simp
    | some n =>
        obtain ⟨hle, hrest⟩ := runLength_sound c rest n hrun
        refine ⟨hle, ?_⟩
        rw [Option.getD_some, hrest.getLast?]
        intro x hx
        injection hx with hx
        exact hx ▸ isQuote_not_blank hq
  next =>
    split
    next =>
      split
      next after =>
        cases hcom : commentLength after with
        | none => simp
        | some n =>
            obtain ⟨hle, hrest⟩ := commentLength_sound after n hcom
            refine ⟨by simpa using hle, ?_⟩
            have hlast : ('*' :: after.take n).getLast? = some '/' := by
              rw [List.getLast?_cons, hrest.getLast?]
              rfl
            rw [Option.map_some, Option.getD_some, List.take_succ_cons, hlast]
            intro x hx
            injection hx with hx
            subst hx
            decide
      next => simp
    next => simp

end TagTemplate
