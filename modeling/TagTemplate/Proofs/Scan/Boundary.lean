/-
  TagTemplate.Proofs.Scan.Boundary
  ────────────────────────────────
  **THE BOUNDARIES BETWEEN THE STEPS OF A BODY.**

  A text falls from the left into complete quoted runs and comments, where
  one starts, and single characters (`FirstStep`, `Steps`).  A tag can end at
  a boundary behind which blanks, a marker and the closing delimiter stand
  (`CanEnd`), and `bodyEnd?` finds the first of these:

    • `endsFirst_of_bodyEnd?` — a body that is found ends there,
    • `neverEnds_of_bodyEnd?` — where none is found there is none,
    • `AnyRun.firstStep` — a run is one step exactly if each backslash in it
      stands before a character that it escapes.
-/
import TagTemplate.Proofs.Scan.Span

namespace TagTemplate

open Text

/-! ## §1. Steps. -/

/-- A complete quoted run or comment. -/
inductive Enclosed : List Char → Prop where
  /-- A quoted run. -/
  | quoted {q : Char} {run : List Char} (hq : isQuote q = true) (hrun : RunRest q run) :
      Enclosed (q :: run)
  /-- A comment. -/
  | comment {rest : List Char} (hrest : CommentRest rest) : Enclosed ('/' :: '*' :: rest)

/-- The first step of a text, and the text behind it. -/
inductive FirstStep : List Char → List Char → List Char → Prop where
  /-- A run or a comment, where one starts. -/
  | enclosed {step rest : List Char} (hstep : Enclosed step) : FirstStep (step ++ rest) step rest
  /-- A single character, where none does. -/
  | single {c : Char} {rest : List Char} (hnone : ∀ step, Enclosed step → ¬ step <+: c :: rest) :
      FirstStep (c :: rest) [c] rest

/-- Some of the steps of a text, from the left, and the text behind them. -/
inductive Steps : List Char → List Char → List Char → Prop where
  /-- None of them. -/
  | none {s : List Char} : Steps s [] s
  /-- One and then others. -/
  | next {s step rest taken left : List Char} (hstep : FirstStep s step rest)
      (hsteps : Steps rest taken left) : Steps s (step ++ taken) left

/-- The end of a tag can be read here: blanks, perhaps a marker, and the closing delimiter. -/
def CanEnd (d : Delimiters) (s : List Char) : Prop :=
  ∃ stop : TagEnd, stop.WellFormed ∧ stop.text d <+: s

/-! ## §2. The step that the scanner takes. -/

theorem Enclosed.stepTail {c : Char} {tail : List Char} (h : Enclosed (c :: tail))
    (rest : List Char) : stepTail c (tail ++ rest) = tail.length := by
  cases h with
  | quoted hq hrun => exact stepTail_quoted hq hrun rest
  | comment hrest =>
      rw [List.cons_append, stepTail_comment hrest, List.length_cons]

/-- A run or comment has more than one character. -/
theorem Enclosed.tail_ne_nil {c : Char} {tail : List Char} (h : Enclosed (c :: tail)) :
    tail ≠ [] := by
  rintro rfl
  cases h with
  | quoted _ hrun => nomatch hrun

/-- A run or comment ends with no marker. -/
theorem Enclosed.getLast? {step : List Char} (h : Enclosed step) :
    ∃ c, step.getLast? = some c ∧ isMarker c = false := by
  cases h with
  | @quoted q run hq hrun =>
      refine ⟨q, ?_, ?_⟩
      · rw [List.getLast?_cons, hrun.getLast?]
        rfl
      · rcases isQuote_cases hq with rfl | rfl | rfl <;> decide
  | comment hrest =>
      refine ⟨'/', ?_, by decide⟩
      rw [List.getLast?_cons, List.getLast?_cons, hrest.getLast?]
      rfl

/-- A step of several characters is a run or a comment. -/
theorem enclosed_of_stepTail {c : Char} {s : List Char} (h : stepTail c s ≠ 0) :
    Enclosed (c :: s.take (stepTail c s)) := by
  revert h
  unfold stepTail
  split
  next hq =>
    cases hrun : runLength c s with
    | none => exact fun h => absurd rfl h
    | some n => exact fun _ => .quoted hq (runLength_sound c s n hrun).2
  next =>
    split
    next hslash =>
      rw [beq_iff_eq.mp hslash]
      split
      next after =>
        cases hcomment : commentLength after with
        | none => exact fun h => absurd rfl h
        | some n => exact fun _ => .comment (commentLength_sound after n hcomment).2
      next => exact fun h => absurd rfl h
    next => exact fun h => absurd rfl h

/-- The first step of a text is the one that the scanner takes. -/
theorem firstStep_iff {c : Char} {s step rest : List Char} :
    FirstStep (c :: s) step rest
      ↔ step = c :: s.take (stepTail c s) ∧ rest = s.drop (stepTail c s) := by
  have hcut : c :: s.take (stepTail c s) ++ s.drop (stepTail c s) = c :: s := by
    rw [List.cons_append, List.take_append_drop]
  constructor
  · intro h
    generalize htext : c :: s = text at h
    cases h with
    | enclosed hstep =>
        cases step with
        | nil => nomatch hstep
        | cons a tail =>
            obtain ⟨rfl, hs⟩ := List.cons.inj htext
            rw [show s = tail ++ rest from hs, hstep.stepTail, List.take_left, List.drop_left]
            exact ⟨rfl, rfl⟩
    | single hnone =>
        obtain ⟨rfl, rfl⟩ := List.cons.inj htext
        by_cases hzero : stepTail c s = 0
        · rw [hzero]
          exact ⟨rfl, rfl⟩
        · exact absurd ⟨_, hcut⟩ (hnone _ (enclosed_of_stepTail hzero))
  · rintro ⟨rfl, rfl⟩
    by_cases hzero : stepTail c s = 0
    · rw [hzero]
      refine .single fun step hstep hprefix => ?_
      -- a run or comment here would be the step, and it has more than one character
      obtain ⟨rest, hrest⟩ := hprefix
      cases step with
      | nil => nomatch hstep
      | cons a tail =>
          obtain ⟨rfl, hs⟩ := List.cons.inj hrest
          rw [show s = tail ++ rest from hs.symm, hstep.stepTail] at hzero
          exact hstep.tail_ne_nil (List.length_eq_zero_iff.mp hzero)
    · have hstep : FirstStep _ _ (s.drop (stepTail c s)) := .enclosed (enclosed_of_stepTail hzero)
      rwa [hcut] at hstep

/-- A quoted run behind its opening quote, in which a backslash may stand before any character. -/
inductive AnyRun (quote : Char) : List Char → Prop where
  /-- The closing quote. -/
  | close : AnyRun quote [quote]
  /-- A backslash with the character behind it. -/
  | escaped {c : Char} {s : List Char} (hs : AnyRun quote s) : AnyRun quote ('\\' :: c :: s)
  /-- Any other character. -/
  | char {c : Char} {s : List Char} (hc : isRunChar quote c = true) (hs : AnyRun quote s) :
      AnyRun quote (c :: s)

/-- A run is not read at all if a backslash stands before a character that it does not escape. -/
theorem AnyRun.runLength {quote : Char} {run : List Char} (h : AnyRun quote run)
    (hnot : ¬ RunRest quote run) (rest : List Char) : runLength quote (run ++ rest) = none := by
  induction h with
  | close => exact absurd .close hnot
  | @escaped c s _ ih =>
      rw [List.cons_append, List.cons_append, TagTemplate.runLength.eq_2]
      by_cases hc : isEscapable c = true
      · rw [if_pos hc, ih fun hs => hnot (.escaped hc hs)]
        rfl
      · rw [if_neg hc]
  | char hc _ ih =>
      obtain ⟨hne, hb⟩ := isRunChar_ne hc
      rw [List.cons_append, TagTemplate.runLength.eq_3 _ _ _ (fun _ _ h => absurd h hb)]
      simp [hne, hc, ih fun hs => hnot (.char hc hs)]

/-- **Which escapes keep a run together**: a run is one step if every backslash stands before a
character that it escapes, and otherwise its opening quote is a step of its own. -/
theorem AnyRun.firstStep {q : Char} (hq : isQuote q = true) {run : List Char} (h : AnyRun q run)
    (rest : List Char) :
    (RunRest q run → FirstStep (q :: (run ++ rest)) (q :: run) rest)
      ∧ (¬ RunRest q run → FirstStep (q :: (run ++ rest)) [q] (run ++ rest)) := by
  constructor
  · exact fun hrun => .enclosed (.quoted hq hrun)
  · intro hnot
    have hzero : stepTail q (run ++ rest) = 0 := by
      unfold stepTail
      unfold isQuote at hq
      rw [if_pos hq, h.runLength hnot]
      rfl
    rw [firstStep_iff, hzero]
    exact ⟨rfl, rfl⟩

/-- Steps are the text up to the boundary behind them. -/
theorem Steps.text {s taken left : List Char} (h : Steps s taken left) : s = taken ++ left := by
  induction h with
  | none => rfl
  | next hstep _ ih =>
      rw [List.append_assoc, ← ih]
      cases hstep with
      | enclosed => rfl
      | single => rfl

/-- The last of some steps stands at a boundary. -/
theorem Steps.last {s taken left : List Char} (h : Steps s taken left) (hne : taken ≠ []) :
    ∃ before step rest, Steps s before rest ∧ FirstStep rest step left ∧ taken = before ++ step := by
  induction h with
  | none => exact absurd rfl hne
  | @next s step rest taken left hstep hsteps ih =>
      by_cases hempty : taken = []
      · subst hempty
        have hleft : rest = left := hsteps.text
        exact ⟨[], step, s, .none, hleft ▸ hstep, List.append_nil step⟩
      · obtain ⟨before, last, rest', hbefore, hlast, htaken⟩ := ih hempty
        refine ⟨step ++ before, last, rest', .next hstep hbefore, hlast, ?_⟩
        rw [htaken, List.append_assoc]

/-! ## §3. The end of a body. -/

section Body

variable {d : Delimiters} {s : List Char}

/-- An end that stands here is read. -/
theorem endMarker?_ne_none {marker : Option Char} (hmarker : ∀ c ∈ marker, isMarker c = true)
    (rest : List Char) : endMarker? d (marker.toList ++ d.closing ++ rest) ≠ none := by
  have hclosing : startsWith d.closing (d.closing ++ rest) = true := startsWith_append _ _
  cases marker with
  | some m =>
      have hm : (isMarker m && startsWith d.closing (d.closing ++ rest)) = true := by
        rw [hmarker m rfl, hclosing]
        rfl
      show (if isMarker m && startsWith d.closing (d.closing ++ rest) then some (some m)
        else _) ≠ none
      rw [if_pos hm]
      nofun
  | none =>
      show endMarker? d (d.closing ++ rest) ≠ none
      generalize d.closing ++ rest = s at hclosing ⊢
      unfold endMarker?
      split
      next c t =>
        split
        next => nofun
        next => nofun
      next => simp [hclosing]

theorem tagEnd?_eq_none_iff : tagEnd? d s = none ↔ ¬ CanEnd d s := by
  constructor
  · rintro hnone ⟨⟨blanks, marker⟩, ⟨hblanks, hmarker⟩, rest, rfl⟩
    have htext : TagEnd.text d ⟨blanks, marker⟩ ++ rest
        = blanks ++ (marker.toList ++ d.closing ++ rest) := by
      simp [TagEnd.text]
    rw [htext] at hnone
    unfold tagEnd? at hnone
    rw [endBehind?_eq_none_iff] at hnone
    -- the end was tried for behind exactly these blanks
    refine endMarker?_ne_none (d := d) hmarker rest ?_
    have hhere := hnone blanks.length (by
      rw [List.takeWhile_append_of_pos (allBlank_iff.mp hblanks), List.length_append]
      exact Nat.le_add_right _ _)
    rwa [List.drop_left] at hhere
  · intro hnot
    cases hend : tagEnd? d s with
    | none => rfl
    | some stop =>
        obtain ⟨hwf, rest, hrest⟩ := tagEnd?_sound hend
        exact absurd ⟨stop, hwf, rest, hrest.symm⟩ hnot

/-- Behind no boundary of a text the end of a tag can be read. -/
def NeverEnds (d : Delimiters) (s : List Char) : Prop :=
  ∀ taken left, Steps s taken left → ¬ CanEnd d left

/-- A body is a number of steps, and none of the boundaries before its own has an end behind it. -/
structure EndsFirst (d : Delimiters) (s body left : List Char) : Prop where
  /-- The body consists of steps. -/
  steps : Steps s body left
  /-- An end can be read behind it. -/
  here : CanEnd d left
  /-- No end can be read before. -/
  first : ∀ taken rest, Steps s taken rest → taken.length < body.length → ¬ CanEnd d rest

/-- The boundaries of a text are its start, and those behind its first step. -/
theorem Steps.inv {c : Char} {taken left : List Char} (h : Steps (c :: s) taken left) :
    (taken = [] ∧ left = c :: s) ∨ ∃ more, taken = c :: s.take (stepTail c s) ++ more
      ∧ Steps (s.drop (stepTail c s)) more left := by
  cases h with
  | none => exact .inl ⟨rfl, rfl⟩
  | next hstep hsteps =>
      obtain ⟨rfl, rfl⟩ := firstStep_iff.mp hstep
      exact .inr ⟨_, rfl, hsteps⟩

theorem Steps.eq_nil {taken left : List Char} (h : Steps [] taken left) :
    taken = [] ∧ left = [] :=
  List.append_eq_nil_iff.mp h.text.symm

/-- **Where no end is found there is none.** -/
theorem neverEnds_of_bodyEnd? (d : Delimiters) (s : List Char) :
    bodyEnd? d s = none → NeverEnds d s := by
  fun_induction bodyEnd? d s with
  | case1 => exact fun h => absurd h (Option.some_ne_none _)
  | case2 hend =>
      intro _ taken left hsteps
      rw [hsteps.eq_nil.2]
      exact tagEnd?_eq_none_iff.mp hend
  | case3 c s n hend ih =>
      intro hnone taken left hsteps
      obtain ⟨_, rfl⟩ | ⟨more, _, hmore⟩ := hsteps.inv
      · exact tagEnd?_eq_none_iff.mp hend
      · exact ih (Option.map_eq_none_iff.mp hnone) more left hmore

/-- **A body that is found ends at the first boundary.** -/
theorem endsFirst_of_bodyEnd? (d : Delimiters) (s : List Char) :
    ∀ body stop, bodyEnd? d s = some (body, stop) →
      ∃ rest, EndsFirst d s body (stop.text d ++ rest) := by
  fun_induction bodyEnd? d s with
  | case1 s found hend =>
      intro body stop h
      injection h with h
      obtain ⟨rfl, rfl⟩ := Prod.mk.inj h
      obtain ⟨hwf, rest, rfl⟩ := tagEnd?_sound hend
      exact ⟨rest, .none, ⟨found, hwf, rest, rfl⟩, fun _ _ _ hlt => absurd hlt (Nat.not_lt_zero _)⟩
  | case2 => exact fun _ _ h => absurd h.symm (Option.some_ne_none _)
  | case3 c s n hend ih =>
      intro body stop h
      obtain ⟨⟨more, stop'⟩, hmore, heq⟩ := Option.map_eq_some_iff.mp h
      obtain ⟨rfl, rfl⟩ := Prod.mk.inj heq
      obtain ⟨rest, hsteps, hhere, hfirst⟩ := ih more stop' hmore
      refine ⟨rest, .next (firstStep_iff.mpr ⟨rfl, rfl⟩) hsteps, hhere, ?_⟩
      intro taken left htaken hlt
      obtain ⟨_, rfl⟩ | ⟨taken', rfl, htaken'⟩ := htaken.inv
      · exact tagEnd?_eq_none_iff.mp hend
      · -- both begin with the first step
        change (c :: s.take n ++ taken').length < (c :: s.take n ++ more).length at hlt
        rw [List.length_append, List.length_append] at hlt
        exact hfirst taken' left htaken' (Nat.lt_of_add_lt_add_left hlt)

/-- The first boundary is one. -/
theorem EndsFirst.unique {body left body' left' : List Char} (h : EndsFirst d s body left)
    (h' : EndsFirst d s body' left') : body = body' ∧ left = left' := by
  have hlength : body.length = body'.length := by
    rcases Nat.lt_trichotomy body.length body'.length with hlt | heq | hgt
    · exact absurd h.here (h'.first body left h.steps hlt)
    · exact heq
    · exact absurd h'.here (h.first body' left' h'.steps hgt)
  exact List.append_inj (h.steps.text.symm.trans h'.steps.text) hlength

/-- **The marker before the closing delimiter is no part of the body.** -/
theorem EndsFirst.unmarked {body rest : List Char} (h : EndsFirst d s body (d.closing ++ rest)) :
    ∀ c ∈ body.getLast?, isMarker c = false := by
  intro c hc
  have hne : body ≠ [] := fun hnil => by rw [hnil] at hc; exact nomatch hc
  obtain ⟨before, step, left, hbefore, hstep, rfl⟩ := h.steps.last hne
  cases hmarker : isMarker c with
  | false => rfl
  | true =>
      cases hstep with
      | single _ =>
          -- behind the step before it, the tag ends with this marker
          rw [List.getLast?_concat] at hc
          injection hc with hc
          subst hc
          refine absurd ⟨⟨[], some _⟩, ⟨rfl, fun x hx => ?_⟩, rest, rfl⟩
            (h.first before _ hbefore (by simp))
          exact Option.mem_some.mp hx ▸ hmarker
      | enclosed hstep =>
          obtain ⟨last, hlast, hunmarked⟩ := hstep.getLast?
          rw [List.getLast?_append, hlast] at hc
          injection hc with hc
          rw [← hc, hunmarked] at hmarker
          exact absurd hmarker nofun

end Body

end TagTemplate
