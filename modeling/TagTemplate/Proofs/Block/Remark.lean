/-
  TagTemplate.Proofs.Block.Remark
  ────────────────────────────────
  **A REMARK IS NO PART OF A LINE.**

  Whether a line opens a block is decided by its last token, and a remark
  behind the line is none.  No token reaches into it either: a space, a tab
  and the mark of a remark end whatever is read in front of them, except for a
  string that is open.  So the tokens of a line that is read to its end are
  the tokens of the line with any remark behind it.

    • `tokenStep_remark`, `lineTokens_remark` — a token, and a line of tokens,
    • `opensBlock_remark` — the last token stays the last.
-/
import TagTemplate.Proofs.Block.Stops
import TagTemplate.Proofs.Text.Lines

namespace TagTemplate.Block

open Text

/-! ## §1. Remarks. -/

/-- A remark behind a line: spaces or tabs, the mark, and a text that stays on the line. -/
structure Remark where
  /-- The spaces and tabs in front of the mark. -/
  gap : List Char
  /-- The text behind the mark. -/
  text : List Char
  /-- There is nothing else in front of it. -/
  gap_margin : IsMargin gap
  /-- The text has no further line. -/
  text_inLine : ∀ c ∈ text, isLineEnd c = false
  /-- The text ends in no blank. -/
  text_last : ∀ c ∈ text.getLast?, isBlank c = false

/-- The characters of a remark. -/
def Remark.chars (r : Remark) : List Char := r.gap ++ '#' :: r.text

/-- A remark starts with a blank or with its mark. -/
theorem gap_stop {gap : List Char} (hgap : IsMargin gap) (text : List Char) :
    ∃ c rest, gap ++ '#' :: text = c :: rest ∧ IsStop c := by
  cases gap with
  | nil => exact ⟨'#', text, rfl, .inr (.inr rfl)⟩
  | cons c gap =>
      have hc : c = ' ' ∨ c = '\t' := hgap c List.mem_cons_self
      exact ⟨c, gap ++ '#' :: text, rfl, hc.imp_right .inl⟩

theorem Remark.chars_head (r : Remark) : ∃ c rest, r.chars = c :: rest ∧ IsStop c :=
  gap_stop r.gap_margin r.text

/-! ## §2. A token in front of a remark. -/

/-- A line ends here. -/
def AtLineEnd (s : List Char) : Prop :=
  ∃ rest, s = '\\' :: '\n' :: rest ∨ s = '\\' :: '\r' :: '\n' :: rest ∨ s = '\n' :: rest
    ∨ s = '\r' :: '\n' :: rest

/-- The step over a string in three quotes, from behind them. -/
def longStep? (st : LineState) (q : Char) (body : List Char) : Option (LineState × List Char) :=
  match stringEnd? [q, q, q] body with
  | some after => some (st.takeOther, after)
  | none => some ({ st with text := some [q, q, q] }, [])

/-- The step over a string in one quote, or else over a word. -/
def wordStep? (st : LineState) (d : Char) (s : List Char) : Option (LineState × List Char) :=
  match (stringStart? (d :: s)).map fun (q, body) => (q, shortString q body) with
  | some (_, StringRest.closed after) => some (st.takeOther, after)
  | some (q, StringRest.continued) => some ({ st with text := some [q], strict := true }, [])
  | _ => if isWordChar d then some (st.takeOther, s.dropWhile isWordChar) else none

/-- A token that is no end of a line. -/
theorem tokenStep_inLine (st : LineState) {d : Char} {s : List Char} (h : ¬ AtLineEnd (d :: s)) :
    tokenStep st (d :: s)
      = if d == '#' then some (st, s.dropWhile fun x => x != '\r' && x != '\n')
        else
          match tripleStart? (d :: s) with
          | some (q, body) => longStep? st q body
          | none =>
            match numberRest? (d :: s) with
            | some after => some (st.takeOther, after)
            | none =>
              match operator? (d :: s) with
              | some (op, after) => some (st.takeOperator op, after)
              | none => wordStep? st d s := by
  rw [tokenStep]
  · rfl
  · exact fun rest hd hs => h ⟨rest, .inl (by rw [hd, hs])⟩
  · exact fun rest hd hs => h ⟨rest, .inr (.inl (by rw [hd, hs]))⟩
  · exact fun hd => h ⟨s, .inr (.inr (.inl (by rw [hd])))⟩
  · exact fun rest hd hs => h ⟨rest, .inr (.inr (.inr (by rw [hd, hs])))⟩

/-- Whether a line may end in this state. -/
def LineState.isFinished (st : LineState) : Bool := !(st.text.isSome || st.depth != 0 || st.continued)

/-- Whether a text is cut into tokens up to its end, with no character left over and nothing left open;
`fuel` bounds the number of tokens. -/
def readsThrough : Nat → LineState → List Char → Bool
  | 0, _, _ => false
  | fuel + 1, st, s =>
    let t := skipSpace s
    if t.isEmpty then st.isFinished
    else
      match tokenStep st t with
      | some (st, rest) => readsThrough fuel st rest
      | none => false

/-- Where the text is over, the state is finished. -/
theorem readsThrough_nil {fuel : Nat} {st : LineState} (h : readsThrough fuel st [] = true) :
    st.isFinished = true := by
  cases fuel with
  | zero => cases h
  | succ fuel => exact h

/-- In a string that is open no text ends. -/
theorem not_readsThrough_open {fuel : Nat} {st : LineState} (h : st.text.isSome = true) :
    readsThrough fuel st [] = false := by
  refine Bool.eq_false_iff.mpr fun hread => ?_
  have hfinished := readsThrough_nil hread
  unfold LineState.isFinished at hfinished
  rw [h] at hfinished
  cases hfinished

/-- A quote that opens no string that ends is left over. -/
theorem not_readsThrough_quote {fuel : Nat} {st : LineState} {q : Char} {body : List Char}
    (hq : q = '\'' ∨ q = '"') (htriple : dropStart? [q, q] body = none)
    (hbroken : shortString q body = .broken) : readsThrough fuel st (q :: body) = false := by
  have hstart : stringStart? (q :: body) = some (q, body) := by rcases hq with rfl | rfl <;> rfl
  have hnumber : numberRest? (q :: body) = none := by rcases hq with rfl | rfl <;> rfl
  have hoperator : operator? (q :: body) = none := by rcases hq with rfl | rfl <;> rfl
  have hskip : skipSpace (q :: body) = q :: body := by rcases hq with rfl | rfl <;> rfl
  have hword : isWordChar q = false := by rcases hq with rfl | rfl <;> decide
  have hmark : (q == '#') = false := by rcases hq with rfl | rfl <;> decide
  have hline : ¬ AtLineEnd (q :: body) := by
    rintro ⟨rest, h | h | h | h⟩ <;> rcases hq with rfl | rfl <;> cases h
  have htriple : tripleStart? (q :: body) = none := by
    unfold tripleStart?
    rw [hstart]
    show (dropStart? [q, q] body).map _ = none
    rw [htriple]
    rfl
  have hnone : tokenStep st (q :: body) = none := by
    rw [tokenStep_inLine st hline, hmark, htriple, hnumber, hoperator]
    unfold wordStep?
    rw [hstart]
    dsimp only [Option.map_some]
    rw [hbroken, hword]
    rfl
  cases fuel with
  | zero => rfl
  | succ fuel =>
      unfold readsThrough
      dsimp only
      rw [hskip, hnone]
      rfl

/-- A stop ends no line, nor does it make the end of a line of what is in front of it. -/
theorem atLineEnd_stop {c d : Char} (hc : IsStop c) {s z : List Char}
    (h : AtLineEnd (d :: (s ++ c :: z))) : AtLineEnd (d :: s) := by
  have hbreak : c ≠ '\n' := hc.ne.2.2.2.1
  have hreturn : c ≠ '\r' := hc.ne.2.2.2.2.1
  -- the second character of the end of a line is none of the tail
  have hsecond : ∀ more : List Char, s ++ c :: z = '\n' :: more → ∃ rest, s = '\n' :: rest := by
    intro more hmore
    cases s with
    | nil => exact absurd (List.cons.inj hmore).1 hbreak
    | cons e s => exact ⟨s, by rw [(List.cons.inj hmore).1]⟩
  obtain ⟨more, h | h | h | h⟩ := h
  · obtain ⟨rfl, hmore⟩ := List.cons.inj h
    obtain ⟨rest, rfl⟩ := hsecond more hmore
    exact ⟨rest, .inl rfl⟩
  · obtain ⟨rfl, hmore⟩ := List.cons.inj h
    rcases s with _ | ⟨e, _ | ⟨e', s⟩⟩
    · exact absurd (List.cons.inj hmore).1 hreturn
    · exact absurd (List.cons.inj (List.cons.inj hmore).2).1 hbreak
    · obtain ⟨rfl, hlast⟩ := List.cons.inj hmore
      obtain ⟨rfl, _⟩ := List.cons.inj hlast
      exact ⟨s, .inr (.inl rfl)⟩
  · exact ⟨s, .inr (.inr (.inl (by rw [(List.cons.inj h).1])))⟩
  · obtain ⟨rfl, hmore⟩ := List.cons.inj h
    obtain ⟨rest, rfl⟩ := hsecond more hmore
    exact ⟨rest, .inr (.inr (.inr rfl))⟩

/-- The letters in front of a quote are letters of a word. -/
theorem isWordChar_of_toLower {c : Char} (h : c.toLower ∈ ['b', 'r', 'u', 'f']) :
    isWordChar c = true := by
  by_cases hup : c.isUpper = true
  · have hletter : c.isAlpha = true := Bool.or_eq_true_iff.mpr (.inl hup)
    have hascii : c.toNat < 128 := by
      unfold Char.isUpper at hup
      have hle : c.toNat ≤ 90 := UInt32.le_iff_toNat_le.mp (of_decide_eq_true hup).2
      omega
    unfold isWordChar isAsciiWord Char.isAlphanum
    simp [hletter, hascii]
  · have hsame : c.toLower = c := by
      unfold Char.toLower
      exact dif_neg fun hcapital => hup (decide_eq_true hcapital)
    have hall : ['b', 'r', 'u', 'f'].all isWordChar = true := by decide
    exact List.all_eq_true.mp hall c (hsame ▸ h)

/-- Behind the letters in front of a string comes its quote. -/
theorem dropWhile_stringStart {d q : Char} {s body : List Char}
    (h : stringStart? (d :: s) = some (q, body)) (hd : isWordChar d = true) :
    s.dropWhile isWordChar = q :: body := by
  have hq : isWordChar q = false := by rcases stringStart?_quote h with rfl | rfl <;> decide
  have hall : stringMarks.all (·.all ['b', 'r', 'u', 'f'].contains) = true := by decide
  have hmarks : ∀ marks ∈ stringMarks, ∀ c ∈ marks, c ∈ ['b', 'r', 'u', 'f'] := fun marks hm c hc =>
    List.contains_iff_mem.mp (List.all_eq_true.mp (List.all_eq_true.mp hall marks hm) c hc)
  obtain ⟨n, hmem, hn⟩ := List.exists_of_findSome?_eq_some h
  have hn : stringAt? n (d :: s) = some (q, body) := hn
  unfold stringAt? at hn
  split at hn
  next q' body' hdrop =>
    split at hn
    next hstart =>
      obtain ⟨rfl, rfl⟩ := Prod.mk.inj (Option.some.inj hn)
      have hletters := hmarks _ (List.contains_iff_mem.mp (Bool.and_eq_true_iff.mp hstart).2)
      simp only [List.mem_cons, List.not_mem_nil, or_false] at hmem
      rcases hmem with rfl | rfl | rfl
      · rw [(List.cons.inj hdrop).1, hq] at hd
        cases hd
      · rw [show s = _ from hdrop, List.dropWhile_cons_of_neg (by simp [hq])]
      · cases s with
        | nil => cases hdrop
        | cons e s =>
            have he : isWordChar e = true :=
              isWordChar_of_toLower (hletters _ (List.mem_cons_of_mem _ List.mem_cons_self))
            rw [List.dropWhile_cons_of_pos he, show s = _ from hdrop,
              List.dropWhile_cons_of_neg (by simp [hq])]
    · cases hn
  · cases hn

/-- A string that does not end is left over, if letters stand in front of it and are read as a word. -/
theorem not_readsThrough_broken {fuel : Nat} {st : LineState} {d q : Char} {s body : List Char}
    (hstart : stringStart? (d :: s) = some (q, body)) (htriple : tripleStart? (d :: s) = none)
    (hbroken : shortString q body = .broken) (hd : isWordChar d = true) :
    readsThrough fuel st (s.dropWhile isWordChar) = false := by
  rw [dropWhile_stringStart hstart hd]
  refine not_readsThrough_quote (stringStart?_quote hstart) ?_ hbroken
  unfold tripleStart? at htriple
  rw [hstart] at htriple
  exact Option.map_eq_none_iff.mp htriple

/-- A word ends in front of a stop. -/
theorem dropWhile_word_stop {c : Char} (hc : IsStop c) (s z : List Char) :
    (s ++ c :: z).dropWhile isWordChar = s.dropWhile isWordChar ++ c :: z := by
  have hstop : (c :: z).dropWhile isWordChar = c :: z := by
    rw [List.dropWhile_cons_of_neg (by simp [hc.ne])]
  rw [List.dropWhile_append, hstop]
  split
  next hempty => rw [List.isEmpty_iff.mp hempty, List.nil_append]
  next => rfl

theorem Remark.chars_inLine (r : Remark) : ∀ c ∈ r.chars, isLineEnd c = false := by
  intro c hc
  rcases List.mem_append.mp hc with hc | hc
  · rcases r.gap_margin c hc with rfl | rfl <;> decide
  · rcases List.mem_cons.mp hc with rfl | hc
    · decide
    · exact r.text_inLine c hc

theorem Remark.newline_not_mem (r : Remark) : '\n' ∉ r.chars := fun hmem =>
  absurd (r.chars_inLine _ hmem) (by decide)

/-- A text without line ends is passed over up to its end. -/
theorem dropWhile_inLine {t : List Char} (h : ∀ c ∈ t, isLineEnd c = false) :
    (t.dropWhile fun x => x != '\r' && x != '\n') = [] := by
  have hpos : ∀ c ∈ t, (c != '\r' && c != '\n') = true := by
    intro c hc
    have hline := h c hc
    have hne : c ≠ '\r' ∧ c ≠ '\n' := by constructor <;> (rintro rfl; revert hline; decide)
    simp [hne]
  rw [← List.append_nil t, List.dropWhile_append_of_pos hpos]
  rfl

/-- A remark takes another one behind it in, unless its own line ends before. -/
theorem dropWhile_remark (r : Remark) (s : List Char) :
    let inLine := fun x : Char => x != '\r' && x != '\n'
    (s ++ r.chars).dropWhile inLine = s.dropWhile inLine ++ r.chars
      ∨ s.dropWhile inLine = [] ∧ (s ++ r.chars).dropWhile inLine = [] := by
  intro inLine
  have hall : r.chars.dropWhile inLine = [] := dropWhile_inLine r.chars_inLine
  rw [List.dropWhile_append]
  split
  next hempty => exact .inr ⟨List.isEmpty_iff.mp hempty, hall⟩
  next => exact .inl rfl

/-- The end of a line is read the same in front of anything, if what follows it is read to its end. -/
theorem tokenStep_lineEnd {fuel : Nat} {st st' : LineState} {s rest : List Char} (hend : AtLineEnd s)
    (h : tokenStep st s = some (st', rest)) (hrest : readsThrough fuel st' rest = true)
    (tail : List Char) : tokenStep st (s ++ tail) = some (st', rest ++ tail) := by
  obtain ⟨more, rfl | rfl | rfl | rfl⟩ := hend
  · -- a line that goes on is not over
    obtain ⟨rfl, rfl⟩ := Prod.mk.inj (Option.some.inj h)
    exact absurd (readsThrough_nil hrest) (by simp [LineState.isFinished])
  · obtain ⟨rfl, rfl⟩ := Prod.mk.inj (Option.some.inj h)
    exact absurd (readsThrough_nil hrest) (by simp [LineState.isFinished])
  · obtain ⟨rfl, rfl⟩ := Prod.mk.inj (Option.some.inj h)
    rfl
  · obtain ⟨rfl, rfl⟩ := Prod.mk.inj (Option.some.inj h)
    rfl

section Stop

variable {fuel : Nat} {st st' : LineState} {c d q : Char} {s z rest body : List Char}

/-- A string in three quotes is read the same in front of a stop, if it ends. -/
theorem longStep?_stop (hc : IsStop c) (hq : q = '\'' ∨ q = '"')
    (h : longStep? st q body = some (st', rest)) (hrest : readsThrough fuel st' rest = true) :
    longStep? st q (body ++ c :: z) = some (st', rest ++ c :: z) := by
  unfold longStep? at h ⊢
  split at h
  next after hafter =>
    obtain ⟨rfl, rfl⟩ := Prod.mk.inj (Option.some.inj h)
    rw [stringEnd?_stop (not_mem_quotes hc hq).2 hafter]
  next =>
    obtain ⟨rfl, rfl⟩ := Prod.mk.inj (Option.some.inj h)
    rw [not_readsThrough_open rfl] at hrest
    cases hrest

/-- A word, or a string in one quote that ends, is read the same in front of a stop. -/
theorem wordStep?_stop (hc : IsStop c) (htriple : tripleStart? (d :: s) = none)
    (h : wordStep? st d s = some (st', rest)) (hrest : readsThrough fuel st' rest = true) :
    wordStep? st d (s ++ c :: z) = some (st', rest ++ c :: z) := by
  unfold wordStep? at h ⊢
  rw [show stringStart? (d :: (s ++ c :: z)) = (stringStart? (d :: s)).map (behind (c :: z)) from
    stringStart?_stop hc (d :: s)]
  cases hstart : stringStart? (d :: s) with
  | none =>
      rw [hstart] at h
      dsimp only [Option.map_none] at h ⊢
      split at h
      next hword =>
        obtain ⟨rfl, rfl⟩ := Prod.mk.inj (Option.some.inj h)
        rw [if_pos hword, dropWhile_word_stop hc]
      next => cases h
  | some start =>
      obtain ⟨q, body⟩ := start
      rw [hstart] at h
      dsimp only [Option.map_some, behind] at h ⊢
      cases hshort : shortString q body with
      | closed after =>
          rw [hshort] at h
          obtain ⟨rfl, rfl⟩ := Prod.mk.inj (Option.some.inj h)
          rw [shortString_append (c :: z) hshort]
      | continued =>
          rw [hshort] at h
          obtain ⟨rfl, rfl⟩ := Prod.mk.inj (Option.some.inj h)
          rw [not_readsThrough_open rfl] at hrest
          cases hrest
      | broken =>
          -- letters are read as a word, and the quote behind them is left over
          rw [hshort] at h
          dsimp only at h
          split at h
          next hword =>
            obtain ⟨rfl, rfl⟩ := Prod.mk.inj (Option.some.inj h)
            rw [not_readsThrough_broken hstart htriple hshort hword] at hrest
            cases hrest
          next => cases h

end Stop

/-- **A token is read the same in front of a remark**, if what follows it is read to its end; only a remark
takes the further one in. -/
theorem tokenStep_remark (r : Remark) {fuel : Nat} {st st' : LineState} {d : Char} {s rest : List Char}
    (h : tokenStep st (d :: s) = some (st', rest)) (hrest : readsThrough fuel st' rest = true) :
    tokenStep st (d :: (s ++ r.chars)) = some (st', rest ++ r.chars)
      ∨ rest = [] ∧ tokenStep st (d :: (s ++ r.chars)) = some (st', []) := by
  by_cases hend : AtLineEnd (d :: s)
  · exact .inl (tokenStep_lineEnd hend h hrest r.chars)
  have hdrop := dropWhile_remark r s
  obtain ⟨c, z, hchars, hc⟩ := r.chars_head
  rw [hchars] at hdrop ⊢
  have htriple : tripleStart? (d :: (s ++ c :: z)) = (tripleStart? (d :: s)).map (behind (c :: z)) :=
    tripleStart?_stop hc (d :: s)
  have hnumber : numberRest? (d :: (s ++ c :: z)) = (numberRest? (d :: s)).map (· ++ c :: z) :=
    numberRest?_stop hc (d :: s)
  have hoperator : operator? (d :: (s ++ c :: z)) = (operator? (d :: s)).map (behind (c :: z)) :=
    operator?_stop hc (d :: s)
  rw [tokenStep_inLine st hend] at h
  rw [tokenStep_inLine st fun hline => hend (atLineEnd_stop hc hline), htriple, hnumber, hoperator]
  split at h
  next hmark =>
    obtain ⟨rfl, rfl⟩ := Prod.mk.inj (Option.some.inj h)
    rw [if_pos hmark]
    -- a remark that reaches to the end of the text goes on through the other
    rcases hdrop with hdrop | ⟨hnil, hdrop⟩
    · exact .inl (by rw [hdrop])
    · exact .inr ⟨hnil, by rw [hdrop]⟩
  next hmark =>
    rw [if_neg hmark]
    left
    cases htripleStart : tripleStart? (d :: s) with
    | some start =>
        rw [htripleStart] at h
        exact longStep?_stop hc (tripleStart?_quote htripleStart) h hrest
    | none =>
        rw [htripleStart] at h
        cases hnumberRest : numberRest? (d :: s) with
        | some after =>
            rw [hnumberRest] at h
            obtain ⟨rfl, rfl⟩ := Prod.mk.inj (Option.some.inj h)
            rfl
        | none =>
            rw [hnumberRest] at h
            cases hoperatorRest : operator? (d :: s) with
            | some read =>
                rw [hoperatorRest] at h
                obtain ⟨rfl, rfl⟩ := Prod.mk.inj (Option.some.inj h)
                rfl
            | none =>
                rw [hoperatorRest] at h
                exact wordStep?_stop hc htripleStart h hrest

/-! ## §3. A line in front of a remark. -/

theorem lineTokens_nil (fuel : Nat) (st : LineState) : lineTokens fuel st [] = st := by
  cases fuel <;> rfl

theorem lineTokens_succ (fuel : Nat) (st : LineState) (s : List Char) :
    lineTokens (fuel + 1) st s
      = if (skipSpace s).isEmpty then st
        else
          match tokenStep st (skipSpace s) with
          | some (st, rest) => lineTokens fuel st rest
          | none => lineTokens fuel st.takeOther (s.drop 1) := by
  cases s <;> rfl

/-- A remark alone has no token. -/
theorem lineTokens_mark (r : Remark) (fuel : Nat) (st : LineState) {spaces : List Char}
    (h : skipSpace spaces = []) : lineTokens (fuel + 1) st (spaces ++ r.chars) = st := by
  have hgap : skipSpace r.chars = '#' :: r.text := by
    unfold skipSpace Remark.chars
    rw [List.dropWhile_append_of_pos, List.dropWhile_cons_of_neg (by decide)]
    intro c hc
    rcases r.gap_margin c hc with rfl | rfl <;> decide
  have hskip : skipSpace (spaces ++ r.chars) = '#' :: r.text := by
    unfold skipSpace at h hgap ⊢
    rw [List.dropWhile_append, h, hgap]
    rfl
  have hstep : tokenStep st ('#' :: r.text) = some (st, []) := by
    show some (st, r.text.dropWhile fun x => x != '\r' && x != '\n') = _
    rw [dropWhile_inLine r.text_inLine]
  rw [lineTokens_succ, hskip, hstep]
  exact lineTokens_nil fuel st

/-- **A line that is read to its end has the same tokens in front of a remark.** -/
theorem lineTokens_remark (r : Remark) (extra : Nat) : ∀ (fuel : Nat) {st : LineState} {s : List Char},
    readsThrough fuel st s = true →
      lineTokens (fuel + extra + 1) st (s ++ r.chars) = lineTokens fuel st s
        ∧ (lineTokens fuel st s).isFinished = true
  | 0, _, _, h => nomatch h
  | fuel + 1, st, s, h => by
      unfold readsThrough at h
      dsimp only at h
      rw [lineTokens_succ fuel st s]
      cases hskip : skipSpace s with
      | nil =>
          rw [hskip] at h
          exact ⟨lineTokens_mark r _ st hskip, h⟩
      | cons d t =>
          rw [hskip] at h
          dsimp only [List.isEmpty_cons] at h ⊢
          rw [if_neg Bool.false_ne_true] at h ⊢
          have hbehind : skipSpace (s ++ r.chars) = d :: (t ++ r.chars) := by
            unfold skipSpace at hskip ⊢
            rw [List.dropWhile_append, hskip]
            rfl
          rw [lineTokens_succ, hbehind]
          dsimp only [List.isEmpty_cons]
          rw [if_neg Bool.false_ne_true]
          cases htoken : tokenStep st (d :: t) with
          | none =>
              rw [htoken] at h
              cases h
          | some read =>
              obtain ⟨st', rest⟩ := read
              rw [htoken] at h
              dsimp only at h ⊢
              rcases tokenStep_remark r htoken h with hnext | ⟨rfl, hnext⟩
              · rw [hnext, show fuel + 1 + extra = fuel + extra + 1 by omega]
                exact lineTokens_remark r extra fuel h
              · rw [hnext, lineTokens_nil]
                dsimp only
                rw [lineTokens_nil]
                exact ⟨rfl, readsThrough_nil h⟩

theorem linesOf_inLine : ∀ {s : List Char}, s ≠ [] → '\n' ∉ s → linesOf s = [s]
  | [], h, _ => absurd rfl h
  | c :: rest, _, h => by
      rw [List.mem_cons, not_or] at h
      rw [linesOf]
      · cases rest with
        | nil => rfl
        | cons d rest => rw [linesOf_inLine (List.cons_ne_nil d rest) h.2]
      · exact fun hc => h.1 hc.symm

/-- What a text of one line is read to, up to its end. -/
theorem readLine_inLine {c : Char} (hc : isBlank c = false) (rest : List Char) :
    readLine {} (c :: rest)
      = if c = '#' then .next {}
        else .next (lineTokens ((c :: rest).length + 1) {} (c :: rest)) := by
  have hne : c ≠ ' ' ∧ c ≠ '\t' ∧ c ≠ Char.ofNat 12 ∧ c ≠ '\r' ∧ c ≠ '\n' := by
    refine ⟨?_, ?_, ?_, ?_, ?_⟩ <;> (rintro rfl; revert hc; decide)
  have hcolumn : columnOf 0 (c :: rest) = (0, c :: rest) := by
    rw [columnOf, if_neg (by simpa using hne.2.2.1)]
    · exact hne.1
    · exact hne.2.1
  unfold readLine
  simp [hcolumn, hne, closeIndents]

/-- A text that begins with a remark opens no block. -/
theorem opensBlock_mark {rest : List Char} (h : '\n' ∉ rest) : opensBlock ('#' :: rest) = false := by
  have hline : '\n' ∉ '#' :: rest := by simp [h]
  unfold opensBlock
  rw [linesOf_inLine (List.cons_ne_nil _ _) hline, readLines, readLine_inLine (by decide)]
  rfl

/-- A line that is read to its end opens a block if its last token is a colon. -/
theorem opensBlock_inLine {c : Char} {rest : List Char} (hc : isBlank c = false) (hmark : c ≠ '#')
    (hline : '\n' ∉ c :: rest)
    (hfinished : (lineTokens ((c :: rest).length + 1) {} (c :: rest)).isFinished = true) :
    opensBlock (c :: rest)
      = ((lineTokens ((c :: rest).length + 1) {} (c :: rest)).last == some true) := by
  unfold LineState.isFinished at hfinished
  rw [Bool.not_eq_true'] at hfinished
  unfold opensBlock
  rw [linesOf_inLine (List.cons_ne_nil _ _) hline, readLines, readLine_inLine hc, if_neg hmark]
  dsimp only
  rw [readLines, hfinished]
  rfl

/-! ## §4. THE THEOREM. -/

/-- A line that starts with no blank, is cut into tokens up to its end, and leaves no string and no
bracket open. -/
structure IsWhole (s : List Char) : Prop where
  /-- There is something in it. -/
  ne_nil : s ≠ []
  /-- It starts with no blank. -/
  head : ∀ c ∈ s.head?, isBlank c = false
  /-- It is one line. -/
  single : '\n' ∉ s
  /-- It is read to its end. -/
  reads : readsThrough (s.length + 1) {} s = true

/-- **A REMARK DOES NOT CHANGE WHETHER A LINE OPENS A BLOCK**, if the line is read to its end: its last
token decides, with a remark behind it and without. -/
theorem opensBlock_remark (r : Remark) {s : List Char} (h : IsWhole s) :
    opensBlock (s ++ r.chars) = opensBlock s := by
  obtain ⟨hne, hhead, hsingle, hreads⟩ := h
  cases s with
  | nil => exact absurd rfl hne
  | cons c rest =>
      have hc : isBlank c = false := hhead c rfl
      have hline : '\n' ∉ c :: (rest ++ r.chars) := by
        rw [← List.cons_append, List.mem_append, not_or]
        exact ⟨hsingle, r.newline_not_mem⟩
      by_cases hmark : c = '#'
      · subst hmark
        rw [List.cons_append, opensBlock_mark (List.not_mem_of_not_mem_cons hline),
          opensBlock_mark (List.not_mem_of_not_mem_cons hsingle)]
      · obtain ⟨htokens, hfinished⟩ := lineTokens_remark r (r.chars.length - 1) _ hreads
        have hlength : (c :: rest).length + 1 + (r.chars.length - 1) + 1
            = (c :: (rest ++ r.chars)).length + 1 := by
          obtain ⟨d, z, hchars, _⟩ := r.chars_head
          rw [hchars]
          simp
          omega
        rw [hlength, List.cons_append] at htokens
        rw [List.cons_append, opensBlock_inLine hc hmark hline (by rw [htokens]; exact hfinished),
          opensBlock_inLine hc hmark hsingle hfinished, htokens]

end TagTemplate.Block
