/-
  TagTemplate.Proofs.Block.Stops
  ────────────────────────────────
  **WHERE A TOKEN ENDS.**

  A space, a tab and the mark of a remark end whatever is read in front of
  them: they are no digits and no letters, stand in no operator and start no
  string.  So a reader takes the same from a text whether or not more of the
  line follows behind one of them.

    • `numberRest?_stop`, `operator?_stop`, `stringStart?_stop` — the readers
      of single tokens,
    • `stringEnd?_stop`, `shortString_append` — a string that ends.
-/
import TagTemplate.Block.Opener

namespace TagTemplate.Block

open Text

/-! ## §1. Stops. -/

/-- A character that a remark may start with, and that ends a token. -/
def IsStop (c : Char) : Prop := c = ' ' ∨ c = '\t' ∨ c = '#'

/-- A reader reads the same with this text behind what it reads from. -/
def StopsAt (tail : List Char) (read : List Char → Option (List Char)) : Prop :=
  ∀ s, read (s ++ tail) = (read s).map (· ++ tail)

/-- What a reader makes of a text, or the text as it is, in front of a stop. -/
theorem StopsAt.getD {tail : List Char} {read : List Char → Option (List Char)}
    (h : StopsAt tail read) (s : List Char) :
    (read (s ++ tail)).getD (s ++ tail) = (read s).getD s ++ tail := by
  rw [h s]
  cases read s <;> rfl

/-- The rest behind something that is read, in front of a text. -/
def behind {α : Type} (tail : List Char) (read : α × List Char) : α × List Char :=
  (read.1, read.2 ++ tail)

theorem findSome?_behind {α β : Type} {tail : List Char} (l : List α)
    {f f' : α → Option (β × List Char)} (h : ∀ x ∈ l, f' x = (f x).map (behind tail)) :
    l.findSome? f' = (l.findSome? f).map (behind tail) := by
  induction l with
  | nil => rfl
  | cons x l ih =>
      rw [List.forall_mem_cons] at h
      rw [List.findSome?_cons, List.findSome?_cons, h.1]
      cases f x with
      | none => exact ih h.2
      | some read => rfl

/-- A class of digits that a stop and an underscore do not belong to. -/
structure IsDigitClass (ok : Char → Bool) : Prop where
  /-- A stop is no digit. -/
  stop : ∀ c, IsStop c → ok c = false
  /-- Nor is an underscore. -/
  underscore : ok '_' = false

theorem isDigitClass_digit : IsDigitClass isDigit :=
  ⟨by rintro c (rfl | rfl | rfl) <;> decide, by decide⟩

/-! ## §2. Numbers. -/

section Stop

variable {c : Char} {z : List Char} (hc : IsStop c)

include hc

theorem IsStop.ne : c ≠ '_' ∧ c ≠ '.' ∧ c ≠ '\\' ∧ c ≠ '\n' ∧ c ≠ '\r' ∧ c ≠ '\'' ∧ c ≠ '"'
    ∧ isWordChar c = false := by
  rcases hc with rfl | rfl | rfl <;> decide

section Numbers

variable {ok : Char → Bool} (hok : IsDigitClass ok)

include hok

theorem digitsRest_stop (s : List Char) :
    digitsRest ok (s ++ c :: z) = digitsRest ok s ++ c :: z := by
  fun_induction digitsRest ok s with
  | case1 d rest hd ih => rw [List.cons_append, List.cons_append, digitsRest, if_pos hd, ih]
  | case2 d rest hd =>
      rw [List.cons_append, List.cons_append, digitsRest, if_neg hd]
  | case3 d rest hlone hd ih =>
      have hne : d ≠ '_' := by
        rintro rfl
        rw [hok.underscore] at hd
        cases hd
      rw [List.cons_append, digitsRest, if_pos hd, ih]
      exact fun _ _ h _ => hne h
  | case4 d rest hlone hd =>
      by_cases hne : d = '_'
      · -- an underscore that nothing follows
        have hnil : rest = [] := by
          cases rest with
          | nil => rfl
          | cons e rest => exact absurd rfl (hlone e rest hne)
        rw [hne, hnil, List.cons_append, List.nil_append, digitsRest, if_neg (by simp [hok.stop c hc])]
      · rw [List.cons_append, digitsRest, if_neg hd]
        exact fun _ _ h _ => hne h
  | case5 =>
      rw [List.nil_append, digitsRest, if_neg (by simp [hok.stop c hc])]
      exact fun _ _ h _ => hc.ne.1 h

theorem digits?_stop : StopsAt (c :: z) (digits? ok) := by
  intro s
  cases s with
  | nil =>
      rw [List.nil_append, digits?, hok.stop c hc]
      rfl
  | cons d rest =>
      rw [List.cons_append, digits?, digits?, digitsRest_stop hc hok]
      split <;> rfl

theorem basedDigits?_stop : StopsAt (c :: z) (basedDigits? ok) := by
  have hstop := hok.stop c hc
  intro s
  rcases s with _ | ⟨d, _ | ⟨e, rest⟩⟩
  · simp [basedDigits?, digits?, hc.ne, hstop]
  · by_cases hd : d = '_'
    · simp [basedDigits?, digits?, hd, hstop, hok.underscore]
    · simpa [basedDigits?, hd] using digits?_stop (z := z) hc hok [d]
  · by_cases hd : d = '_'
    · simp only [hd, List.cons_append, basedDigits?, digitsRest_stop hc hok]
      split <;> rfl
    · simpa [basedDigits?, hd] using digits?_stop (z := z) hc hok (d :: e :: rest)

end Numbers

theorem exponentRest?_stop : StopsAt (c :: z) exponentRest? := by
  have hdigits := digits?_stop (z := z) hc isDigitClass_digit
  have hne : c ≠ 'e' ∧ c ≠ 'E' ∧ c ≠ '+' ∧ c ≠ '-' ∧ isDigit c = false := by
    rcases hc with rfl | rfl | rfl <;> decide
  intro s
  rcases s with _ | ⟨d, _ | ⟨e, rest⟩⟩
  · simp [exponentRest?, hne]
  · simp [exponentRest?, digits?, hne]
  · have hwhole := hdigits (e :: rest)
    have hbehind := hdigits rest
    simp only [List.cons_append, exponentRest?] at hwhole ⊢
    split
    · split
      · exact hbehind
      · exact hwhole
    · rfl

theorem imaginaryRest?_stop : StopsAt (c :: z) imaginaryRest? := by
  have hne : c ≠ 'j' ∧ c ≠ 'J' := by rcases hc with rfl | rfl | rfl <;> decide
  intro s
  cases s with
  | nil => simp [imaginaryRest?, hne]
  | cons d rest =>
      simp only [List.cons_append, imaginaryRest?]
      split <;> rfl

theorem floatRest?_stop : StopsAt (c :: z) floatRest? := by
  have hdigits := digits?_stop (z := z) hc isDigitClass_digit
  have hexponent := exponentRest?_stop (z := z) hc
  have hpoint : c ≠ '.' := hc.ne.2.1
  intro s
  unfold floatRest?
  rw [hdigits s]
  cases hread : digits? isDigit s with
  | none =>
      rcases s with _ | ⟨d, rest⟩
      · simp [hpoint]
      · by_cases hd : d = '.'
        · simp only [hd, List.cons_append, Option.map_none, hdigits rest]
          cases digits? isDigit rest with
          | none => rfl
          | some after => simp [hexponent.getD]
        · simp [hd]
  | some rest =>
      rcases rest with _ | ⟨d, rest⟩
      · simpa [hpoint] using hexponent []
      · by_cases hd : d = '.'
        · simp [hd, hdigits.getD, hexponent.getD]
        · simpa [hd] using hexponent (d :: rest)

theorem wholeRest?_stop : StopsAt (c :: z) wholeRest? := by
  have hhex : IsDigitClass isHexDigit := ⟨by rintro c (rfl | rfl | rfl) <;> decide, by decide⟩
  have hbinary : IsDigitClass fun c => c == '0' || c == '1' :=
    ⟨by rintro c (rfl | rfl | rfl) <;> decide, by decide⟩
  have hoctal : IsDigitClass fun c => '0' ≤ c && c ≤ '7' :=
    ⟨by rintro c (rfl | rfl | rfl) <;> decide, by decide⟩
  have hzero : IsDigitClass fun c => c == '0' :=
    ⟨by rintro c (rfl | rfl | rfl) <;> decide, by decide⟩
  have hne : c ≠ 'x' ∧ c ≠ 'X' ∧ c ≠ 'b' ∧ c ≠ 'B' ∧ c ≠ 'o' ∧ c ≠ 'O' ∧ c ≠ '0' := by
    rcases hc with rfl | rfl | rfl <;> decide
  have hrest := digitsRest_stop (z := z) hc hzero
  have hdigits := digits?_stop (z := z) hc isDigitClass_digit
  intro s
  rcases s with _ | ⟨d, _ | ⟨b, rest⟩⟩
  · simpa [wholeRest?, hne] using hdigits []
  · by_cases hd : d = '0'
    · simpa [wholeRest?, hd, hne] using hrest []
    · simpa [wholeRest?, hd] using hdigits [d]
  · by_cases hd : d = '0'
    · have hall := hrest (b :: rest)
      simp only [List.cons_append] at hall
      simp only [hd, List.cons_append, wholeRest?, hall, basedDigits?_stop hc hhex rest,
        basedDigits?_stop hc hbinary rest, basedDigits?_stop hc hoctal rest]
      by_cases hx : (b == 'x' || b == 'X') = true
      · rw [if_pos hx, if_pos hx]
        cases basedDigits? isHexDigit rest <;> rfl
      rw [if_neg hx, if_neg hx]
      by_cases hb : (b == 'b' || b == 'B') = true
      · rw [if_pos hb, if_pos hb]
        cases basedDigits? (fun c => c == '0' || c == '1') rest <;> rfl
      rw [if_neg hb, if_neg hb]
      by_cases ho : (b == 'o' || b == 'O') = true
      · rw [if_pos ho, if_pos ho]
        cases basedDigits? (fun c => '0' ≤ c && c ≤ '7') rest <;> rfl
      rw [if_neg ho, if_neg ho]
      rfl
    · simpa [wholeRest?, hd] using hdigits (d :: b :: rest)

theorem numberRest?_stop : StopsAt (c :: z) numberRest? := by
  have hdigits := digits?_stop (z := z) hc isDigitClass_digit
  have himaginary := imaginaryRest?_stop (z := z) hc
  intro s
  have hfirst : (digits? isDigit (s ++ c :: z)).bind imaginaryRest?
      = ((digits? isDigit s).bind imaginaryRest?).map (· ++ c :: z) := by
    rw [hdigits s]
    cases digits? isDigit s with
    | none => rfl
    | some rest => exact himaginary rest
  unfold numberRest?
  rw [hfirst, floatRest?_stop hc s, wholeRest?_stop hc s]
  cases (digits? isDigit s).bind imaginaryRest? with
  | some rest => rfl
  | none =>
      cases floatRest? s with
      | some rest => exact congrArg some (himaginary.getD rest)
      | none => rfl

/-! ## §3. Operators and strings. -/

omit hc in
theorem dropStart?_stop {start : List Char} (hstart : c ∉ start) :
    StopsAt (c :: z) (dropStart? start) := by
  induction start with
  | nil => exact fun _ => rfl
  | cons p start ih =>
      rw [List.mem_cons, not_or] at hstart
      obtain ⟨hne, hrest⟩ := hstart
      intro s
      cases s with
      | nil => simp [dropStart?, Ne.symm hne]
      | cons d s =>
          simp only [List.cons_append, dropStart?]
          split
          · exact ih hrest s
          · rfl

theorem operator?_stop (s : List Char) :
    operator? (s ++ c :: z) = (operator? s).map (behind (c :: z)) := by
  have hoperators : ∀ op ∈ operators, c ∉ op := by
    have hall : ∀ op ∈ operators, ' ' ∉ op ∧ '\t' ∉ op ∧ '#' ∉ op := by decide
    intro op hop
    obtain ⟨hspace, htab, hmark⟩ := hall op hop
    rcases hc with rfl | rfl | rfl
    · exact hspace
    · exact htab
    · exact hmark
  refine findSome?_behind operators fun op hop => ?_
  rw [dropStart?_stop (hoperators op hop) s]
  cases dropStart? op s <;> rfl

/-- Whether a string starts behind some letters. -/
def stringAt? (n : Nat) (s : List Char) : Option (Char × List Char) :=
  match s.drop n with
  | q :: rest =>
    if (q == '\'' || q == '"') && stringMarks.contains ((s.take n).map Char.toLower) then
      some (q, rest)
    else none
  | [] => none

theorem stringAt?_stop (n : Nat) (s : List Char) :
    stringAt? n (s ++ c :: z) = (stringAt? n s).map (behind (c :: z)) := by
  have hquote : (c == '\'' || c == '"') = false := by
    rcases hc with rfl | rfl | rfl <;> decide
  unfold stringAt?
  rcases Nat.lt_trichotomy n s.length with hlt | rfl | hgt
  · rw [List.drop_append_of_le_length (Nat.le_of_lt hlt),
      List.take_append_of_le_length (Nat.le_of_lt hlt), List.drop_eq_getElem_cons hlt]
    dsimp only [List.cons_append]
    split <;> rfl
  · -- a stop is no quote
    rw [List.drop_left, List.drop_length]
    dsimp only
    rw [hquote]
    rfl
  · -- nor a letter in front of one
    have hmarks : ∀ letters ∈ stringMarks, ' ' ∉ letters ∧ '\t' ∉ letters ∧ '#' ∉ letters := by
      decide
    obtain ⟨k, rfl⟩ : ∃ k, n = s.length + (k + 1) := ⟨n - s.length - 1, by omega⟩
    have hstop : stringMarks.contains (((s ++ c :: z).take (s.length + (k + 1))).map Char.toLower)
        = false := by
      rw [List.take_length_add_append, List.map_append, List.take_succ_cons, List.map_cons]
      refine Bool.eq_false_iff.mpr fun hmem => ?_
      have hnone := hmarks _ (List.contains_iff_mem.mp hmem)
      rcases hc with rfl | rfl | rfl
      · exact hnone.1 (List.mem_append_right _ List.mem_cons_self)
      · exact hnone.2.1 (List.mem_append_right _ List.mem_cons_self)
      · exact hnone.2.2 (List.mem_append_right _ List.mem_cons_self)
    rw [hstop, List.drop_eq_nil_of_le (by omega : s.length ≤ _)]
    simp only [Bool.and_false]
    split <;> rfl

theorem stringStart?_stop (s : List Char) :
    stringStart? (s ++ c :: z) = (stringStart? s).map (behind (c :: z)) :=
  findSome?_behind [0, 1, 2] fun n _ => stringAt?_stop hc n s

omit hc in
/-- What starts no escape is no backslash. -/
theorem ne_backslash {d : Char} {rest : List Char}
    (hescape : ∀ e more, d = '\\' → rest = e :: more → False) (hlone : d = '\\' → rest = [] → False) :
    d ≠ '\\' := by
  intro hd
  cases rest with
  | nil => exact hlone hd rfl
  | cons e more => exact hescape e more hd rfl

omit hc in
theorem stringEnd?_stop {quotes : List Char} (hquotes : c ∉ quotes) {s after : List Char}
    (h : stringEnd? quotes s = some after) :
    stringEnd? quotes (s ++ c :: z) = some (after ++ c :: z) := by
  have hcut := dropStart?_stop (z := z) hquotes
  fun_induction stringEnd? quotes s with
  | case1 => cases h
  | case2 d rest hd ih => rw [List.cons_append, List.cons_append, stringEnd?, if_neg hd, ih h]
  | case3 => cases h
  | case4 d rest hescape hlone found hfound =>
      obtain rfl := Option.some.inj h
      have hne := ne_backslash hescape hlone
      have hfound := (hcut (d :: rest)).trans (congrArg (Option.map (· ++ c :: z)) hfound)
      rw [List.cons_append] at hfound ⊢
      rw [stringEnd?, hfound]
      · rfl
      · exact fun _ _ hd _ => hne hd
      · exact fun hd _ => hne hd
  | case5 d rest hescape hlone hnone ih =>
      have hne := ne_backslash hescape hlone
      have hnone := (hcut (d :: rest)).trans (congrArg (Option.map (· ++ c :: z)) hnone)
      rw [List.cons_append] at hnone ⊢
      rw [stringEnd?, hnone]
      · exact ih h
      · exact fun _ _ hd _ => hne hd
      · exact fun hd _ => hne hd
  | case6 => cases h

omit hc in
/-- A string that is closed is closed in front of anything. -/
theorem shortString_append {quote : Char} {s after : List Char} (tail : List Char)
    (h : shortString quote s = .closed after) :
    shortString quote (s ++ tail) = .closed (after ++ tail) := by
  fun_induction shortString quote s with
  | case1 => cases h
  | case2 => cases h
  | case3 d rest hbreak hreturn ih =>
      rw [List.cons_append, List.cons_append, shortString]
      · exact ih h
      · exact hbreak
      · intro more hd hrest
        cases rest with
        | nil => cases h
        | cons e rest => exact hreturn _ hd (by rw [(List.cons.inj hrest).1])
  | case4 => cases h
  | case5 d rest _ _ hescape hlone hquote =>
      have hne := ne_backslash hescape hlone
      obtain rfl := StringRest.closed.inj h
      rw [List.cons_append, shortString, if_pos hquote]
      · exact fun _ hd _ => hne hd
      · exact fun _ hd _ => hne hd
      · exact fun _ _ hd _ => hne hd
      · exact fun hd _ => hne hd
  | case6 => cases h
  | case7 d rest _ _ hescape hlone hquote hbreak ih =>
      have hne := ne_backslash hescape hlone
      rw [List.cons_append, shortString, if_neg hquote, if_neg hbreak]
      · exact ih h
      · exact fun _ hd _ => hne hd
      · exact fun _ hd _ => hne hd
      · exact fun _ _ hd _ => hne hd
      · exact fun hd _ => hne hd
  | case8 => cases h

/-- The quote and the body of a string in triple quotes that starts here. -/
def tripleStart? (s : List Char) : Option (Char × List Char) :=
  match stringStart? s with
  | some (q, after) => (dropStart? [q, q] after).map fun body => (q, body)
  | none => none

omit hc in
theorem stringStart?_quote {s body : List Char} {q : Char} (h : stringStart? s = some (q, body)) :
    q = '\'' ∨ q = '"' := by
  obtain ⟨n, _, hn⟩ := List.exists_of_findSome?_eq_some h
  split at hn
  · split at hn
    next hq =>
      obtain ⟨rfl, rfl⟩ := Prod.mk.inj (Option.some.inj hn)
      simpa using (Bool.and_eq_true_iff.mp hq).1
    · cases hn
  · cases hn

omit hc in
theorem tripleStart?_quote {s body : List Char} {q : Char} (h : tripleStart? s = some (q, body)) :
    q = '\'' ∨ q = '"' := by
  unfold tripleStart? at h
  split at h
  next start hstart =>
    obtain ⟨_, _, heq⟩ := Option.map_eq_some_iff.mp h
    rw [← (Prod.mk.inj heq).1]
    exact stringStart?_quote hstart
  next => cases h

theorem not_mem_quotes {q : Char} (hq : q = '\'' ∨ q = '"') : c ∉ [q, q] ∧ c ∉ [q, q, q] := by
  rcases hc with rfl | rfl | rfl <;> rcases hq with rfl | rfl <;> decide

theorem tripleStart?_stop (s : List Char) :
    tripleStart? (s ++ c :: z) = (tripleStart? s).map (behind (c :: z)) := by
  unfold tripleStart?
  rw [stringStart?_stop hc s]
  cases hstart : stringStart? s with
  | none => rfl
  | some start =>
      obtain ⟨q, after⟩ := start
      show (dropStart? [q, q] (after ++ c :: z)).map _ = _
      rw [dropStart?_stop (not_mem_quotes hc (stringStart?_quote hstart)).1 after]
      show _ = Option.map _ ((dropStart? [q, q] after).map _)
      cases dropStart? [q, q] after <;> rfl

end Stop

end TagTemplate.Block
