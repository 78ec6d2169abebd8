/-
  TagTemplate.Proofs.Script.Reading
  ────────────────────────────────
  **WHAT A PARSER DOES WITH THE TOKENS AHEAD.**

  In its first run a parser looks at the tokens that are still to come and at
  nothing else.  `Yields p ts a us` says that `p`, before the tokens `ts`, has
  the value `a` and leaves `us`; `Rejects p ts` says that it takes another way
  to read them.

  There is one lemma for each combinator: sequence, choice, option, repetition
  and commas.  Proofs about the rules of the grammar use these and never open a
  combinator.
-/
import TagTemplate.Script.Parse.Stmt
import TagTemplate.Proofs.Script.Lexeme

namespace TagTemplate.Script

/-! ## §1. The tokens ahead. -/

/-- What a parser sees from a cursor on. -/
def Source.upcoming (s : Source) (c : Cursor) : List Seen :=
  (s.tokens.toList.drop c.pos).map Token.seen

/-- The next token is the first of those ahead. -/
theorem Source.next_of_upcoming {s : Source} {c : Cursor} {x : Seen} {xs : List Seen}
    (h : s.upcoming c = x :: xs) :
    ∃ t, s.tokens[c.pos]? = some t ∧ t.seen = x ∧ s.upcoming { c with pos := c.pos + 1 } = xs := by
  unfold Source.upcoming at h ⊢
  cases hdrop : s.tokens.toList.drop c.pos with
  | nil => rw [hdrop] at h; cases h
  | cons t ts =>
      rw [hdrop, List.map_cons] at h
      injection h with ht hts
      refine ⟨t, ?_, ht, ?_⟩
      · rw [← Array.getElem?_toList, ← List.head?_drop, hdrop]
        rfl
      · rw [← hts, ← List.drop_drop, hdrop]
        rfl

/-- How many tokens are ahead. -/
theorem Source.upcoming_length (s : Source) (c : Cursor) :
    (s.upcoming c).length = s.tokens.size - c.pos := by
  unfold Source.upcoming
  rw [List.length_map, List.length_drop, Array.length_toList]

/-- What the kinds with characters show of their line. -/
theorem Token.line_of_seen {t : Token} {x : Seen} (h : t.seen = x)
    (hkind : x.kind.isLayout = false) : t.line = x.line := by
  subst h
  unfold Token.seen at hkind ⊢
  dsimp only at hkind ⊢
  rw [hkind]
  rfl

theorem Token.kind_of_seen {t : Token} {x : Seen} (h : t.seen = x) : t.kind = x.kind := by
  subst h
  rfl

theorem Token.text_of_seen {t : Token} {x : Seen} (h : t.seen = x) : t.text = x.text := by
  subst h
  rfl

namespace Parse

/-! ## §2. Having a value and rejecting. -/

/-- A parser has a value before some tokens and leaves others. -/
def Yields {α : Type} (p : Parse α) (ts : List Seen) (a : α) (us : List Seen) : Prop :=
  ∀ s c, s.diagnose = false → s.upcoming c = ts →
    ∃ next, p s c = .ok a next ∧ s.upcoming next = us

/-- A parser takes another way before some tokens. -/
def Rejects {α : Type} (p : Parse α) (ts : List Seen) : Prop :=
  ∀ s c, s.diagnose = false → s.upcoming c = ts → ∃ far, p s c = .reject far

variable {α β : Type} {p : Parse α} {f : α → Parse β} {ts us vs : List Seen} {a : α} {b : β}

theorem Yields.pure : (Pure.pure a : Parse α).Yields ts a ts := fun _ c _ h => ⟨c, rfl, h⟩

theorem Rejects.reject : (reject : Parse α).Rejects ts := fun _ c _ _ => ⟨c.far, rfl⟩

/-! ## §3. Sequences. -/

theorem bind_apply (p : Parse α) (f : α → Parse β) (s : Source) (c : Cursor) :
    (p >>= f) s c = match p s c with
      | .ok a next => f a s next
      | .reject far => .reject far
      | .halt h => .halt h := rfl

theorem Yields.bind (hp : p.Yields ts a us) (hf : (f a).Yields us b vs) :
    (p >>= f).Yields ts b vs := by
  intro s c hs hc
  obtain ⟨next, hok, hnext⟩ := hp s c hs hc
  rw [bind_apply, hok]
  exact hf s next hs hnext

theorem Rejects.bind (hp : p.Rejects ts) : (p >>= f).Rejects ts := by
  intro s c hs hc
  obtain ⟨far, hreject⟩ := hp s c hs hc
  rw [bind_apply, hreject]
  exact ⟨far, rfl⟩

theorem Yields.bind_rejects (hp : p.Yields ts a us) (hf : (f a).Rejects us) :
    (p >>= f).Rejects ts := by
  intro s c hs hc
  obtain ⟨next, hok, hnext⟩ := hp s c hs hc
  rw [bind_apply, hok]
  exact hf s next hs hnext

theorem Yields.map {g : α → β} (hp : p.Yields ts a us) : (g <$> p).Yields ts (g a) us :=
  hp.bind Yields.pure

/-! ## §4. Choices. -/

theorem Yields.orElse_left {q : Parse α} (hp : p.Yields ts a us) :
    (p <|> q).Yields ts a us := by
  intro s c hs hc
  obtain ⟨next, hok, hnext⟩ := hp s c hs hc
  refine ⟨next, ?_, hnext⟩
  show Parse.orElse p (fun _ => q) s c = _
  unfold Parse.orElse
  rw [hok]

theorem Yields.orElse_right {q : Parse α} (hp : p.Rejects ts) (hq : q.Yields ts a us) :
    (p <|> q).Yields ts a us := by
  intro s c hs hc
  obtain ⟨far, hreject⟩ := hp s c hs hc
  obtain ⟨next, hok, hnext⟩ := hq s { c with far } hs hc
  refine ⟨next, ?_, hnext⟩
  show Parse.orElse p (fun _ => q) s c = _
  unfold Parse.orElse
  rw [hreject]
  exact hok

theorem Rejects.orElse {q : Parse α} (hp : p.Rejects ts) (hq : q.Rejects ts) :
    (p <|> q).Rejects ts := by
  intro s c hs hc
  obtain ⟨far, hreject⟩ := hp s c hs hc
  obtain ⟨far', hreject'⟩ := hq s { c with far } hs hc
  refine ⟨far', ?_⟩
  show Parse.orElse p (fun _ => q) s c = _
  unfold Parse.orElse
  rw [hreject]
  exact hreject'

theorem Yields.optional (hp : p.Yields ts a us) : (optional p).Yields ts (some a) us := by
  intro s c hs hc
  obtain ⟨next, hok, hnext⟩ := hp s c hs hc
  unfold Parse.optional
  rw [hok]
  exact ⟨next, rfl, hnext⟩

theorem Rejects.optional (hp : p.Rejects ts) : (optional p).Yields ts none ts := by
  intro s c hs hc
  obtain ⟨far, hreject⟩ := hp s c hs hc
  unfold Parse.optional
  rw [hreject]
  exact ⟨_, rfl, hc⟩

/-! ## §5. Looking ahead. -/

variable {x : Seen} {xs : List Seen}

theorem Yields.peek_bind {f : Token → Parse β}
    (h : ∀ t : Token, t.seen = x → (f t).Yields (x :: xs) b vs) :
    (peek >>= f).Yields (x :: xs) b vs := by
  intro s c hs hc
  obtain ⟨t, hget, hseen, _⟩ := Source.next_of_upcoming hc
  rw [bind_apply]
  unfold peek
  rw [hget]
  exact h t hseen s _ hs hc

theorem Rejects.peek_bind {f : Token → Parse β}
    (h : ∀ t : Token, t.seen = x → (f t).Rejects (x :: xs)) :
    (peek >>= f).Rejects (x :: xs) := by
  intro s c hs hc
  obtain ⟨t, hget, hseen, _⟩ := Source.next_of_upcoming hc
  rw [bind_apply]
  unfold peek
  rw [hget]
  exact h t hseen s _ hs hc

theorem Yields.peekAt_one_bind {y : Seen} {f : Token → Parse β}
    (h : ∀ t : Token, t.seen = y → (f t).Yields (x :: y :: xs) b vs) :
    (peekAt 1 >>= f).Yields (x :: y :: xs) b vs := by
  intro s c hs hc
  obtain ⟨_, _, _, hnext⟩ := Source.next_of_upcoming hc
  obtain ⟨t, hget, hseen, _⟩ := Source.next_of_upcoming hnext
  rw [bind_apply]
  unfold peekAt
  rw [hget]
  exact h t hseen s _ hs hc

theorem advance_yields : advance.Yields (x :: xs) () xs := by
  intro s c _ hc
  obtain ⟨_, _, _, hnext⟩ := Source.next_of_upcoming hc
  exact ⟨_, rfl, hnext⟩

/-- The first run looks for no mistakes. -/
theorem diagnosing_yields : diagnosing.Yields ts false ts := fun _ c hs hc =>
  ⟨c, by unfold diagnosing; rw [hs], hc⟩

theorem Yields.plainly (hp : p.Yields ts a us) : (plainly p).Yields ts a us :=
  fun s c _ hc => hp { s with diagnose := false } c rfl hc

/-- A place is only ever handed on. -/
theorem Yields.place_bind {f : Nat → Parse β} (h : ∀ n, (f n).Yields ts b us) :
    (place >>= f).Yields ts b us := fun s c hs hc => h c.pos s c hs hc

theorem Rejects.place_bind {f : Nat → Parse β} (h : ∀ n, (f n).Rejects ts) :
    (place >>= f).Rejects ts := fun s c hs hc => h c.pos s c hs hc

/-- There is room for one step more than there are tokens. -/
theorem Yields.room_bind {f : Nat → Parse β} (h : (f ((x :: xs).length + 1)).Yields (x :: xs) b us) :
    (room >>= f).Yields (x :: xs) b us := by
  intro s c hs hc
  have hlength := s.upcoming_length c
  rw [hc] at hlength
  have hroom : s.tokens.size + 1 - c.pos = (x :: xs).length + 1 := by
    rw [List.length_cons] at hlength ⊢
    omega
  rw [bind_apply]
  unfold room
  dsimp only
  rw [hroom]
  exact h s c hs hc

/-! ## §6. Repetition. -/

/-- A parser accepts some values in a row and then rejects; each takes a token at least. -/
inductive Repeats (p : Parse α) : List Seen → List α → List Seen → Prop
  /-- It rejects. -/
  | stop {ts : List Seen} : p.Rejects ts → Repeats p ts [] ts
  /-- It accepts once more. -/
  | next {ts us vs : List Seen} {a : α} {as : List α} :
      p.Yields ts a us → us.length < ts.length → Repeats p us as vs → Repeats p ts (a :: as) vs

theorem Repeats.manyGo {as : List α} (h : Repeats p ts as us) : ∀ (fuel : Nat) (acc : List α),
    ts.length < fuel → (manyGo p fuel acc).Yields ts (acc.reverse ++ as) us := by
  induction h with
  | stop hreject =>
      intro fuel acc hf
      cases fuel with
      | zero => cases hf
      | succ fuel =>
          rw [List.append_nil]
          exact hreject.optional.bind Yields.pure
  | @next ts us vs a as hyields hlt _ ih =>
      intro fuel acc hf
      cases fuel with
      | zero => cases hf
      | succ fuel =>
          have hmore := ih fuel (a :: acc) (by omega)
          rw [List.reverse_cons, List.append_assoc] at hmore
          exact hyields.optional.bind hmore

theorem Repeats.length_le {as : List α} (h : Repeats p ts as us) : us.length ≤ ts.length := by
  induction h with
  | stop => exact Nat.le_refl _
  | next _ hlt _ ih => omega

/-- Where something is left there was something before. -/
theorem Repeats.many {as : List α} (h : Repeats p ts as (x :: xs)) :
    (many p).Yields ts as (x :: xs) := by
  cases ts with
  | nil => exact absurd h.length_le (by simp)
  | cons => exact Yields.room_bind (h.manyGo _ [] (Nat.lt_succ_self _))

/-- A loop goes on from a value before some tokens and ends with another one; it has a step more than
there are tokens. -/
def Loops (step : α → Parse α) (a : α) (ts : List Seen) (b : α) (us : List Seen) : Prop :=
  ∀ fuel, ts.length < fuel → (loopGo step fuel a).Yields ts b us

theorem Loops.stop {step : α → Parse α} (h : (step a).Rejects ts) : Loops step a ts a ts := by
  intro fuel hf
  cases fuel with
  | zero => cases hf
  | succ fuel => exact h.optional.bind Yields.pure

theorem Loops.next {step : α → Parse α} {b c : α} (h : (step a).Yields ts b us)
    (hlt : us.length < ts.length) (hmore : Loops step b us c vs) : Loops step a ts c vs := by
  intro fuel hf
  cases fuel with
  | zero => cases hf
  | succ fuel => exact h.optional.bind (hmore fuel (by omega))

theorem Loops.loop {step : α → Parse α} {b : α} (h : Loops step a (x :: xs) b us) :
    (loop step a).Yields (x :: xs) b us :=
  Yields.room_bind (h _ (Nat.lt_succ_self _))

/-- A loop that makes no step. -/
theorem Rejects.loop {step : α → Parse α} (h : (step a).Rejects (x :: xs)) :
    (loop step a).Yields (x :: xs) a (x :: xs) := (Loops.stop h).loop

end Parse

/-! ## §7. Single tokens. -/

namespace Seen

/-- Whether a token is a given mark. -/
def isMark (x : Seen) (m : String) : Bool := x.kind == .mark && x.text == m

/-- Whether a token is a given reserved word. -/
def isWord (x : Seen) (w : String) : Bool := x.kind == .keyword && x.text == w

theorem isMark_iff {x : Seen} {m : String} : x.isMark m = true ↔ x.kind = .mark ∧ x.text = m := by
  unfold isMark
  rw [Bool.and_eq_true, beq_iff_eq, beq_iff_eq]

theorem isWord_iff {x : Seen} {w : String} :
    x.isWord w = true ↔ x.kind = .keyword ∧ x.text = w := by
  unfold isWord
  rw [Bool.and_eq_true, beq_iff_eq, beq_iff_eq]

end Seen

namespace Parse

variable {x : Seen} {xs : List Seen}

theorem nextIs_yields (m : String) : (nextIs m).Yields (x :: xs) (x.isMark m) (x :: xs) := by
  refine Yields.peek_bind fun t ht => ?_
  rw [Token.kind_of_seen ht, Token.text_of_seen ht]
  exact Yields.pure

theorem nextIsWord_yields (w : String) : (nextIsWord w).Yields (x :: xs) (x.isWord w) (x :: xs) := by
  refine Yields.peek_bind fun t ht => ?_
  rw [Token.kind_of_seen ht, Token.text_of_seen ht]
  exact Yields.pure

theorem mark_yields (m : String) (line : Nat) : (mark m).Yields (⟨.mark, m, line⟩ :: xs) () xs := by
  refine Yields.peek_bind fun t ht => ?_
  rw [Token.kind_of_seen ht, Token.text_of_seen ht]
  simpa using advance_yields

theorem mark_rejects {m : String} (h : x.isMark m = false) : (mark m).Rejects (x :: xs) := by
  refine Rejects.peek_bind fun t ht => ?_
  rw [Token.kind_of_seen ht, Token.text_of_seen ht]
  unfold Seen.isMark at h
  rw [h]
  exact Rejects.reject

theorem word_yields (w : String) (line : Nat) :
    (word w).Yields (⟨.keyword, w, line⟩ :: xs) () xs := by
  refine Yields.peek_bind fun t ht => ?_
  rw [Token.kind_of_seen ht, Token.text_of_seen ht]
  simpa using advance_yields

theorem word_rejects {w : String} (h : x.isWord w = false) : (word w).Rejects (x :: xs) := by
  refine Rejects.peek_bind fun t ht => ?_
  rw [Token.kind_of_seen ht, Token.text_of_seen ht]
  unfold Seen.isWord at h
  rw [h]
  exact Rejects.reject

theorem tryMark_yields (m : String) (line : Nat) :
    (tryMark m).Yields (⟨.mark, m, line⟩ :: xs) true xs := by
  refine (nextIs_yields m).bind ?_
  have hm : Seen.isMark ⟨.mark, m, line⟩ m = true := by simp [Seen.isMark]
  rw [hm]
  exact advance_yields.bind Yields.pure

theorem tryMark_passes {m : String} (h : x.isMark m = false) :
    (tryMark m).Yields (x :: xs) false (x :: xs) := by
  refine (nextIs_yields m).bind ?_
  rw [h]
  exact Yields.pure

theorem tryWord_yields (w : String) (line : Nat) :
    (tryWord w).Yields (⟨.keyword, w, line⟩ :: xs) true xs := by
  refine (nextIsWord_yields w).bind ?_
  have hw : Seen.isWord ⟨.keyword, w, line⟩ w = true := by simp [Seen.isWord]
  rw [hw]
  exact advance_yields.bind Yields.pure

theorem tryWord_passes {w : String} (h : x.isWord w = false) :
    (tryWord w).Yields (x :: xs) false (x :: xs) := by
  refine (nextIsWord_yields w).bind ?_
  rw [h]
  exact Yields.pure

theorem layout_yields (k : TokenKind) : (layout k).Yields (.layout k :: xs) () xs := by
  refine Yields.peek_bind fun t ht => ?_
  rw [Token.kind_of_seen ht]
  have hk : ((Seen.layout k).kind == k) = true := by simp [Seen.layout]
  rw [hk]
  exact advance_yields

/-- Names of ASCII characters are in their normal form. -/
theorem normalForm_ascii {w : String} (h : w.toList.all (·.toNat < 128) = true) :
    Text.normalForm w = w := if_pos h

theorem name_yields {w : String} (h : w.toList.all (·.toNat < 128) = true) (line : Nat) :
    name.Yields (⟨.name, w, line⟩ :: xs) w xs := by
  refine Yields.peek_bind fun t ht => ?_
  rw [Token.kind_of_seen ht, Token.text_of_seen ht]
  refine advance_yields.bind ?_
  rw [normalForm_ascii h]
  exact Yields.pure

/-- The line of a token with characters. -/
theorem Yields.lineHere_bind {β : Type} {f : Nat → Parse β} {b : β} {us : List Seen}
    (hkind : x.kind.isLayout = false) (h : (f x.line).Yields (x :: xs) b us) :
    (lineHere >>= f).Yields (x :: xs) b us := by
  refine Yields.bind (Yields.peek_bind fun t ht => ?_) h
  rw [Token.line_of_seen ht hkind]
  exact Yields.pure

/-- Where there is a token, there is a line. -/
theorem lineHere_ok {s : Source} {c : Cursor} (hc : s.upcoming c = x :: xs) :
    ∃ line far, lineHere s c = .ok line { c with far } := by
  obtain ⟨t, hget, _, _⟩ := Source.next_of_upcoming hc
  have hpeek : peek s c = .ok t { c with far := max c.far (c.pos + 1) } := by
    unfold peek
    rw [hget]
  refine ⟨t.line, max c.far (c.pos + 1), ?_⟩
  unfold lineHere
  rw [bind_apply, hpeek]
  rfl

/-- A rule with the same value whatever the line is. -/
theorem Yields.anyLine_bind {β : Type} {f : Nat → Parse β} {b : β} {us : List Seen}
    (h : ∀ line, (f line).Yields (x :: xs) b us) : (lineHere >>= f).Yields (x :: xs) b us := by
  intro s c hs hc
  obtain ⟨line, far, hline⟩ := lineHere_ok hc
  rw [bind_apply, hline]
  exact h line s _ hs hc

/-- A rule that rejects whatever the line is. -/
theorem Rejects.anyLine_bind {β : Type} {f : Nat → Parse β}
    (h : ∀ line, (f line).Rejects (x :: xs)) : (lineHere >>= f).Rejects (x :: xs) := by
  intro s c hs hc
  obtain ⟨line, far, hline⟩ := lineHere_ok hc
  rw [bind_apply, hline]
  exact h line s _ hs hc

/-! ## §8. Ways that the next token decides. -/

section Decides

variable {α : Type} {p q : Parse α} {a : α} {us : List Seen}

theorem Yields.unlessMark {m : String} (h : x.isMark m = false) (hq : q.Yields (x :: xs) a us) :
    (do if ← nextIs m then p else q).Yields (x :: xs) a us := by
  refine (nextIs_yields m).bind ?_
  rw [h]
  exact hq

theorem Yields.whenMark {m : String} (h : x.isMark m = true) (hp : p.Yields (x :: xs) a us) :
    (do if ← nextIs m then p else q).Yields (x :: xs) a us := by
  refine (nextIs_yields m).bind ?_
  rw [h]
  exact hp

theorem Yields.unlessWord {w : String} (h : x.isWord w = false) (hq : q.Yields (x :: xs) a us) :
    (do if ← nextIsWord w then p else q).Yields (x :: xs) a us := by
  refine (nextIsWord_yields w).bind ?_
  rw [h]
  exact hq

theorem Yields.whenWord {w : String} (h : x.isWord w = true) (hp : p.Yields (x :: xs) a us) :
    (do if ← nextIsWord w then p else q).Yields (x :: xs) a us := by
  refine (nextIsWord_yields w).bind ?_
  rw [h]
  exact hp

theorem Yields.overMark {m : String} {line : Nat} (hp : p.Yields xs a us) :
    (do if ← tryMark m then p else q).Yields (⟨.mark, m, line⟩ :: xs) a us :=
  (tryMark_yields m line).bind hp

theorem Yields.pastMark {m : String} (h : x.isMark m = false) (hq : q.Yields (x :: xs) a us) :
    (do if ← tryMark m then p else q).Yields (x :: xs) a us := (tryMark_passes h).bind hq

theorem Yields.overWord {w : String} {line : Nat} (hp : p.Yields xs a us) :
    (do if ← tryWord w then p else q).Yields (⟨.keyword, w, line⟩ :: xs) a us :=
  (tryWord_yields w line).bind hp

theorem Yields.pastWord {w : String} (h : x.isWord w = false) (hq : q.Yields (x :: xs) a us) :
    (do if ← tryWord w then p else q).Yields (x :: xs) a us := (tryWord_passes h).bind hq

/-- What only the second run does is not done in the first. -/
theorem Yields.unlessDiagnosing {ts : List Seen} (hq : q.Yields ts a us) :
    (do if ← diagnosing then p else q).Yields ts a us := diagnosing_yields.bind hq

end Decides

/-! ## §9. Commas. -/

/-- A parser reads several values, each behind a comma; what follows the last one is no comma. -/
inductive Separated {α : Type} (p : Parse α) : List Seen → List α → List Seen → Prop
  /-- No value. -/
  | nil {x : Seen} {us : List Seen} : x.isMark "," = false → Separated p (x :: us) [] (x :: us)
  /-- A comma and a value. -/
  | cons {ts us vs : List Seen} {line : Nat} {a : α} {as : List α} :
      p.Yields ts a us → us.length ≤ ts.length → Separated p us as vs →
        Separated p (⟨.mark, ",", line⟩ :: ts) (a :: as) vs

section Commas

variable {α : Type} {p : Parse α} {ts us vs : List Seen} {a : α} {as : List α}

theorem Separated.repeats (h : Separated p ts as us) : Repeats (do mark ","; p) ts as us := by
  induction h with
  | nil hx => exact .stop (mark_rejects hx).bind
  | cons hp hle _ ih => exact .next ((mark_yields "," _).bind hp) (Nat.lt_succ_of_le hle) ih

theorem Separated.ends (h : Separated p ts as us) :
    ∃ x xs, us = x :: xs ∧ x.isMark "," = false := by
  induction h with
  | nil hx => exact ⟨_, _, rfl, hx⟩
  | cons _ _ _ ih => exact ih

theorem Separated.commaList (hp : p.Yields ts a us) (h : Separated p us as vs) :
    (commaList p).Yields ts (a :: as, false) vs := by
  obtain ⟨x, xs, rfl, hx⟩ := h.ends
  exact hp.bind (h.repeats.many.bind ((tryMark_passes hx).bind Yields.pure))

/-- One value that no comma follows. -/
theorem Yields.commaList (hp : p.Yields ts a (x :: xs)) (hx : x.isMark "," = false) :
    (commaList p).Yields ts ([a], false) (x :: xs) := Separated.commaList hp (.nil hx)

end Commas

end Parse

end TagTemplate.Script
