/-
  TagTemplate.Proofs.Script.Grammar
  ────────────────────────────────
  **THE RULES FOR EXPRESSIONS, ONE LEMMA EACH.**

  What each rule of the grammar makes of what its parts make: an operand is an
  expression unless an operator follows, a list is what its element is, a
  call what its arguments are.  Which tokens may follow is a condition of each
  lemma, so that rules which go on for as long as they can stop in time.
-/
import TagTemplate.Proofs.Script.Reading

namespace TagTemplate.Script

/-! ## §1. What starts and what follows an expression. -/

namespace Seen

/-- Whether a token is no string and none of some marks and words. -/
def avoids (marks words : List String) (x : Seen) : Bool :=
  x.kind != .string && !(x.kind == .mark && marks.contains x.text)
    && !(x.kind == .keyword && words.contains x.text)

/-- The marks that go on with an operand. -/
def suffixMarks : List String := [".", "(", "[", "\x7b"]

/-- The marks of operators between operands. -/
def operatorMarks : List String :=
  ["**", "*", "/", "//", "%", "@", "+", "-", "<<", ">>", "&", "^", "|"]

/-- The marks of comparisons. -/
def comparisonMarks : List String := ["==", "!=", "<", "<=", ">", ">="]

/-- The words of comparisons. -/
def comparisonWords : List String := ["in", "not", "is"]

/-- Whether a token ends an operand. -/
def endsOperand (x : Seen) : Bool := x.avoids (suffixMarks ++ operatorMarks) []

/-- Whether a token ends a comparison. -/
def endsComparison (x : Seen) : Bool :=
  x.avoids (suffixMarks ++ operatorMarks ++ comparisonMarks) comparisonWords

/-- Whether a token ends an expression. -/
def endsPhrase (x : Seen) : Bool :=
  x.avoids (suffixMarks ++ operatorMarks ++ comparisonMarks ++ [":="])
    (comparisonWords ++ ["and", "or", "if", "for", "async"])

variable {x : Seen} {marks words : List String}

theorem avoids_iff : x.avoids marks words = true ↔
    x.kind ≠ .string ∧ (x.kind = .mark → x.text ∉ marks) ∧ (x.kind = .keyword → x.text ∉ words) := by
  unfold avoids
  simp [and_assoc, Decidable.or_iff_not_imp_left]

theorem avoids_mark (h : x.avoids marks words = true) {m : String} (hm : m ∈ marks) :
    x.isMark m = false := by
  refine Bool.eq_false_iff.mpr fun hx => ?_
  obtain ⟨hkind, htext⟩ := isMark_iff.mp hx
  exact (avoids_iff.mp h).2.1 hkind (htext ▸ hm)

theorem avoids_word (h : x.avoids marks words = true) {w : String} (hw : w ∈ words) :
    x.isWord w = false := by
  refine Bool.eq_false_iff.mpr fun hx => ?_
  obtain ⟨hkind, htext⟩ := isWord_iff.mp hx
  exact (avoids_iff.mp h).2.2 hkind (htext ▸ hw)

/-- What avoids some marks and words avoids fewer of them. -/
theorem avoids_mono {marks' words' : List String} (h : x.avoids marks words = true)
    (hm : marks' ⊆ marks) (hw : words' ⊆ words) : x.avoids marks' words' = true := by
  obtain ⟨hstring, hmark, hword⟩ := avoids_iff.mp h
  exact avoids_iff.mpr ⟨hstring, fun hk ht => hmark hk (hm ht), fun hk ht => hword hk (hw ht)⟩

theorem endsComparison.endsOperand (h : x.endsComparison = true) : x.endsOperand = true :=
  avoids_mono h (by decide) (by decide)

theorem endsPhrase.endsComparison (h : x.endsPhrase = true) : x.endsComparison = true :=
  avoids_mono h (by decide) (by decide)

/-- Whether a token starts an operand. -/
def startsPrimary (x : Seen) : Bool :=
  match x.kind with
  | .name => x.text != "match"
  | .string | .number => true
  | .keyword => x.text == "None"
  | .mark => x.text == "[" || x.text == "\x7b"
  | _ => false

/-- Whether a token starts an expression. -/
def startsPhrase (x : Seen) : Bool := x.startsPrimary || x.isWord "await"

/-- Whether a token makes a name before it the target of an assignment. -/
def assigns (x : Seen) : Bool := x.isMark "=" || x.isMark ":="

theorem startsPhrase_mark (h : x.startsPhrase = true) {m : String} (hm : m ≠ "[")
    (hm' : m ≠ "\x7b") : x.isMark m = false := by
  refine Bool.eq_false_iff.mpr fun hx => ?_
  obtain ⟨hkind, htext⟩ := isMark_iff.mp hx
  simp [startsPhrase, startsPrimary, isWord, hkind, htext, hm, hm'] at h

theorem startsPhrase_word (h : x.startsPhrase = true) {w : String} (hw : w ≠ "None")
    (hw' : w ≠ "await") : x.isWord w = false := by
  refine Bool.eq_false_iff.mpr fun hx => ?_
  obtain ⟨hkind, htext⟩ := isWord_iff.mp hx
  simp [startsPhrase, startsPrimary, isWord, hkind, htext, hw, hw'] at h

/-- Whether a token ends what no expression has started. -/
def startsNothing (x : Seen) : Bool :=
  x.kind.isLayout || (x.kind == .mark && [")", "]", "\x7d", ",", ":"].contains x.text)

theorem startsNothing_iff : x.startsNothing = true ↔
    x.kind.isLayout = true ∨ (x.kind = .mark ∧ x.text ∈ [")", "]", "\x7d", ",", ":"]) := by
  unfold startsNothing
  rw [Bool.or_eq_true, Bool.and_eq_true, beq_iff_eq, List.contains_iff_mem]

/-- It is a mark or has no characters. -/
theorem startsNothing_kind (h : x.startsNothing = true) : x.kind = .mark ∨ x.kind.isLayout = true := by
  rcases startsNothing_iff.mp h with hk | ⟨hk, _⟩
  · exact .inr hk
  · exact .inl hk

theorem startsNothing_word (h : x.startsNothing = true) (w : String) : x.isWord w = false := by
  refine Bool.eq_false_iff.mpr fun hx => ?_
  obtain ⟨hkind, _⟩ := isWord_iff.mp hx
  rcases startsNothing_kind h with hk | hk <;> rw [hkind] at hk <;> cases hk

end Seen

namespace Parse

variable {r : Rules} {x t u : Seen} {ts us vs : List Seen} {e : Expr}

/-! ## §2. Operators that do not come. -/

theorem operatorAt_mark {level : Nat} {m : String} {op : BinaryOp} (h : operatorAt level m = some op) :
    m ∈ Seen.operatorMarks := by
  unfold operatorAt at h
  split at h <;> first | decide | cases h

theorem operator_rejects (level : Nat) (hx : x.endsOperand = true) :
    (operator level).Rejects (x :: us) := by
  refine Rejects.peek_bind fun t ht => ?_
  rw [Token.kind_of_seen ht, Token.text_of_seen ht]
  by_cases hk : x.kind = .mark
  · have hnone : operatorAt level x.text = none := by
      refine Option.eq_none_iff_forall_ne_some.mpr fun op hop => ?_
      exact (Seen.avoids_iff.mp hx).2.1 hk (List.mem_append_right _ (operatorAt_mark hop))
    rw [hk, hnone]
    exact Rejects.reject
  · rw [if_neg (by simpa using hk)]
    exact Rejects.reject

theorem sign_rejects (hx : x.kind = .mark → signOf x.text = none) : sign.Rejects (x :: us) := by
  refine Rejects.peek_bind fun t ht => ?_
  rw [Token.kind_of_seen ht, Token.text_of_seen ht]
  by_cases hk : x.kind = .mark
  · rw [hk, hx hk]
    exact Rejects.reject
  · rw [if_neg (by simpa using hk)]
    exact Rejects.reject

theorem comparison_rejects (hx : x.endsComparison = true) : comparison.Rejects (x :: us) := by
  refine Rejects.peek_bind fun t ht => ?_
  rw [Token.kind_of_seen ht, Token.text_of_seen ht]
  obtain ⟨_, hmark, hword⟩ := Seen.avoids_iff.mp hx
  by_cases hk : x.kind = .mark
  · rw [if_pos (by simpa using hk)]
    have hmem : x.text ∉ Seen.comparisonMarks := fun h =>
      hmark hk (List.mem_append_right _ h)
    split
    all_goals first | exact Rejects.reject | skip
    all_goals exact absurd (by rw [‹x.text = _›]; decide) hmem
  · rw [if_neg (by simpa using hk)]
    by_cases hk : x.kind = .keyword
    · rw [if_pos (by simpa using hk)]
      have hmem := hword hk
      split
      all_goals first | exact Rejects.reject | skip
      all_goals exact absurd (by rw [‹x.text = _›]; decide) hmem
    · rw [if_neg (by simpa using hk)]
      exact Rejects.reject

theorem suffix_rejects (hx : x.endsOperand = true) : (suffix r e).Rejects (x :: us) := by
  refine Rejects.peek_bind fun t ht => ?_
  rw [Token.kind_of_seen ht, Token.text_of_seen ht]
  by_cases hk : x.kind = .mark
  · rw [if_pos (by simpa using hk)]
    have hmem : x.text ∉ Seen.suffixMarks := fun h =>
      (Seen.avoids_iff.mp hx).2.1 hk (List.mem_append_left _ h)
    split
    all_goals first | exact Rejects.reject | skip
    all_goals exact absurd (by rw [‹x.text = _›]; decide) hmem
  · rw [if_neg (by simpa using hk)]
    exact Rejects.reject

/-! ## §3. From operands to expressions. -/

theorem awaited_yields (ht : t.startsPrimary = true) (hp : (primary r).Yields (t :: ts) e us) :
    (awaited r).Yields (t :: ts) e us := by
  refine Yields.unlessWord (Bool.eq_false_iff.mpr fun hw => ?_) hp
  obtain ⟨hkind, htext⟩ := Seen.isWord_iff.mp hw
  simp [Seen.startsPrimary, hkind, htext] at ht

/-- An operand that is waited for. -/
theorem awaited_await {line : Nat} (hp : (primary r).Yields ts e us) :
    (awaited r).Yields (⟨.keyword, "await", line⟩ :: ts) (.await e line) us :=
  Yields.whenWord rfl
    (Yields.lineHere_bind rfl (advance_yields.bind (hp.bind Yields.pure)))

theorem factor_yields (ht : t.startsPhrase = true)
    (hp : (awaited r).Yields (t :: ts) e (x :: us)) (hx : x.endsOperand = true) :
    (factor r).Yields (t :: ts) e (x :: us) := by
  have hsign : t.kind = .mark → signOf t.text = none := by
    intro hk
    have htext : t.text = "[" ∨ t.text = "\x7b" := by
      simpa [Seen.startsPhrase, Seen.startsPrimary, Seen.isWord, hk] using ht
    rcases htext with h | h <;> rw [h] <;> rfl
  have hsigns : (many sign).Yields (t :: ts) [] (t :: ts) :=
    (Repeats.stop (sign_rejects hsign)).many
  have hpower : (mark "**").Rejects (x :: us) := mark_rejects (Seen.avoids_mark hx (by decide))
  exact hsigns.bind (hp.bind (hpower.bind.optional.bind Yields.pure))

theorem binaryAt_yields (h : r.factor.Yields ts e (x :: us)) (hx : x.endsOperand = true)
    (level : Nat) : (binaryAt r level).Yields ts e (x :: us) := by
  induction level with
  | zero => exact h
  | succ level ih => exact ih.bind (Rejects.loop (operator_rejects _ hx).bind)

theorem comparisons_yields (h : r.factor.Yields ts e (x :: us)) (hx : x.endsComparison = true) :
    (comparisons r).Yields ts e (x :: us) :=
  (binaryAt_yields h (Seen.endsComparison.endsOperand hx) 6).bind
    ((Repeats.stop (comparison_rejects hx).bind).many.bind Yields.pure)

/-- Two operands are compared by whether they are different objects. -/
theorem comparisons_notSame {line : Nat} {e' : Expr}
    (h : r.factor.Yields ts e (⟨.keyword, "is", line⟩ :: ⟨.keyword, "not", line⟩ :: us))
    (h' : r.factor.Yields us e' (x :: vs)) (hx : x.endsComparison = true)
    (hlt : vs.length < us.length) :
    (comparisons r).Yields ts (.compare e [.mk .notSame e']) (x :: vs) := by
  have hop : comparison.Yields (⟨.keyword, "is", line⟩ :: ⟨.keyword, "not", line⟩ :: us)
      .notSame us := by
    refine Yields.peek_bind fun t ht => ?_
    rw [Token.kind_of_seen ht, Token.text_of_seen ht]
    exact advance_yields.bind (Yields.overWord Yields.pure)
  have hoperand := binaryAt_yields h' (Seen.endsComparison.endsOperand hx) 6
  have hstep : (do
      let op ← comparison
      return Comparison.mk op (← bitwiseOr r)).Yields
        (⟨.keyword, "is", line⟩ :: ⟨.keyword, "not", line⟩ :: us) (.mk .notSame e') (x :: vs) :=
    hop.bind (hoperand.bind Yields.pure)
  have hlength : (x :: vs).length < us.length + 1 + 1 := by
    rw [List.length_cons]
    omega
  have hrest := Repeats.next hstep hlength (Repeats.stop (comparison_rejects hx).bind)
  exact (binaryAt_yields h (by rfl) 6).bind (hrest.many.bind Yields.pure)

theorem wordChain_yields {w : String} {op : BoolOp} {p : Parse Expr}
    (h : p.Yields ts e (x :: us)) (hx : x.isWord w = false) :
    (wordChain w op p).Yields ts e (x :: us) :=
  h.bind ((Repeats.stop (word_rejects hx).bind).many.bind Yields.pure)

/-- Two operands with a word between them. -/
theorem wordChain_two {w : String} {op : BoolOp} {p : Parse Expr} {line : Nat} {e' : Expr}
    (h : p.Yields ts e (⟨.keyword, w, line⟩ :: us)) (h' : p.Yields us e' (x :: vs))
    (hx : x.isWord w = false) (hlt : vs.length < us.length) :
    (wordChain w op p).Yields ts (.boolOp op [e, e']) (x :: vs) := by
  have hstep : (do word w; p).Yields (⟨.keyword, w, line⟩ :: us) e' (x :: vs) :=
    (word_yields w line).bind h'
  have hrest := Repeats.next hstep (Nat.succ_lt_succ hlt) (Repeats.stop (word_rejects hx).bind)
  exact h.bind (hrest.many.bind Yields.pure)

/-- An operand of `or`. -/
theorem conjunction_yields (ht : t.startsPhrase = true)
    (h : (comparisons r).Yields (t :: ts) e (x :: us)) (hx : x.isWord "and" = false) :
    (wordChain "and" .conj (inversion r)).Yields (t :: ts) e (x :: us) := by
  have hnot := Seen.startsPhrase_word ht (w := "not") (by decide) (by decide)
  have hnots : (many (word "not")).Yields (t :: ts) [] (t :: ts) :=
    (Repeats.stop (word_rejects hnot)).many
  exact wordChain_yields (hnots.bind (h.bind Yields.pure)) hx

/-- A comparison that no word goes on with is an expression. -/
theorem disjunction_yields (ht : t.startsPhrase = true)
    (h : (comparisons r).Yields (t :: ts) e (x :: us)) (hx : x.endsPhrase = true) :
    (disjunction r).Yields (t :: ts) e (x :: us) :=
  wordChain_yields (conjunction_yields ht h (Seen.avoids_word hx (by decide)))
    (Seen.avoids_word hx (by decide))

theorem expression_yields (ht : t.startsPhrase = true)
    (h : (disjunction r).Yields (t :: ts) e (x :: us)) (hx : x.endsPhrase = true) :
    (expression r).Yields (t :: ts) e (x :: us) := by
  have hlambda := Seen.startsPhrase_word ht (w := "lambda") (by decide) (by decide)
  have hif : (word "if").Rejects (x :: us) := word_rejects (Seen.avoids_word hx (by decide))
  refine Yields.unlessWord hlambda (Yields.unlessDiagnosing (Yields.pure.bind ?_))
  refine Yields.place_bind fun start => h.bind ?_
  have hadjacent : (adjacent r start true e).Yields (x :: us) () (x :: us) := by
    unfold adjacent
    exact Yields.unlessDiagnosing Yields.pure
  have hformer : (formerStatement r start true).Yields (x :: us) () (x :: us) := by
    unfold formerStatement
    exact Yields.unlessDiagnosing Yields.pure
  exact hadjacent.bind (hformer.bind (hif.bind.optional.bind Yields.pure))

/-! ## §4. Where no expression starts. -/

theorem atom_rejects (hx : x.startsNothing = true) : (atom r).Rejects (x :: us) := by
  refine Rejects.peek_bind fun t ht => ?_
  rw [Token.kind_of_seen ht, Token.text_of_seen ht]
  rcases Seen.startsNothing_iff.mp hx with hk | ⟨hk, hm⟩
  · cases hkind : x.kind <;> rw [hkind] at hk <;> first | exact Rejects.reject | cases hk
  · rw [hk]
    simp only [List.mem_cons, List.not_mem_nil, or_false] at hm
    rcases hm with h | h | h | h | h <;> rw [h] <;> exact Rejects.reject

theorem factor_rejects (hx : x.startsNothing = true) : (factor r).Rejects (x :: us) := by
  have hsign : x.kind = .mark → signOf x.text = none := by
    intro hk
    rcases Seen.startsNothing_iff.mp hx with hk' | ⟨_, hm⟩
    · rw [hk] at hk'
      cases hk'
    · simp only [List.mem_cons, List.not_mem_nil, or_false] at hm
      rcases hm with h | h | h | h | h <;> rw [h] <;> rfl
  have hsigns : (many sign).Yields (x :: us) [] (x :: us) :=
    (Repeats.stop (sign_rejects hsign)).many
  have hawait : (nextIsWord "await").Yields (x :: us) false (x :: us) :=
    Seen.startsNothing_word hx "await" ▸ nextIsWord_yields "await"
  exact hsigns.bind_rejects (Rejects.bind (hawait.bind_rejects (atom_rejects hx).bind))

theorem disjunction_rejects (hfactor : r.factor.Rejects (x :: us)) (hx : x.startsNothing = true) :
    (disjunction r).Rejects (x :: us) := by
  have hnots : (many (word "not")).Yields (x :: us) [] (x :: us) :=
    (Repeats.stop (word_rejects (Seen.startsNothing_word hx "not"))).many
  have hlevels : ∀ level, (binaryAt r level).Rejects (x :: us) := by
    intro level
    induction level with
    | zero => exact hfactor
    | succ level ih => exact ih.bind
  exact Rejects.bind (Rejects.bind (hnots.bind_rejects (Rejects.bind (Rejects.bind (hlevels 6)))))

/-- No rules of any depth find an expression where none starts. -/
theorem expression_rejects (hx : x.startsNothing = true) :
    ∀ n, (rules n).expression.Rejects (x :: us)
  | 0 => Rejects.reject
  | n + 1 => by
      have hlambda : (nextIsWord "lambda").Yields (x :: us) false (x :: us) :=
        Seen.startsNothing_word hx "lambda" ▸ nextIsWord_yields "lambda"
      have hfactor : (rules n).factor.Rejects (x :: us) := by
        cases n with
        | zero => exact Rejects.reject
        | succ n => exact factor_rejects hx
      refine hlambda.bind_rejects (diagnosing_yields.bind_rejects (Yields.pure.bind_rejects ?_))
      exact Rejects.place_bind fun _ => (disjunction_rejects hfactor hx).bind

/-! ## §5. Names and strings. -/

variable {line : Nat}

/-- An atom with what goes on with it. -/
theorem primary_yields {e' : Expr} (hatom : (atom r).Yields ts e (x :: us))
    (hloop : Loops (suffix r) e (x :: us) e' vs) : (primary r).Yields ts e' vs :=
  hatom.bind hloop.loop

theorem atom_name {w : String} (h : w.toList.all (·.toNat < 128) = true) :
    (atom r).Yields (⟨.name, w, line⟩ :: us) (.name w .load) us := by
  refine Yields.peek_bind fun t ht => ?_
  rw [Token.kind_of_seen ht, Token.text_of_seen ht, normalForm_ascii h]
  exact advance_yields.bind Yields.pure

theorem atom_none : (atom r).Yields (⟨.keyword, "None", line⟩ :: us) (.constant .none) us := by
  refine Yields.peek_bind fun t ht => ?_
  rw [Token.kind_of_seen ht, Token.text_of_seen ht]
  exact advance_yields.bind Yields.pure

theorem atom_number {w : String} :
    (atom r).Yields (⟨.number, w, line⟩ :: us) (.constant (numberValue w)) us := by
  refine Yields.peek_bind fun t ht => ?_
  rw [Token.kind_of_seen ht, Token.text_of_seen ht]
  exact advance_yields.bind Yields.pure

/-- A string that is written between quotes is what is between them. -/
theorem stringParts_chars (q : Quotation) :
    stringParts (String.ofList q.chars) = ⟨false, false, false, false, q.body, 1⟩ := by
  obtain ⟨quote, body, value, hq, hspelled⟩ := q
  have hstart : stringStart? (quote :: (body ++ [quote])) = some ([], quote :: (body ++ [quote])) := by
    rcases hq with rfl | rfl <;> rfl
  have hmark : ((quote :: (body ++ [quote])).head? == some 'u') = false := by
    rcases hq with rfl | rfl <;> rfl
  have hhead := hspelled.head_ne hq
  unfold stringParts Quotation.chars
  dsimp only
  rw [String.toList_ofList, hstart]
  dsimp only
  rw [hmark]
  split
  next a b c _ _ _ _ heq =>
    -- three quotes in a row would start the text with one
    have hne : (a == b) = false := by
      cases body with
      | nil => simp at heq
      | cons d body =>
          simp only [List.cons_append, List.cons.injEq] at heq
          rw [← heq.1, ← heq.2.1]
          exact beq_eq_false_iff_ne.mpr (hhead d rfl).symm
    simp [hne]
  next => simp

/-- One string token and no more. -/
theorem Yields.string_bind {β : Type} {w : String} {f : List Token → Parse β} {b : β}
    (hx : x.kind ≠ .string)
    (h : ∀ t : Token, t.text = w → (f [t]).Yields (x :: us) b vs) :
    (many (do
      let t ← peek
      if t.kind == .string then
        advance
        return t
      else reject) >>= f).Yields (⟨.string, w, line⟩ :: x :: us) b vs := by
  intro s c hs hc
  obtain ⟨t, hget, hseen, hnext⟩ := Source.next_of_upcoming hc
  have htoken : (do
      let t ← peek
      if t.kind == .string then
        advance
        return t
      else reject : Parse Token) s c
        = .ok t { pos := c.pos + 1, far := max c.far (c.pos + 1) } := by
    rw [bind_apply]
    unfold peek
    rw [hget]
    dsimp only
    rw [Token.kind_of_seen hseen]
    rfl
  have hstop : (do
      let t ← peek
      if t.kind == .string then
        advance
        return t
      else reject : Parse Token).Rejects (x :: us) := by
    refine Rejects.peek_bind fun u hu => ?_
    rw [Token.kind_of_seen hu, if_neg (by simpa using hx)]
    exact Rejects.reject
  obtain ⟨far, hreject⟩ := hstop s { pos := c.pos + 1, far := max c.far (c.pos + 1) } hs hnext
  obtain ⟨room, hroom⟩ : ∃ room, s.tokens.size + 1 - c.pos = room + 2 := by
    have hlength := s.upcoming_length c
    rw [hc, List.length_cons, List.length_cons] at hlength
    exact ⟨s.tokens.size + 1 - c.pos - 2, by omega⟩
  have hmany : (many (do
      let t ← peek
      if t.kind == .string then
        advance
        return t
      else reject)) s c = .ok [t] { pos := c.pos + 1, far } := by
    unfold many
    rw [bind_apply]
    unfold Parse.room
    dsimp only
    rw [hroom, manyGo, bind_apply]
    unfold Parse.optional
    rw [htoken]
    dsimp only
    rw [manyGo, bind_apply]
    unfold Parse.optional
    rw [hreject]
    rfl
  rw [bind_apply, hmany]
  exact h t (Token.text_of_seen hseen) s _ hs hnext

/-- A string token without letters in front stands for what is decoded from its body. -/
theorem atom_string {w : String} {body value : List Char} {offset : Nat}
    (hparts : stringParts w = ⟨false, false, false, false, body, offset⟩)
    (hvalue : unescaped true body = .ok value) (hx : x.kind ≠ .string) :
    (atom r).Yields (⟨.string, w, line⟩ :: x :: us)
      (.constant (.str (String.ofList value) false)) (x :: us) := by
  refine Yields.peek_bind fun t ht => ?_
  rw [Token.kind_of_seen ht]
  refine Yields.string_bind hx fun t ht => ?_
  have htext : (plainText false body).Yields (x :: us) value (x :: us) := by
    show (liftText (unescaped true body)).Yields _ _ _
    rw [hvalue]
    exact Yields.pure
  have hgather : (gather (parenthesized r) false {} t).Yields (x :: us)
      { pieces := { text := value } } (x :: us) := by
    unfold gather
    rw [ht, hparts]
    exact htext.bind Yields.pure
  dsimp only
  rw [ht, hparts]
  exact (hgather.bind Yields.pure).bind Yields.pure

/-- A string between quotes stands for what its body is written for. -/
theorem atom_text (q : Quotation) (hx : x.kind ≠ .string) :
    (atom r).Yields (⟨.string, String.ofList q.chars, line⟩ :: x :: us)
      (.constant (.str (String.ofList q.value) false)) (x :: us) :=
  atom_string (stringParts_chars q) q.spelled.unescaped hx

/-! ## §6. One expression among others. -/

/-- An expression starts here, and no name that something is bound to. -/
def Opens (ts : List Seen) : Prop :=
  ∃ t u vs, ts = t :: u :: vs ∧ t.startsPhrase = true ∧ (t.kind = .name → u.assigns = false)

theorem isNamed_yields (h : Opens ts) : isNamed.Yields ts false ts := by
  obtain ⟨t, u, vs, rfl, _, hname⟩ := h
  refine Yields.peek_bind fun tok htok => ?_
  rw [Token.kind_of_seen htok]
  by_cases hk : t.kind = .name
  · rw [hk]
    refine Yields.peekAt_one_bind fun tok htok => ?_
    have hbind : u.isMark ":=" = false := (Bool.or_eq_false_iff.mp (hname hk)).2
    unfold Seen.isMark at hbind
    rw [Token.kind_of_seen htok, Token.text_of_seen htok, hbind]
    exact Yields.pure
  · rw [if_neg (by simpa using hk)]
    exact Yields.pure

theorem keywordNext_yields (h : Opens ts) : keywordNext.Yields ts false ts := by
  obtain ⟨t, u, vs, rfl, _, hname⟩ := h
  refine Yields.peek_bind fun tok htok => ?_
  rw [Token.kind_of_seen htok]
  by_cases hk : t.kind = .name
  · rw [hk]
    refine Yields.peekAt_one_bind fun tok htok => ?_
    have hassign : u.isMark "=" = false := (Bool.or_eq_false_iff.mp (hname hk)).1
    unfold Seen.isMark at hassign
    rw [Token.kind_of_seen htok, Token.text_of_seen htok, hassign]
    exact Yields.pure
  · rw [if_neg (by simpa using hk)]
    exact Yields.pure

theorem assignmentOr_yields (hopen : Opens ts) (h : r.expression.Yields ts e (x :: us))
    (hx : x.endsPhrase = true) : (assignmentOr r).Yields ts e (x :: us) :=
  (isNamed_yields hopen).bind
    (h.bind (Yields.unlessMark (Seen.avoids_mark hx (by decide)) Yields.pure))

theorem namedExpression_yields (hopen : Opens ts) (h : r.expression.Yields ts e (x :: us))
    (hx : x.endsPhrase = true) : (namedExpression r).Yields ts e (x :: us) :=
  Yields.unlessDiagnosing (assignmentOr_yields hopen h hx)

theorem starNamed_yields (hopen : Opens ts) (h : r.expression.Yields ts e (x :: us))
    (hx : x.endsPhrase = true) : (starNamed r).Yields ts e (x :: us) := by
  have hnamed := namedExpression_yields hopen h hx
  obtain ⟨t, u, vs, rfl, ht, _⟩ := hopen
  exact Yields.unlessMark (Seen.startsPhrase_mark ht (by decide) (by decide)) hnamed

/-- One expression that no comma follows. -/
theorem starExpressions_yields (ht : t.startsPhrase = true)
    (h : r.expression.Yields (t :: ts) e (x :: us)) (hx : x.isMark "," = false) :
    (starExpressions r).Yields (t :: ts) e (x :: us) := by
  have hstar : (starExpression r).Yields (t :: ts) e (x :: us) :=
    Yields.unlessMark (Seen.startsPhrase_mark ht (by decide) (by decide)) h
  exact (hstar.commaList hx).bind Yields.pure

/-- No clause of a comprehension comes behind an expression. -/
theorem clauseNext_yields (hx : x.endsPhrase = true) :
    clauseNext.Yields (x :: us) false (x :: us) :=
  Yields.unlessWord (Seen.avoids_word hx (by decide))
    (Yields.unlessWord (Seen.avoids_word hx (by decide)) Yields.pure)

theorem clauseBehind_yields (hx : x.endsPhrase = true) :
    (clauseBehind e).Yields (x :: us) false (x :: us) := by
  unfold clauseBehind
  split
  · exact Yields.pure
  · exact clauseNext_yields hx

/-! ## §7. Calls and members. -/

theorem badComprehension_yields : (badComprehension r).Yields ts () ts := by
  unfold badComprehension
  exact Yields.unlessDiagnosing Yields.pure

theorem wrongAssignment_yields : (wrongAssignment r).Yields ts () ts := by
  unfold wrongAssignment
  exact Yields.unlessDiagnosing Yields.pure

/-- One more argument by position. -/
theorem argument_yields (first : Nat) (args : List Expr) (hopen : Opens ts)
    (h : r.expression.Yields ts e (x :: us)) (hx : x.endsPhrase = true)
    (hassign : x.isMark "=" = false) :
    (argument r first { args }).Yields ts { args := e :: args } (x :: us) := by
  have hvalue := assignmentOr_yields hopen h hx
  have hkeyword := keywordNext_yields hopen
  obtain ⟨t, u, vs, rfl, ht, _⟩ := hopen
  have hclause : (if args.isEmpty then clauseNext
      else do if ← diagnosing then clauseNext else pure false).Yields (x :: us) false (x :: us) := by
    split
    · exact clauseNext_yields hx
    · exact Yields.unlessDiagnosing Yields.pure
  refine Yields.unlessMark (Seen.startsPhrase_mark ht (by decide) (by decide)) ?_
  refine Yields.anyLine_bind fun _ => ?_
  refine Yields.pastMark (Seen.startsPhrase_mark ht (by decide) (by decide)) ?_
  refine hkeyword.bind (diagnosing_yields.bind ?_)
  refine wrongAssignment_yields.bind (Yields.place_bind fun _ => hvalue.bind ?_)
  exact Yields.unlessMark hassign (hclause.bind Yields.pure)

/-- A call without arguments. -/
theorem arguments_nil : (arguments r).Yields (⟨.mark, ")", line⟩ :: us) ([], [])
    (⟨.mark, ")", line⟩ :: us) := Yields.whenMark rfl Yields.pure

/-- A call whose arguments are read one after the other. -/
theorem arguments_cons {args : List Expr} (hopen : Opens ts)
    (h : r.expression.Yields ts e (x :: us)) (hx : x.endsPhrase = true)
    (hassign : x.isMark "=" = false)
    (hmore : ∀ first, Loops (fun a => do mark ","; if ← nextIs ")" then reject else argument r first a)
      { args := [e] } (x :: us) { args } (⟨.mark, ")", line⟩ :: vs)) :
    (arguments r).Yields ts (args.reverse, []) (⟨.mark, ")", line⟩ :: vs) := by
  have hargument := fun first => argument_yields first [] hopen h hx hassign
  obtain ⟨t, u, ws, rfl, ht, _⟩ := hopen
  refine Yields.unlessMark (Seen.startsPhrase_mark ht (by decide) (by decide)) ?_
  refine Yields.anyLine_bind fun first => (hargument first).bind ?_
  refine (hmore first).loop.bind ?_
  exact (tryMark_passes rfl).bind Yields.pure

/-- A comma and an argument behind it. -/
theorem nextArgument_yields (first : Nat) (args : List Expr) (hopen : Opens ts)
    (h : r.expression.Yields ts e (x :: us)) (hx : x.endsPhrase = true)
    (hassign : x.isMark "=" = false) :
    (do mark ","; if ← nextIs ")" then reject else argument r first { args }).Yields
      (⟨.mark, ",", line⟩ :: ts) { args := e :: args } (x :: us) := by
  have hargument := argument_yields first args hopen h hx hassign
  obtain ⟨t, u, ws, rfl, ht, _⟩ := hopen
  exact (mark_yields "," line).bind
    (Yields.unlessMark (Seen.startsPhrase_mark ht (by decide) (by decide)) hargument)

theorem suffix_call {args : List Expr} {keywords : List Keyword} {line' : Nat}
    (h : (arguments r).Yields ts (args, keywords) (⟨.mark, ")", line'⟩ :: us)) :
    (suffix r e).Yields (⟨.mark, "(", line⟩ :: ts) (.call e args keywords) us := by
  refine Yields.peek_bind fun t ht => ?_
  rw [Token.kind_of_seen ht, Token.text_of_seen ht]
  exact badComprehension_yields.bind (advance_yields.bind (h.bind ((mark_yields ")" line').bind
    Yields.pure)))

theorem suffix_member {w : String} (h : w.toList.all (·.toNat < 128) = true) {line' : Nat} :
    (suffix r e).Yields (⟨.mark, ".", line⟩ :: ⟨.name, w, line'⟩ :: us) (.attribute e w) us := by
  refine Yields.peek_bind fun t ht => ?_
  rw [Token.kind_of_seen ht, Token.text_of_seen ht]
  exact advance_yields.bind ((name_yields h line').bind Yields.pure)

/-- One element. -/
theorem suffix_item {e' : Expr} (hopen : Opens ts)
    (h : r.expression.Yields ts e' (⟨.mark, "]", line⟩ :: us)) (hstar : isStarred e' = false) :
    (suffix r e).Yields (⟨.mark, "[", line⟩ :: ts) (.subscript e e') us := by
  have hnamed := isNamed_yields hopen
  have hlower : (some <$> namedExpression r).Yields ts (some e') (⟨.mark, "]", line⟩ :: us) :=
    (namedExpression_yields hopen h rfl).bind Yields.pure
  obtain ⟨t, u, ws, rfl, ht, _⟩ := hopen
  have hitem : (sliceItem r).Yields (t :: u :: ws) e' (⟨.mark, "]", line⟩ :: us) := by
    refine Yields.unlessMark (Seen.startsPhrase_mark ht (by decide) (by decide)) ?_
    refine hnamed.bind (Yields.unlessMark (Seen.startsPhrase_mark ht (by decide) (by decide)) ?_)
    exact hlower.bind ((tryMark_passes rfl).bind Yields.pure)
  have hindex : (subscripts r).Yields (t :: u :: ws) e' (⟨.mark, "]", line⟩ :: us) := by
    refine (hitem.commaList rfl).bind ?_
    dsimp only
    rw [hstar]
    exact Yields.pure
  refine Yields.peek_bind fun t ht => ?_
  rw [Token.kind_of_seen ht, Token.text_of_seen ht]
  refine badComprehension_yields.bind (advance_yields.bind ?_)
  exact hindex.bind ((mark_yields "]" line).bind Yields.pure)

/-- The range of all positions. -/
theorem suffix_whole (hreject : ∀ x us, x.startsNothing = true → r.expression.Rejects (x :: us)) :
    (suffix r e).Yields (⟨.mark, "[", line⟩ :: ⟨.mark, ":", line⟩ :: ⟨.mark, "]", line⟩ :: us)
      (.subscript e (.slice none none none)) us := by
  have hnamed : isNamed.Yields (⟨.mark, ":", line⟩ :: ⟨.mark, "]", line⟩ :: us) false
      (⟨.mark, ":", line⟩ :: ⟨.mark, "]", line⟩ :: us) := by
    refine Yields.peek_bind fun t ht => ?_
    rw [Token.kind_of_seen ht]
    exact Yields.pure
  have hupper : (optional r.expression).Yields (⟨.mark, "]", line⟩ :: us) none
      (⟨.mark, "]", line⟩ :: us) := (hreject _ us rfl).optional
  have hitem : (sliceItem r).Yields (⟨.mark, ":", line⟩ :: ⟨.mark, "]", line⟩ :: us)
      (.slice none none none) (⟨.mark, "]", line⟩ :: us) := by
    refine Yields.unlessMark rfl (hnamed.bind (Yields.whenMark rfl (Yields.pure.bind ?_)))
    refine Yields.overMark (hupper.bind ?_)
    exact Yields.pastMark rfl (Yields.pure.bind Yields.pure)
  have hindex : (subscripts r).Yields (⟨.mark, ":", line⟩ :: ⟨.mark, "]", line⟩ :: us)
      (.slice none none none) (⟨.mark, "]", line⟩ :: us) := (hitem.commaList rfl).bind Yields.pure
  refine Yields.peek_bind fun t ht => ?_
  rw [Token.kind_of_seen ht, Token.text_of_seen ht]
  refine badComprehension_yields.bind (advance_yields.bind ?_)
  exact hindex.bind ((mark_yields "]" line).bind Yields.pure)

/-! ## §8. Lists and mappings. -/

theorem atom_list (hopen : Opens ts)
    (h : r.expression.Yields ts e (⟨.mark, "]", line⟩ :: us)) :
    (atom r).Yields (⟨.mark, "[", line⟩ :: ts) (.list [e]) us := by
  have hitem := starNamed_yields hopen h rfl
  obtain ⟨t, u, ws, rfl, ht, _⟩ := hopen
  refine Yields.peek_bind fun t ht => ?_
  rw [Token.kind_of_seen ht, Token.text_of_seen ht]
  show (bracketed r).Yields _ _ _
  unfold bracketed
  refine Yields.orElse_left ?_
  refine Yields.anyLine_bind fun _ => (mark_yields "[" line).bind ?_
  refine Yields.pastMark (Seen.startsPhrase_mark ‹_› (by decide) (by decide)) (hitem.bind ?_)
  refine (clauseBehind_yields rfl).bind ?_
  exact (tryMark_passes rfl).bind (Yields.pure.bind ((mark_yields "]" line).bind Yields.pure))

theorem atom_empty :
    (atom r).Yields (⟨.mark, "\x7b", line⟩ :: ⟨.mark, "\x7d", line⟩ :: us) (.dict []) us := by
  refine Yields.peek_bind fun t ht => ?_
  rw [Token.kind_of_seen ht, Token.text_of_seen ht]
  show (braced r).Yields _ _ _
  unfold braced
  refine Yields.orElse_left ?_
  refine Yields.anyLine_bind fun _ => (mark_yields "\x7b" line).bind ?_
  exact Yields.overMark Yields.pure

/-- The entries of another mapping. -/
theorem entry_spread (h : r.factor.Yields ts e (x :: us)) (hx : x.endsOperand = true) :
    (entry r).Yields (⟨.mark, "**", line⟩ :: ts) (.spread e) (x :: us) :=
  Yields.overMark ((binaryAt_yields h hx 6).bind Yields.pure)

theorem entry_item {e' : Expr} (hopen : Opens ts)
    (h : r.expression.Yields ts e (⟨.mark, ":", line⟩ :: t :: us))
    (ht : t.startsPhrase = true) (h' : r.expression.Yields (t :: us) e' vs) :
    (entry r).Yields ts (.item e e') vs := by
  have hbad : (badValue r line).Yields (t :: us) () (t :: us) := by
    refine (nextIs_yields "\x7d").bind ((nextIs_yields ",").bind ?_)
    rw [Seen.startsPhrase_mark ht (by decide) (by decide),
      Seen.startsPhrase_mark ht (by decide) (by decide)]
    exact Yields.unlessMark (Seen.startsPhrase_mark ht (by decide) (by decide)) Yields.pure
  have hvalue : (entryValue r).Yields (⟨.mark, ":", line⟩ :: t :: us) e' vs :=
    Yields.lineHere_bind rfl ((mark_yields ":" line).bind (hbad.bind h'))
  obtain ⟨u, v, ws, rfl, hu, _⟩ := hopen
  refine Yields.pastMark (Seen.startsPhrase_mark hu (by decide) (by decide)) ?_
  refine Yields.place_bind fun _ => h.bind ((nextIs_yields ":").bind ?_)
  exact hvalue.bind Yields.pure

theorem entries_yields {first : Entry} {es : List Entry}
    (h : Separated (entry r) ts es (⟨.mark, "\x7d", line⟩ :: us)) :
    (entries r first).Yields ts (.dict (first :: es)) us := by
  have hclose : (do mark "\x7d"; return Expr.dict (first :: es)).Yields
      (⟨.mark, "\x7d", line⟩ :: us) (.dict (first :: es)) us :=
    (mark_yields "\x7d" line).bind Yields.pure
  cases h with
  | nil hx => exact Yields.pastMark hx (Yields.pure.bind hclose)
  | cons hp _ hmore =>
      exact Yields.overMark ((Separated.commaList hp hmore).optional.bind hclose)

/-- A mapping that starts with the entries of another one. -/
theorem atom_extended {es : List Entry} (h : r.factor.Yields ts e (x :: us))
    (hx : x.endsOperand = true)
    (hmore : Separated (entry r) (x :: us) es (⟨.mark, "\x7d", line⟩ :: vs)) :
    (atom r).Yields (⟨.mark, "\x7b", line⟩ :: ⟨.mark, "**", line⟩ :: ts)
      (.dict (.spread e :: es)) vs := by
  have hbad : (badEntries r line).Yields (⟨.mark, "**", line⟩ :: ts) ()
      (⟨.mark, "**", line⟩ :: ts) := by
    unfold badEntries
    exact Yields.unlessDiagnosing Yields.pure
  refine Yields.peek_bind fun t ht => ?_
  rw [Token.kind_of_seen ht, Token.text_of_seen ht]
  show (braced r).Yields _ _ _
  unfold braced
  refine Yields.orElse_left ?_
  refine Yields.anyLine_bind fun _ => (mark_yields "\x7b" line).bind ?_
  refine Yields.pastMark rfl (Yields.whenMark rfl ?_)
  refine Yields.lineHere_bind rfl (hbad.bind (advance_yields.bind ?_))
  exact (binaryAt_yields h hx 6).bind (entries_yields hmore)

end Parse

end TagTemplate.Script
