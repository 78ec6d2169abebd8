/-
  TagTemplate.Proofs.Script.LongText
  ────────────────────────────────
  **STRINGS BETWEEN TRIPLE QUOTES.**

  Between triple quotes a text may have several lines.  Where it holds neither
  the quote nor a backslash, what is written is what it stands for: the lexer
  takes it in as one token, whatever lines it has, and the parser reads the
  characters between the quotes.

    • `step_longText`: such a string is one token.
    • `parseTree_longText`: as a program it is the text between its quotes.
-/
import TagTemplate.Proofs.Script.Suite

namespace TagTemplate.Script

open Text

/-! ## §1. Syntax. -/

/-- A text as it is written between triple quotes. -/
structure LongText where
  /-- The quote, which stands three times at both ends. -/
  quote : Char
  /-- The text. -/
  value : List Char
  /-- The quote is one. -/
  isQuote : IsQuote quote
  /-- The text ends no string, starts no escape, and is kept by what prepares code. -/
  plain : ∀ c ∈ value, c ≠ '\\' ∧ c ≠ quote ∧ c ≠ '\r' ∧ c ≠ '\x00'

namespace LongText

variable (t : LongText)

/-- The quotes at either end. -/
def quotes : List Char := [t.quote, t.quote, t.quote]

/-- The characters with the quotes. -/
def chars : List Char := t.quotes ++ (t.value ++ t.quotes)

/-- The token of such a string. -/
def seen (line : Nat) : Seen := ⟨.string, String.ofList t.chars, line⟩

theorem chars_plain : ∀ c ∈ t.chars, c ≠ '\r' ∧ c ≠ '\x00' := by
  have hquotes : ∀ c ∈ t.quotes, c ≠ '\r' ∧ c ≠ '\x00' := by
    unfold quotes
    rcases t.isQuote with h | h <;> rw [h] <;> simp
  intro c hc
  rw [chars, List.mem_append, List.mem_append] at hc
  rcases hc with hc | hc | hc
  · exact hquotes c hc
  · exact (t.plain c hc).2.2
  · exact hquotes c hc

end LongText

/-! ## §2. One token. -/

/-- Characters that are neither the quote nor a backslash are read over, up to three quotes. -/
theorem longString_stop {quote : Char} (hq : IsQuote quote) (more : List Char) : ∀ {s : List Char},
    (∀ c ∈ s, c ≠ '\\' ∧ c ≠ quote) → ∀ n,
      longString quote (s ++ quote :: quote :: quote :: more) n = some (more, n + s.count '\n')
  | [], _, n => by
      rw [List.nil_append, longString.eq_def]
      rcases hq with rfl | rfl <;> simp
  | c :: s, h, n => by
      rw [List.forall_mem_cons] at h
      have hmore := longString_stop hq more h.2
      have hne : (c == quote) = false := beq_eq_false_iff_ne.mpr h.1.2
      have hcount : (c :: s).count '\n' = s.count '\n' + if c == '\n' then 1 else 0 :=
        List.count_cons
      -- at least the three quotes are ahead
      obtain ⟨a, b, tail, htail⟩ : ∃ a b tail, s ++ quote :: quote :: quote :: more = a :: b :: tail := by
        match s with
        | [] => exact ⟨_, _, _, rfl⟩
        | [d] => exact ⟨_, _, _, rfl⟩
        | d :: e :: s => exact ⟨_, _, _, rfl⟩
      have hstep : longString quote (c :: (s ++ quote :: quote :: quote :: more)) n
          = longString quote (s ++ quote :: quote :: quote :: more) (if c == '\n' then n + 1 else n) := by
        rw [htail, longString.eq_def]
        split
        next heq => exact absurd (List.cons.inj heq).1 h.1.1
        next heq =>
          obtain ⟨rfl, rfl⟩ := List.cons.inj heq
          simp [hne]
        next heq => cases heq
      rw [List.cons_append, hstep, hmore, hcount]
      split
      next => rw [Nat.add_assoc, Nat.add_comm 1]
      next => rw [Nat.add_zero]

section Token

variable (t : LongText)

theorem stringStart?_long (more : List Char) :
    stringStart? (t.chars ++ more) = some ([], t.chars ++ more) := by
  obtain ⟨quote, value, hq, hplain⟩ := t
  rcases hq with rfl | rfl <;> rfl

/-- A string between triple quotes ends with the second three. -/
theorem stringEnd_long (more : List Char) :
    stringEnd (t.chars ++ more) = some (more, t.value.count '\n') := by
  have hstop := longString_stop t.isQuote more (fun c hc => ⟨(t.plain c hc).1, (t.plain c hc).2.1⟩) 0
  have hchars : t.chars ++ more
      = t.quote :: t.quote :: t.quote :: (t.value ++ t.quote :: t.quote :: t.quote :: more) := by
    simp [LongText.chars, LongText.quotes]
  rw [hchars, stringEnd]
  simp [hstop]

/-- **A string between triple quotes is one token**, and the lexer goes on on the line it ends on. -/
theorem step_longText (line shown : Nat) (indents : List (Nat × Nat)) (brackets : List (Char × Nat))
    (more : List Char) :
    ∃ token, (Lexer.inLine line shown indents brackets (t.chars ++ more)).step
          = .token token (.inLine (line + t.value.count '\n') shown indents brackets more)
        ∧ token.seen = t.seen line := by
  have htake : (t.chars ++ more).take ((t.chars ++ more).length - more.length) = t.chars := by
    rw [List.length_append, Nat.add_sub_cancel, List.take_left]
  have hstart := stringStart?_long t more
  have hend := stringEnd_long t more
  have hsee := emit_seen (.inLine line shown indents brackets (t.chars ++ more))
    (.inLine (line + t.value.count '\n') shown indents brackets more) .string t.chars
    (by simp [Lexer.inLine, LongText.chars, LongText.quotes]) rfl
  refine ⟨_, ?_, hsee⟩
  rw [Lexer.step_inLine]
  have hquote : startsToken t.quote = true := by
    rcases t.isQuote with h | h <;> rw [h] <;> decide
  obtain ⟨rest, hrest⟩ : ∃ rest, t.chars ++ more = t.quote :: rest := ⟨_, rfl⟩
  rw [hrest] at hstart hend htake ⊢
  rw [lineStep_token _ _ _ _ hquote, hstart]
  dsimp only
  unfold Lexer.stringStep
  rw [hend]
  dsimp only [Lexer.inLine]
  rw [htake]

/-- A string between triple quotes is all there is to read. -/
theorem tokensOf_longText :
    (tokensOf (preparedText t.chars) 1).1.toList.map Token.seen
      = [t.seen 1, .layout .newline, .layout .finish] := by
  have hprepared : preparedText t.chars = t.chars ++ ['\n'] := by
    have hlast : t.chars.getLast? ≠ some '\n' := by
      have hquote : t.chars.getLast? = some t.quote := by
        rw [LongText.chars, ← List.append_assoc, List.getLast?_append]
        rfl
      rw [hquote]
      rcases t.isQuote with h | h <;> rw [h] <;> decide
    unfold preparedText
    rw [unifyNewlines_eq_self fun c hc => (t.chars_plain c hc).1, if_neg (by simpa using hlast)]
  obtain ⟨token, hstep, hseen⟩ := step_longText t 1 1 [] [] ['\n']
  obtain ⟨shown, hend⟩ := emits_line (1 + t.value.count '\n') 1 [] [] [] [] rfl
  have hemits : Emits (.inLine 1 1 [] [] (t.chars ++ ['\n']))
      [t.seen 1, .layout .newline]
      (.atStart (1 + t.value.count '\n' + 1) shown [] []) := by
    rw [← hseen]
    refine .token hstep ?_ hend
    rw [Lexer.size_inLine, Lexer.size_inLine, List.length_append]
    simp [LongText.chars, LongText.quotes]
  have hbegin : (t.chars ++ ['\n']).head?.any startsToken = true := by
    obtain ⟨quote, value, hq, hplain⟩ := t
    rcases hq with rfl | rfl <;> rfl
  rw [hprepared]
  exact tokensOf_emits 0 (hemits.begun hbegin)

end Token

/-! ## §3. Its value. -/

/-- Where there is no backslash there is nothing to decode. -/
theorem unescaped_plain {s : List Char} (h : ∀ c ∈ s, c ≠ '\\') : unescaped true s = .ok s := by
  have hgo : ∀ (s : List Char), (∀ c ∈ s, c ≠ '\\') → ∀ fuel, s.length < fuel →
      unescapeGo true fuel s = .ok s := by
    intro s
    induction s with
    | nil => intro _ fuel hf; cases fuel <;> rfl
    | cons c s ih =>
        intro h fuel hf
        rw [List.forall_mem_cons] at h
        obtain ⟨fuel, rfl⟩ : ∃ n, fuel = n + 1 := ⟨fuel - 1, by omega⟩
        have hmore := ih h.2 fuel (by simpa using hf)
        rw [unescapeGo]
        · rw [hmore]
          rfl
        · exact fun d rest hc _ => h.1 hc
  exact hgo s h _ (Nat.lt_succ_self _)

/-- A string between triple quotes is taken apart at them. -/
theorem stringParts_long (t : LongText) :
    stringParts (String.ofList t.chars) = ⟨false, false, false, false, t.value, 3⟩ := by
  have hstart := stringStart?_long t []
  rw [List.append_nil] at hstart
  have hmark : (t.chars.head? == some 'u') = false := by
    show (some t.quote == some 'u') = false
    rcases t.isQuote with h | h <;> rw [h] <;> decide
  -- there are six characters at least
  obtain ⟨a, b, c, rest, hsix⟩ : ∃ a b c rest, t.value ++ t.quotes = a :: b :: c :: rest := by
    unfold LongText.quotes
    match t.value with
    | [] => exact ⟨_, _, _, _, rfl⟩
    | [d] => exact ⟨_, _, _, _, rfl⟩
    | [d, e] => exact ⟨_, _, _, _, rfl⟩
    | d :: e :: f :: value => exact ⟨_, _, _, _, rfl⟩
  have hchars : t.chars = t.quote :: t.quote :: t.quote :: a :: b :: c :: rest := by
    rw [LongText.chars, hsix]
    rfl
  have hinner : t.chars.drop 3 = t.value ++ t.quotes := rfl
  have hbody : (t.value ++ t.quotes).take ((t.value ++ t.quotes).length - 3) = t.value := by
    rw [List.length_append]
    exact List.take_left
  unfold stringParts
  dsimp only
  rw [String.toList_ofList, hstart]
  dsimp only
  rw [hmark]
  split
  next d e f _ _ _ _ heq =>
    rw [hchars] at heq
    injection heq with hd heq
    injection heq with he heq
    injection heq with hf _
    subst hd he hf
    have hthree : (t.quote == t.quote && t.quote == t.quote) = true := by simp
    simp only [if_pos hthree, hinner, hbody]
    rfl
  next hshort => exact absurd hchars (hshort _ _ _ _ _ _ _)

/-! ## §4. As a program. -/

section Program

open Parse

variable (t : LongText) {line : Nat} {x : Seen} {us : List Seen}

theorem LongText.begins : Begins line (t.seen line :: us) := by
  refine ⟨_, _, rfl, rfl, rfl, fun h => ?_⟩
  have hlength := congrArg (fun s : String => s.toList.length) h
  simp [LongText.seen, LongText.chars, LongText.quotes] at hlength

/-- A string is an expression. -/
theorem expression_longText (n : Nat) (hx : x.endsPhrase = true) :
    (rules (n + 2)).expression.Yields (t.seen line :: x :: us)
      (.constant (.str (String.ofList t.value) false)) (x :: us) := by
  have hcompare := Seen.endsPhrase.endsComparison hx
  have hoperand := Seen.endsComparison.endsOperand hcompare
  have hatom : (atom (rules n)).Yields (t.seen line :: x :: us) _ (x :: us) :=
    atom_string (stringParts_long t) (unescaped_plain fun c hc => (t.plain c hc).1)
      (Seen.avoids_iff.mp hx).1
  have hprimary := primary_yields hatom (.stop (suffix_rejects hoperand))
  have hfactor : (rules (n + 1)).factor.Yields (t.seen line :: x :: us) _ (x :: us) :=
    factor_yields rfl (awaited_yields rfl hprimary) hoperand
  exact expression_of_comparisons t.begins (comparisons_yields hfactor hcompare) hx

/-- A string is a program. -/
theorem program_longText {depth : Nat} (hdepth : 2 ≤ depth) :
    (program depth).Yields [t.seen line, .layout .newline, .layout .finish]
      [.mk line (.expr (.constant (.str (String.ofList t.value) false)))] [] := by
  obtain ⟨n, rfl⟩ : ∃ n, depth = n + 2 := ⟨depth - 2, by omega⟩
  have hstatement : (statement (rules (n + 2))).Yields
      [t.seen line, .layout .newline, .layout .finish]
      [.mk line (.expr (.constant (.str (String.ofList t.value) false)))] [.layout .finish] := by
    refine statement_of_begins t.begins fun u us heq hu => ?_
    rw [heq]
    refine simpleStatement_expr hu ?_
    rw [← heq]
    exact expression_longText t n rfl
  have hstop : (statement (rules (n + 2))).Rejects [.layout .finish] :=
    statement_rejects rfl (expression_rejects rfl _)
  have hall : (statements (rules (n + 2))).Yields
      [t.seen line, .layout .newline, .layout .finish]
      [.mk line (.expr (.constant (.str (String.ofList t.value) false)))] [.layout .finish] :=
    (Repeats.next hstatement (by simp) (.stop hstop)).many.bind Yields.pure
  exact hall.bind ((layout_yields .finish).bind Yields.pure)

end Program

/-- **A string between triple quotes is the text between them**, whatever lines it has. -/
theorem parseTree_longText (t : LongText) : parseTree (String.ofList t.chars)
    = .ok [.mk 1 (.expr (.constant (.str (String.ofList t.value) false)))] :=
  parseTree_of_tokens (tokensOf_longText t)
    (fun _ hdepth => program_longText t (Nat.le_trans (by decide) hdepth))
    fun h => (t.chars_plain _ h).2 rfl

end TagTemplate.Script
