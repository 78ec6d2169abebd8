/-
  TagTemplate.Proofs.Script.Spelling
  ────────────────────────────────
  **TEXT BETWEEN QUOTES.**

  `Spelled quote s cs` says that the characters `s`, put between two quotes,
  are written for the text `cs`: piece by piece, each piece a plain character
  or an escape (`Spells`).  Nothing in it mentions who wrote the pieces.

    • `Spelled.unescaped`: what is spelled is what the reader of escapes makes
      of it.
    • `Spelled.shortString`, `Spelled.stringEnd`: the closing quote is the first
      thing that ends the string.
    • `spelled_quoted`, `spelled_breaks_escape`: both ways of writing text into
      code spell the text they are given.
-/
import TagTemplate.Script.Literal
import TagTemplate.Proofs.Scan.Escape

namespace TagTemplate.Script

open Text

/-! ## §1. Pieces and texts. -/

/-- A quote: a single or a double one. -/
def IsQuote (c : Char) : Prop := c = '\'' ∨ c = '"'

theorem IsQuote.ne_backslash {quote : Char} (h : IsQuote quote) : quote ≠ '\\' := by
  rcases h with rfl | rfl <;> decide

/-- A character that means itself between two of the given quotes. -/
structure Plain (quote c : Char) : Prop where
  /-- It starts no escape. -/
  ne_backslash : c ≠ '\\'
  /-- It does not end the string. -/
  ne_quote : c ≠ quote
  /-- It does not end the line. -/
  ne_feed : c ≠ '\n'
  /-- It is no line end of another convention. -/
  ne_return : c ≠ '\r'
  /-- Code may hold it. -/
  ne_null : c ≠ '\x00'

/-- One character as it may be written between two of the given quotes. -/
inductive Spells (quote : Char) : List Char → Char → Prop
  /-- The character itself. -/
  | plain {c : Char} : Plain quote c → Spells quote [c] c
  /-- A letter behind a backslash. -/
  | letter {l c : Char} : letterEscape? l = some c → Spells quote ['\\', l] c
  /-- Hexadecimal digits behind a backslash and a letter that says how many. -/
  | code {l c : Char} {width : Nat} : (l, width) ∈ [('x', 2), ('u', 4), ('U', 8)] →
      c.toNat < Nat.pow 16 width → Spells quote ('\\' :: l :: hexText width c.toNat) c

/-- A text as it may be written between two of the given quotes. -/
inductive Spelled (quote : Char) : List Char → List Char → Prop
  /-- Nothing. -/
  | nil : Spelled quote [] []
  /-- A piece and what comes behind it. -/
  | cons {piece s cs : List Char} {c : Char} :
      Spells quote piece c → Spelled quote s cs → Spelled quote (piece ++ s) (c :: cs)

/-- A text that cannot leave its quotes: every backslash has a character behind it, and every quote
has a backslash before it. -/
inductive Contained (quote : Char) : List Char → Prop
  /-- Nothing. -/
  | nil : Contained quote []
  /-- A character that is neither a quote nor a backslash. -/
  | plain {c : Char} {s : List Char} :
      c ≠ '\\' → c ≠ quote → Contained quote s → Contained quote (c :: s)
  /-- Any character behind a backslash. -/
  | escaped {c : Char} {s : List Char} : Contained quote s → Contained quote ('\\' :: c :: s)

theorem Spelled.append {quote : Char} {s t cs ds : List Char} (hs : Spelled quote s cs)
    (ht : Spelled quote t ds) : Spelled quote (s ++ t) (cs ++ ds) := by
  induction hs with
  | nil => exact ht
  | cons hp _ ih =>
      rw [List.append_assoc, List.cons_append]
      exact .cons hp ih

/-- Characters that are written one by one. -/
theorem spelled_flatMap {quote : Char} {f : Char → List Char} {cs : List Char}
    (h : ∀ c, Spells quote (f c) c) : Spelled quote (cs.flatMap f) cs := by
  induction cs with
  | nil => exact .nil
  | cons c cs ih =>
      rw [List.flatMap_cons]
      exact .cons (h c) ih

/-! ## §2. Hexadecimal digits. -/

theorem hexValue?_hexDigit {n : Nat} (h : n < 16) : hexValue? (hexDigit n) = some n := by
  have hall : ∀ n < 16, hexValue? (hexDigit n) = some n := by decide
  exact hall n h

/-- A hexadecimal digit means itself between quotes. -/
theorem hexDigit_plain {quote : Char} (hq : IsQuote quote) {n : Nat} (h : n < 16) :
    Plain quote (hexDigit n) := by
  have hall : ∀ n < 16, hexDigit n ≠ '\\' ∧ (hexDigit n ≠ '\'' ∧ hexDigit n ≠ '"')
      ∧ hexDigit n ≠ '\n' ∧ hexDigit n ≠ '\r' ∧ hexDigit n ≠ '\x00' := by decide
  obtain ⟨hb, ⟨hsingle, hdouble⟩, hn, hr, h0⟩ := hall n h
  exact ⟨hb, by rcases hq with rfl | rfl <;> assumption, hn, hr, h0⟩

theorem hexText_plain {quote : Char} (hq : IsQuote quote) {c : Char} :
    ∀ {width n : Nat}, c ∈ hexText width n → Plain quote c
  | 0, _, h => by cases h
  | width + 1, n, h => by
      rw [hexText, List.mem_append, List.mem_singleton] at h
      rcases h with h | h
      · exact hexText_plain hq h
      · exact h ▸ hexDigit_plain hq (Nat.mod_lt _ (by decide))

/-- Digits may be read in two goes. -/
theorem hexDigits?_add (a b : Nat) : ∀ (acc : Nat) (s : List Char),
    hexDigits? (a + b) acc s = (hexDigits? a acc s).bind fun r => hexDigits? b r.1 r.2 := by
  induction a with
  | zero => intro acc s; rw [Nat.zero_add]; rfl
  | succ a ih =>
      intro acc s
      rw [Nat.succ_add]
      cases s with
      | nil => rfl
      | cons c s =>
          show (hexValue? c).bind _ = ((hexValue? c).bind _).bind _
          rw [Option.bind_assoc]
          congr 1
          funext v
          exact ih _ _

/-- Digits are read as the number they were written for. -/
theorem hexDigits?_hexText : ∀ (width acc n : Nat) (rest : List Char), n < Nat.pow 16 width →
    hexDigits? width acc (hexText width n ++ rest) = some (acc * Nat.pow 16 width + n, rest)
  | 0, acc, n, rest, h => by
      have hn : n = 0 := by simpa using h
      subst hn
      simp [hexText, hexDigits?]
  | width + 1, acc, n, rest, h => by
      have hq : n / 16 < Nat.pow 16 width := by
        rw [Nat.div_lt_iff_lt_mul (by decide)]
        exact h
      have hd : n % 16 < 16 := Nat.mod_lt _ (by decide)
      rw [hexText, List.append_assoc, hexDigits?_add width 1,
        hexDigits?_hexText width acc (n / 16) _ hq]
      show (hexValue? (hexDigit (n % 16))).bind _ = _
      rw [hexValue?_hexDigit hd]
      show some ((acc * Nat.pow 16 width + n / 16) * 16 + n % 16, rest) = _
      congr 2
      rw [show Nat.pow 16 (width + 1) = Nat.pow 16 width * 16 from rfl, Nat.add_mul, Nat.mul_assoc]
      omega

theorem charOfCode_toNat (c : Char) : charOfCode c.toNat = c := by
  have hvalid : c.toNat.isValidChar := c.valid
  unfold charOfCode
  rw [if_pos hvalid]
  exact Char.ofNat_toNat c

theorem toNat_le_max (c : Char) : c.toNat ≤ 0x10FFFF := by
  have hvalid : c.toNat.isValidChar := c.valid
  unfold Nat.isValidChar at hvalid
  omega

/-! ## §3. Reading escapes. -/

/-- No escape starts with a line end behind its backslash. -/
theorem letterEscape?_ne_feed {l c : Char} (h : letterEscape? l = some c) : l ≠ '\n' := by
  rintro rfl
  cases h

theorem codeLetter_ne_feed {l : Char} {width : Nat}
    (h : (l, width) ∈ [('x', 2), ('u', 4), ('U', 8)]) : l ≠ '\n' := by
  simp only [List.mem_cons, Prod.mk.injEq, List.not_mem_nil, or_false] at h
  rcases h with ⟨rfl, -⟩ | ⟨rfl, -⟩ | ⟨rfl, -⟩ <;> decide

/-- One piece is read in one step. -/
theorem unescapeGo_piece {quote : Char} {piece : List Char} {c : Char} (h : Spells quote piece c)
    (fuel : Nat) (rest : List Char) :
    unescapeGo true (fuel + 1) (piece ++ rest) = (c :: ·) <$> unescapeGo true fuel rest := by
  cases h with
  | plain hc =>
      rw [List.singleton_append]
      exact unescapeGo.eq_3 _ _ _ _ fun _ _ hb _ => hc.ne_backslash hb
  | letter hl =>
      have hn : _ ≠ '\n' := letterEscape?_ne_feed hl
      rw [List.cons_append, List.singleton_append, unescapeGo.eq_2]
      simp [hn, hl]
  | code hmem hlt =>
      rw [List.cons_append, List.cons_append, unescapeGo.eq_2]
      have hread := hexDigits?_hexText _ 0 _ rest hlt
      rw [Nat.zero_mul, Nat.zero_add] at hread
      have hmax := toNat_le_max c
      have hchar := charOfCode_toNat c
      simp only [List.mem_cons, Prod.mk.injEq, List.not_mem_nil, or_false] at hmem
      -- the three letters differ in the number of digits alone
      rcases hmem with ⟨rfl, rfl⟩ | ⟨rfl, rfl⟩ | ⟨rfl, rfl⟩ <;>
        simp [letterEscape?, hexEscape?, hread, hmax, hchar]

theorem Spells.length_pos {quote : Char} {piece : List Char} {c : Char}
    (h : Spells quote piece c) : 0 < piece.length := by
  cases h <;> simp

theorem unescapeGo_spelled {quote : Char} {s cs : List Char} (h : Spelled quote s cs) :
    ∀ fuel, s.length < fuel → unescapeGo true fuel s = .ok cs := by
  induction h with
  | nil =>
      intro fuel hf
      cases fuel with
      | zero => cases hf
      | succ fuel => rfl
  | cons hp _ ih =>
      intro fuel hf
      rw [List.length_append] at hf
      have hpos := hp.length_pos
      cases fuel with
      | zero => cases hf
      | succ fuel =>
          rw [unescapeGo_piece hp, ih fuel (by omega)]
          rfl

/-- **What is spelled is what is read.** -/
theorem Spelled.unescaped {quote : Char} {s cs : List Char} (h : Spelled quote s cs) :
    unescaped true s = .ok cs := unescapeGo_spelled h _ (Nat.lt_succ_self _)

/-! ## §4. The end of a string. -/

theorem Plain.shortString {quote c : Char} (h : Plain quote c) (rest : List Char) (lines : Nat) :
    shortString quote (c :: rest) lines = shortString quote rest lines := by
  rw [shortString.eq_2 _ _ _ _ fun _ _ hc _ => h.ne_backslash hc]
  simp [h.ne_quote, h.ne_feed]

theorem shortString_plain {quote : Char} {s : List Char} (hs : ∀ c ∈ s, Plain quote c)
    (rest : List Char) (lines : Nat) :
    shortString quote (s ++ rest) lines = shortString quote rest lines := by
  induction s with
  | nil => rfl
  | cons c s ih =>
      rw [List.forall_mem_cons] at hs
      rw [List.cons_append, hs.1.shortString, ih hs.2]

/-- One piece does not end the string. -/
theorem Spells.shortString {quote : Char} (hq : IsQuote quote) {piece : List Char} {c : Char}
    (h : Spells quote piece c) (rest : List Char) (lines : Nat) :
    shortString quote (piece ++ rest) lines = shortString quote rest lines := by
  cases h with
  | plain hc => exact hc.shortString rest lines
  | letter hl =>
      rw [List.cons_append, List.singleton_append, shortString.eq_1]
      simp [letterEscape?_ne_feed hl]
  | code hmem _ =>
      rw [List.cons_append, List.cons_append, shortString.eq_1]
      simp only [beq_iff_eq, codeLetter_ne_feed hmem, if_false]
      exact shortString_plain (fun c hc => hexText_plain hq hc) rest lines

/-- **The closing quote is what ends the string.** -/
theorem Spelled.shortString {quote : Char} (hq : IsQuote quote) {s cs : List Char}
    (h : Spelled quote s cs) (rest : List Char) (lines : Nat) :
    shortString quote (s ++ quote :: rest) lines = some (rest, lines) := by
  induction h with
  | nil =>
      rw [List.nil_append, shortString.eq_2 _ _ _ _ fun _ _ hc _ => hq.ne_backslash hc]
      simp
  | cons hp _ ih => rw [List.append_assoc, hp.shortString hq, ih]

theorem Spells.head_ne {quote : Char} (hq : IsQuote quote) {piece : List Char} {c : Char}
    (h : Spells quote piece c) : ∀ a ∈ piece.head?, a ≠ quote := by
  cases h with
  | plain hc => simpa using hc.ne_quote
  | letter _ => simpa using hq.ne_backslash.symm
  | code _ _ => simpa using hq.ne_backslash.symm

/-- What is between quotes does not start with one. -/
theorem Spelled.head_ne {quote : Char} (hq : IsQuote quote) {s cs : List Char}
    (h : Spelled quote s cs) : ∀ a ∈ s.head?, a ≠ quote := by
  cases h with
  | nil => simp
  | cons hp _ =>
      intro a ha
      obtain ⟨b, piece, rfl⟩ := List.exists_cons_of_length_pos hp.length_pos
      exact hp.head_ne hq a ha

/-- A string that no further quote follows is a short one. -/
theorem Spelled.stringEnd {quote : Char} (hq : IsQuote quote) {s cs : List Char}
    (h : Spelled quote s cs) {rest : List Char} (hr : ∀ a ∈ rest.head?, a ≠ quote) :
    stringEnd (quote :: (s ++ quote :: rest)) = some (rest, 0) := by
  have hend := h.shortString hq rest 0
  have hhead := h.head_ne hq
  cases s with
  | nil =>
      cases rest with
      | nil => simp [TagTemplate.Script.stringEnd]
      | cons a rest =>
          have ha : a ≠ quote := hr a rfl
          simp [TagTemplate.Script.stringEnd, Ne.symm ha]
  | cons a s =>
      have ha : quote ≠ a := fun he => hhead a rfl he.symm
      rw [List.cons_append] at hend ⊢
      -- three characters are there in any case: a quote, `a`, and one before or at the other quote
      obtain ⟨b, more, hb⟩ : ∃ b more, s ++ quote :: rest = b :: more :=
        List.exists_cons_of_ne_nil (by simp)
      rw [hb] at hend ⊢
      simp [TagTemplate.Script.stringEnd, ha, hend]

/-! ## §5. Text that stays between its quotes. -/

theorem Contained.of_plain {quote : Char} {s t : List Char} (h : ∀ c ∈ s, Plain quote c)
    (ht : Contained quote t) : Contained quote (s ++ t) := by
  induction s with
  | nil => exact ht
  | cons c s ih =>
      rw [List.forall_mem_cons] at h
      exact .plain h.1.ne_backslash h.1.ne_quote (ih h.2)

theorem Spells.contained {quote : Char} (hq : IsQuote quote) {piece t : List Char} {c : Char}
    (h : Spells quote piece c) (ht : Contained quote t) : Contained quote (piece ++ t) := by
  cases h with
  | plain hc => exact .plain hc.ne_backslash hc.ne_quote ht
  | letter _ => exact .escaped ht
  | code _ _ => exact .escaped (.of_plain (fun c hc => hexText_plain hq hc) ht)

theorem Spelled.contained {quote : Char} (hq : IsQuote quote) {s cs : List Char}
    (h : Spelled quote s cs) : Contained quote s := by
  induction h with
  | nil => exact .nil
  | cons hp _ ih => exact hp.contained hq ih

/-- Spelled text holds no line end and no null character. -/
theorem Spells.clean {quote : Char} (hq : IsQuote quote) {piece : List Char} {c : Char}
    (h : Spells quote piece c) : ∀ a ∈ piece, a ≠ '\n' ∧ a ≠ '\r' ∧ a ≠ '\x00' := by
  cases h with
  | plain hc => simpa using ⟨hc.ne_feed, hc.ne_return, hc.ne_null⟩
  | letter hl =>
      have hclean : ∀ l : Char, letterEscape? l = some c → l ≠ '\n' ∧ l ≠ '\r' ∧ l ≠ '\x00' := by
        intro l hl
        refine ⟨?_, ?_, ?_⟩ <;>
          · rintro rfl
            cases hl
      simpa using hclean _ hl
  | code hmem _ =>
      simp only [List.mem_cons, Prod.mk.injEq, List.not_mem_nil, or_false] at hmem
      have hdigits : ∀ width, ∀ a ∈ hexText width c.toNat, a ≠ '\n' ∧ a ≠ '\r' ∧ a ≠ '\x00' :=
        fun width a ha =>
          have hp := hexText_plain hq ha
          ⟨hp.ne_feed, hp.ne_return, hp.ne_null⟩
      rcases hmem with ⟨rfl, rfl⟩ | ⟨rfl, rfl⟩ | ⟨rfl, rfl⟩ <;>
        simpa using hdigits _

theorem Spelled.clean {quote : Char} (hq : IsQuote quote) {s cs : List Char}
    (h : Spelled quote s cs) : ∀ a ∈ s, a ≠ '\n' ∧ a ≠ '\r' ∧ a ≠ '\x00' := by
  induction h with
  | nil => intro a ha; cases ha
  | cons hp _ ih =>
      intro a ha
      rcases List.mem_append.mp ha with ha | ha
      · exact hp.clean hq a ha
      · exact ih a ha

/-! ## §6. Quoted text. -/

theorem spells_escapeCode (quote c : Char) : Spells quote (escapeCode c) c := by
  have hmax := toNat_le_max c
  unfold escapeCode
  dsimp only
  split
  next h => exact .code (by simp) (by simpa using h)
  next =>
    split
    next h => exact .code (by simp) (by simpa using h)
    next => exact .code (by simp) (Nat.lt_of_le_of_lt hmax (by decide))

/-- A printable character that is no quote and no backslash means itself. -/
theorem plain_of_isPrintable {quote c : Char} (hb : c ≠ '\\') (hq : c ≠ quote)
    (h : isPrintable c = true) : Plain quote c := by
  refine ⟨hb, hq, ?_, ?_, ?_⟩ <;>
    · rintro rfl
      exact absurd h (by decide)

theorem spells_escapeChar {quote : Char} (hq : IsQuote quote) (c : Char) :
    Spells quote (Text.escapeChar quote c) c := by
  unfold Text.escapeChar
  split
  next h =>
    rw [Bool.or_eq_true, beq_iff_eq, beq_iff_eq] at h
    rcases h with rfl | rfl
    · rcases hq with rfl | rfl <;> exact .letter (by decide)
    · exact .letter (by decide)
  next h =>
    rw [Bool.or_eq_true, beq_iff_eq, beq_iff_eq, not_or] at h
    split
    next hn => exact (beq_iff_eq.mp hn) ▸ .letter (by decide)
    next =>
      split
      next hr => exact (beq_iff_eq.mp hr) ▸ .letter (by decide)
      next =>
        split
        next ht => exact (beq_iff_eq.mp ht) ▸ .letter (by decide)
        next =>
          split
          next hp => exact .plain (plain_of_isPrintable h.2 h.1 hp)
          next => exact spells_escapeCode quote c

theorem isQuote_quoteFor (s : List Char) : IsQuote (quoteFor s) := by
  unfold quoteFor
  split
  · exact .inr rfl
  · exact .inl rfl

/-- Between the quotes of a quoted text the text is spelled. -/
theorem spelled_quoted (s : List Char) :
    Spelled (quoteFor s) (s.flatMap (Text.escapeChar (quoteFor s))) s :=
  spelled_flatMap (spells_escapeChar (isQuote_quoteFor s))

/-! ## §7. Literals of a template. -/

/-- What a character becomes in a literal. -/
def literalChar (c : Char) : List Char := Literal.breaks (Literal.escapeChar c)

theorem breaks_escape (s : List Char) : Literal.breaks (Literal.escape s) = s.flatMap literalChar := by
  unfold Literal.breaks Literal.escape
  rw [List.flatMap_assoc]
  rfl

theorem spells_literalChar (c : Char) : Spells '\'' (literalChar c) c := by
  unfold literalChar Literal.escapeChar
  split
  next h =>
    rw [Bool.or_eq_true, beq_iff_eq, beq_iff_eq] at h
    rcases h with rfl | rfl <;> exact .letter (by decide)
  next h =>
    rw [Bool.or_eq_true, beq_iff_eq, beq_iff_eq, not_or] at h
    show Spells _ ((if c == '\n' then _ else _) ++ []) _
    rw [List.append_nil]
    split
    next hn => exact (beq_iff_eq.mp hn) ▸ .letter (by decide)
    next hn =>
      split
      next hr => exact (beq_iff_eq.mp hr) ▸ .letter (by decide)
      next hr =>
        rw [beq_iff_eq] at hn hr
        split
        next hz =>
          have hc : c = Char.ofNat 0 := by rw [← beq_iff_eq.mp hz, Char.ofNat_toNat]
          subst hc
          have hcode : Spells '\'' ('\\' :: 'x' :: hexText 2 (Char.ofNat 0).toNat) (Char.ofNat 0) :=
            .code (by decide) (by decide)
          exact hcode
        next hz =>
          have hc : c ≠ '\x00' := fun hc => hz (by rw [hc]; rfl)
          exact .plain ⟨h.1, h.2, hn, hr, hc⟩

/-- In a literal its text is spelled. -/
theorem spelled_breaks_escape (s : List Char) :
    Spelled '\'' (Literal.breaks (Literal.escape s)) s := by
  rw [breaks_escape]
  exact spelled_flatMap spells_literalChar

end TagTemplate.Script
