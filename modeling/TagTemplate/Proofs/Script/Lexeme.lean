/-
  TagTemplate.Proofs.Script.Lexeme
  ────────────────────────────────
  **A LINE OF CODE AS A ROW OF LEXEMES.**

  Code that is written by rule is a row of names, reserved words, marks,
  strings, numbers and single spaces (`Lexeme`).  `Lexeme.closes` decides whether the
  row is read back as it was put together: no lexeme runs into the next one,
  and brackets match.

    • `Emits`: the lexer goes from one state to another and hands out tokens.
      Every step makes the state smaller, so a run never lacks fuel
      (`Emits.run`).
    • `emits_line`: a row that closes is read as its tokens and a line end.

  Tokens are compared as a parser looks at them (`Token.seen`): by kind,
  characters and line, and those without characters by kind alone.
-/
import TagTemplate.Proofs.Script.Spelling

namespace TagTemplate.Script

open Text

/-! ## §1. Tokens as a parser looks at them. -/

/-- Whether tokens of a kind have no characters. -/
def TokenKind.isLayout : TokenKind → Bool
  | .newline | .indent | .dedent | .finish => true
  | _ => false

/-- What a parser sees of a token. -/
structure Seen where
  /-- The kind. -/
  kind : TokenKind
  /-- The characters. -/
  text : String
  /-- The line it starts on; zero for a token without characters. -/
  line : Nat
  deriving DecidableEq

/-- What a parser sees of a token. -/
def Token.seen (t : Token) : Seen := ⟨t.kind, t.text, if t.kind.isLayout then 0 else t.line⟩

/-- A token without characters. -/
def Seen.layout (kind : TokenKind) : Seen := ⟨kind, "", 0⟩

/-! ## §2. Steps of the lexer. -/

/-- What every step makes smaller: an indentation token costs less than the character that made it
necessary. -/
def Lexer.size (l : Lexer) : Nat :=
  4 * l.rest.length + l.queue.length + (if l.fresh then 2 else 0) + l.indents.length

/-- The lexer goes from one state to another and hands out some tokens. -/
inductive Emits : Lexer → List Seen → Lexer → Prop
  /-- No step. -/
  | refl (l : Lexer) : Emits l [] l
  /-- A step that hands out a token. -/
  | token {l next last : Lexer} {t : Token} {ts : List Seen} :
      l.step = .token t next → next.size < l.size → Emits next ts last →
        Emits l (t.seen :: ts) last
  /-- A step that hands out nothing. -/
  | again {l next last : Lexer} {ts : List Seen} :
      l.step = .again next → next.size < l.size → Emits next ts last → Emits l ts last

theorem Emits.append {l m r : Lexer} {ts us : List Seen} (h : Emits l ts m) (h' : Emits m us r) :
    Emits l (ts ++ us) r := by
  induction h with
  | refl => exact h'
  | token hstep hlt _ ih => exact .token hstep hlt (ih h')
  | again hstep hlt _ ih => exact .again hstep hlt (ih h')

/-- A run with fuel to spare goes through the steps and has as much to spare behind them. -/
theorem Emits.run {l r : Lexer} {ts : List Seen} (h : Emits l ts r) {spare : Nat} :
    ∀ (fuel : Nat) (acc : Array Token), l.size + spare ≤ fuel →
      ∃ (fuel' : Nat) (out : List Token), r.size + spare ≤ fuel' ∧ out.map Token.seen = ts ∧
        Lexer.run fuel l acc = Lexer.run fuel' r (acc ++ out.toArray) := by
  induction h with
  | refl l => exact fun fuel acc hf => ⟨fuel, [], hf, rfl, by simp⟩
  | @token l next last t ts hstep hlt _ ih =>
      intro fuel acc hf
      obtain ⟨fuel, rfl⟩ : ∃ n, fuel = n + 1 := ⟨fuel - 1, by omega⟩
      obtain ⟨fuel', out, hf', hout, hrun⟩ := ih fuel (acc.push t) (by omega)
      refine ⟨fuel', t :: out, hf', by rw [List.map_cons, hout], ?_⟩
      rw [Lexer.run, hstep]
      show Lexer.run fuel next (acc.push t) = _
      rw [hrun]
      congr 1
      simp
  | @again l next last ts hstep hlt _ ih =>
      intro fuel acc hf
      obtain ⟨fuel, rfl⟩ : ∃ n, fuel = n + 1 := ⟨fuel - 1, by omega⟩
      obtain ⟨fuel', out, hf', hout, hrun⟩ := ih fuel acc (by omega)
      refine ⟨fuel', out, hf', hout, ?_⟩
      rw [Lexer.run, hstep]
      exact hrun

/-! ## §3. States of the lexer. -/

namespace Lexer

/-- Inside a line with code. -/
def inLine (line shown : Nat) (indents : List (Nat × Nat)) (brackets : List (Char × Nat))
    (rest : List Char) : Lexer :=
  { rest, line, shownFrom := shown, fresh := false, indents, brackets }

/-- At the start of a line that no bracket joins to the one before. -/
def atStart (line shown : Nat) (indents : List (Nat × Nat)) (rest : List Char) : Lexer :=
  { rest, line, shownFrom := shown, indents }

variable {line shown : Nat} {indents : List (Nat × Nat)} {brackets : List (Char × Nat)}

theorem step_inLine (rest : List Char) :
    (inLine line shown indents brackets rest).step
      = (inLine line shown indents brackets rest).lineStep := rfl

theorem size_inLine (rest : List Char) :
    (inLine line shown indents brackets rest).size = 4 * rest.length + indents.length := rfl

theorem size_atStart (rest : List Char) :
    (atStart line shown indents rest).size = 4 * rest.length + 2 + indents.length := rfl

end Lexer

/-- A gap makes no difference to steps that leave the line. -/
theorem Emits.gap {line shown : Nat} {indents : List (Nat × Nat)} {brackets : List (Char × Nat)}
    {rest : List Char} {ts : List Seen} {r : Lexer}
    (h : Emits (.inLine line shown indents brackets rest) ts r) (hr : r.fresh = true) :
    Emits (.inLine line shown indents brackets (' ' :: rest)) ts r := by
  have hsize : (Lexer.inLine line shown indents brackets rest).size
      < (Lexer.inLine line shown indents brackets (' ' :: rest)).size := by
    rw [Lexer.size_inLine, Lexer.size_inLine, List.length_cons]
    omega
  cases h with
  | refl => cases hr
  | token hstep hlt hmore => exact .token hstep (Nat.lt_trans hlt hsize) hmore
  | again hstep hlt hmore => exact .again hstep (Nat.lt_trans hlt hsize) hmore

/-! ## §4. Lexemes. -/

/-- A string as it is written in code, with the text it is written for. -/
structure Quotation where
  /-- The quote at both ends. -/
  quote : Char
  /-- What is between the quotes. -/
  body : List Char
  /-- The text. -/
  value : List Char
  /-- The quote is one. -/
  isQuote : IsQuote quote
  /-- The body is written for the text. -/
  spelled : Spelled quote body value

/-- The characters of a string with its quotes. -/
def Quotation.chars (q : Quotation) : List Char := q.quote :: (q.body ++ [q.quote])

/-- A piece of a line. -/
inductive Lexeme where
  /-- A name. -/
  | name (w : String)
  /-- A reserved word. -/
  | word (w : String)
  /-- A mark. -/
  | mark (m : String)
  /-- A string. -/
  | text (q : Quotation)
  /-- A number. -/
  | number (w : String)
  /-- A space. -/
  | gap

namespace Lexeme

/-- The characters. -/
def chars : Lexeme → List Char
  | name w | word w | number w => w.toList
  | mark m => m.toList
  | text q => q.chars
  | gap => [' ']

/-- The token on a line, if there is one. -/
def token? (line : Nat) : Lexeme → Option Seen
  | name w => some ⟨.name, w, line⟩
  | word w => some ⟨.keyword, w, line⟩
  | mark m => some ⟨.mark, m, line⟩
  | text q => some ⟨.string, String.ofList q.chars, line⟩
  | number w => some ⟨.number, w, line⟩
  | gap => none

/-- The tokens of a row of lexemes on a line. -/
def tokens (line : Nat) (row : List Lexeme) : List Seen := row.filterMap (token? line)

/-- The characters of a row of lexemes. -/
def spell (row : List Lexeme) : List Char := row.flatMap chars

/-! ## §5. What may stand side by side. -/

/-- Whether a character is a quote. -/
def isQuoteMark (c : Char) : Bool := c == '\'' || c == '"'

/-- Whether a character ends a name and starts no string. -/
def separates (c : Char) : Bool := !isNameLike c && !isQuoteMark c

/-- Whether characters are those of a name or a reserved word. -/
def isWord (w : List Char) : Bool :=
  (w.head?.any isNameStartLike) && w.all fun c => isNameLike c && c.toNat < 128

/-- Whether characters are the digits of a number, of which the first is no zero. -/
def isNumeral (w : List Char) : Bool := w.all isDigit && w.head?.any (· != '0')

/-- Whether a character starts a mark. -/
def startsMark (c : Char) : Bool :=
  !isNameLike c && !isDigit c
    && !(['\'', '"', ' ', '\t', '\x0c', '#', '\\', '\n', '\r', '\x00'].contains c)

/-- Whether a mark ends before a character: no longer mark starts with both. -/
def isMark (m : List Char) (d : Char) : Bool :=
  !m.isEmpty && m.all startsMark && !(m == ['.'] && isDigit d) && markOf m == m
    && longMarks.all fun long => !startsWith (m ++ [d]) long

/-- Whether a lexeme ends before a character. -/
def endsBefore (d : Char) : Lexeme → Bool
  | name w => isWord w.toList && !isKeyword w && separates d
  | word w => isWord w.toList && isKeyword w && separates d
  | mark m => isMark m.toList d
  | text _ => !isQuoteMark d
  | number w => isNumeral w.toList && separates d && d != '.'
  | gap => true

/-- The open brackets behind a character that is a mark, if it may stand there. -/
def bracketsAfter (stack : List Char) (c : Char) : Option (List Char) :=
  if c == '(' || c == '[' || c == '\x7b' then
    if stack.length < Lexer.maxBrackets then some (c :: stack) else none
  else if c == ')' || c == ']' || c == '\x7d' then
    match stack with
    | opening :: rest => if bracketsMatch opening c then some rest else none
    | [] => none
  else if isPrintable c then some stack
  else none

/-- The open brackets behind a lexeme, if it may stand there. -/
def after (stack : List Char) : Lexeme → Option (List Char)
  | mark m =>
    match m.toList with
    | [c] => bracketsAfter stack c
    | _ => some stack
  | _ => some stack

/-- Whether a row of lexemes is read back as it is and closes the given brackets. -/
def closes (stack : List Char) : List Lexeme → Bool
  | [] => stack.isEmpty
  | x :: row =>
    endsBefore ((spell row).headD '\n') x
      && match x.after stack with
        | some stack => closes stack row
        | none => false

end Lexeme

/-! ## §6. Where strings start. -/

theorem isStringMark_mem {letters : List Char} (h : isStringMark letters = true) :
    ∀ c ∈ letters, c ∈ ['b', 'r', 'u', 'f'] := by
  have hall : (["", "b", "r", "u", "f", "br", "rb", "fr", "rf"].all fun s =>
      s.toList.all ['b', 'r', 'u', 'f'].contains) = true := by decide
  obtain ⟨s, hs, heq⟩ := List.any_eq_true.mp h
  rw [beq_iff_eq] at heq
  intro c hc
  have hletter := List.all_eq_true.mp (List.all_eq_true.mp hall s hs) c (heq ▸ hc)
  exact List.contains_iff_mem.mp hletter

/-- The small form of a character is a letter only if the character is. -/
theorem isNameLike_of_toLower {c : Char} (h : c.toLower ∈ ['b', 'r', 'u', 'f']) :
    isNameLike c = true := by
  by_cases hup : c.isUpper = true
  · have hletter : c.isAlpha = true := Bool.or_eq_true_iff.mpr (.inl hup)
    unfold isNameLike isAsciiWord Char.isAlphanum
    simp [hletter]
  · have hsame : c.toLower = c := by
      unfold Char.toLower
      exact dif_neg fun hcapital => hup (decide_eq_true hcapital)
    have hall : ['b', 'r', 'u', 'f'].all isNameLike = true := by decide
    exact List.all_eq_true.mp hall c (hsame ▸ h)

/-- No string starts where a character that is in no name comes before the first quote. -/
theorem stringStart?_eq_none (before : List Char) {rest : List Char} {c : Char}
    (hq : ∀ a ∈ before ++ [c], Lexeme.isQuoteMark a = false) (hc : isNameLike c = false) :
    stringStart? (before ++ c :: rest) = none := by
  unfold stringStart?
  rw [List.findSome?_eq_none_iff]
  intro n _
  dsimp only
  split
  next a more hdrop =>
    by_cases hn : n ≤ before.length
    · -- the quote would be one of the characters up to `c`
      have hmem : a ∈ before ++ [c] := by
        have hget : (before ++ c :: rest)[n]? = some a := by
          rw [← List.head?_drop, hdrop]
          rfl
        rw [List.append_cons, List.getElem?_append_left (by simp; omega)] at hget
        exact List.mem_of_getElem? hget
      have ha := hq a hmem
      unfold Lexeme.isQuoteMark at ha
      rw [ha, Bool.false_and]
      rfl
    · -- `c` would be one of the letters before the quote
      have hmem : c.toLower ∈ ((before ++ c :: rest).take n).map (·.toLower) := by
        obtain ⟨k, hk⟩ : ∃ k, n - before.length = k + 1 := ⟨n - before.length - 1, by omega⟩
        refine List.mem_map_of_mem ?_
        rw [List.take_append, hk, List.take_succ_cons]
        exact List.mem_append_right _ List.mem_cons_self
      rw [if_neg]
      intro h
      rw [Bool.and_eq_true] at h
      have hlike := isNameLike_of_toLower (isStringMark_mem h.2 _ hmem)
      rw [hc] at hlike
      exact absurd hlike (by decide)
  next => rfl

/-! ## §7. Names and marks. -/

/-- A text and what follows it start with another text together only where the text alone does,
unless the other text goes on behind it. -/
theorem startsWith_append_cons {p m rest : List Char} {d : Char}
    (h : startsWith (m ++ [d]) p = false) :
    startsWith p (m ++ d :: rest) = startsWith p m := by
  rw [Bool.eq_iff_iff, startsWith_iff, startsWith_iff]
  constructor
  · rintro ⟨r, hr⟩
    rcases List.append_eq_append_iff.mp hr with ⟨a, hp, ha⟩ | ⟨b, hm, _⟩
    · cases a with
      | nil => exact ⟨[], by rw [hp]; simp⟩
      | cons x a =>
          rw [List.cons_append] at ha
          injection ha with hx _
          have hstart : startsWith (m ++ [d]) p = true :=
            startsWith_iff.mpr ⟨a, by rw [hp, hx]; simp⟩
          rw [h] at hstart
          exact absurd hstart (by decide)
    · exact ⟨b, hm⟩
  · rintro ⟨r, hr⟩
    exact ⟨r ++ d :: rest, by rw [hr, List.append_assoc]⟩

theorem markOf_append_cons {m rest : List Char} {d : Char} (hm : markOf m = m) (hne : m ≠ [])
    (h : ∀ long ∈ longMarks, startsWith (m ++ [d]) long = false) :
    markOf (m ++ d :: rest) = m := by
  have hfind : longMarks.find? (startsWith · (m ++ d :: rest))
      = longMarks.find? (startsWith · m) := by
    rw [← List.head?_filter, ← List.head?_filter]
    congr 1
    exact List.filter_congr fun long hlong => startsWith_append_cons (h long hlong)
  unfold markOf at hm ⊢
  rw [hfind]
  split
  next long hsome => rwa [hsome] at hm
  next hnone =>
    rw [hnone] at hm
    obtain ⟨c, m, rfl⟩ := List.exists_cons_of_ne_nil hne
    exact hm

theorem takeWhile_word {p : Char → Bool} {w : List Char} {d : Char}
    (hw : ∀ c ∈ w, p c = true) (hd : p d = false) (rest : List Char) :
    (w ++ d :: rest).takeWhile p = w ∧ (w ++ d :: rest).dropWhile p = d :: rest := by
  constructor
  · rw [List.takeWhile_append_of_pos hw, List.takeWhile_cons_of_neg (by simp [hd]), List.append_nil]
  · rw [List.dropWhile_append_of_pos hw, List.dropWhile_cons_of_neg (by simp [hd])]

/-! ## §8. One lexeme. -/

section

variable (line shown : Nat) (indents : List (Nat × Nat)) (brackets : List (Char × Nat))

/-- Whether a character may be the first one of a token. -/
def startsToken (c : Char) : Bool := !([' ', '\t', '\x0c', '#', '\\', '\n'].contains c)

/-- A token is taken in by its first characters. -/
theorem lineStep_token {c : Char} {rest : List Char} (h : startsToken c = true) :
    (Lexer.inLine line shown indents brackets (c :: rest)).lineStep
      = match stringStart? (c :: rest) with
        | some (_, body) => (Lexer.inLine line shown indents brackets (c :: rest)).stringStep body
        | none =>
          let l := Lexer.inLine line shown indents brackets (c :: rest)
          if isNameStartLike c then l.nameStep
          else if isDigit c then l.numberStep (numberEnd (c :: rest))
          else if Lexer.startsWithPoint (c :: rest) then
            l.numberStep (fractionEnd ((c :: rest).drop 1))
          else l.markStep (markOf (c :: rest)) := by
  unfold startsToken at h
  simp only [Bool.not_eq_true', List.contains_eq_mem, List.mem_cons, List.not_mem_nil, or_false,
    decide_eq_false_iff_not, not_or] at h
  obtain ⟨hspace, htab, hfeed, hhash, hback, hline⟩ := h
  unfold Lexer.lineStep Lexer.inLine
  cases hstring : stringStart? (c :: rest) <;>
    simp only [List.dropWhile_cons, hspace, htab, hfeed, hhash, beq_iff_eq, Bool.or_eq_true,
      or_self, if_false, List.head?_cons, Option.some.injEq, hstring]

theorem startsToken_of_isNameLike {c : Char} (h : isNameLike c = true) : startsToken c = true := by
  have hall : ([' ', '\t', '\x0c', '#', '\\', '\n'].all (!isNameLike ·)) = true := by decide
  unfold startsToken
  rw [Bool.not_eq_true', List.contains_eq_mem, decide_eq_false_iff_not]
  intro hmem
  have hnone := List.all_eq_true.mp hall c hmem
  rw [h] at hnone
  exact absurd hnone (by decide)

theorem isQuoteMark_of_isNameLike {c : Char} (h : isNameLike c = true) :
    Lexeme.isQuoteMark c = false := by
  unfold Lexeme.isQuoteMark
  rw [Bool.or_eq_false_iff, beq_eq_false_iff_ne, beq_eq_false_iff_ne]
  constructor <;>
    · rintro rfl
      exact absurd h (by decide)

/-- What a parser sees of a token with characters that is read on a line. -/
theorem emit_seen (l after : Lexer) (kind : TokenKind) (text : List Char)
    (hrest : l.rest.isEmpty = false) (hkind : kind.isLayout = false) :
    (l.emit after kind text).seen = ⟨kind, String.ofList text, l.line⟩ := by
  unfold Lexer.emit Token.seen Lexer.here
  simp [hrest, hkind]

/-- No string starts with the characters of a name or a number and what separates it from the rest. -/
theorem stringStart?_separated {w : List Char} {d : Char} (hlike : ∀ c ∈ w, isNameLike c = true)
    (hd : isNameLike d = false) (hquote : Lexeme.isQuoteMark d = false) (more : List Char) :
    stringStart? (w ++ d :: more) = none := by
  refine stringStart?_eq_none _ (fun a ha => ?_) hd
  rcases List.mem_append.mp ha with ha | ha
  · exact isQuoteMark_of_isNameLike (hlike a ha)
  · exact List.mem_singleton.mp ha ▸ hquote

/-- A name or a reserved word is taken in up to the character that separates it from the rest. -/
theorem step_word {w : String} {d : Char} (hw : Lexeme.isWord w.toList = true)
    (hd : Lexeme.separates d = true) (more : List Char) :
    ∃ t, (Lexer.inLine line shown indents brackets (w.toList ++ d :: more)).step
          = .token t (.inLine line shown indents brackets (d :: more))
        ∧ t.seen = ⟨if isKeyword w then .keyword else .name, w, line⟩ := by
  unfold Lexeme.isWord at hw
  rw [Bool.and_eq_true, List.all_eq_true] at hw
  obtain ⟨hhead, hall⟩ := hw
  unfold Lexeme.separates at hd
  rw [Bool.and_eq_true, Bool.not_eq_true', Bool.not_eq_true'] at hd
  have hlike : ∀ c ∈ w.toList, isNameLike c = true := fun c hc =>
    ((Bool.and_eq_true _ _).mp (hall c hc)).1
  have hascii : w.toList.all (·.toNat < 128) = true :=
    List.all_eq_true.mpr fun c hc => ((Bool.and_eq_true _ _).mp (hall c hc)).2
  have hnone : stringStart? (w.toList ++ d :: more) = none :=
    stringStart?_separated hlike hd.1 hd.2 more
  obtain ⟨htake, hdrop⟩ := takeWhile_word hlike hd.1 more
  have hout := emit_seen (.inLine line shown indents brackets (w.toList ++ d :: more))
    (.inLine line shown indents brackets (d :: more))
    (if isKeyword w then .keyword else .name) w.toList
    (by simp [Lexer.inLine]) (by split <;> rfl)
  rw [String.ofList_toList] at hout
  refine ⟨_, ?_, hout⟩
  rw [Lexer.step_inLine]
  cases hs : w.toList with
  | nil => rw [hs] at hhead; cases hhead
  | cons c cs =>
      rw [hs] at hnone htake hdrop hascii hhead hlike
      have hstart : isNameStartLike c = true := hhead
      rw [List.cons_append] at hnone htake hdrop ⊢
      rw [lineStep_token _ _ _ _ (startsToken_of_isNameLike (hlike c List.mem_cons_self)), hnone]
      dsimp only
      rw [if_pos hstart]
      unfold Lexer.nameStep
      dsimp only [Lexer.inLine]
      rw [htake, hdrop, hascii, Bool.true_or, if_pos rfl, ← hs, String.ofList_toList]

theorem startsMark_cases {c : Char} (h : Lexeme.startsMark c = true) :
    isNameLike c = false ∧ isDigit c = false ∧ startsToken c = true
      ∧ Lexeme.isQuoteMark c = false := by
  unfold Lexeme.startsMark at h
  simp only [Bool.and_eq_true, Bool.not_eq_true', List.contains_eq_mem, List.mem_cons,
    List.not_mem_nil, or_false, decide_eq_false_iff_not, not_or] at h
  obtain ⟨⟨hlike, hdigit⟩, hsingle, hdouble, hspace, htab, hfeed, hhash, hback, hline, -, -⟩ := h
  refine ⟨hlike, hdigit, ?_, ?_⟩
  · simp [startsToken, hspace, htab, hfeed, hhash, hback, hline]
  · simp [Lexeme.isQuoteMark, hsingle, hdouble]

theorem isNameStartLike_eq_false {c : Char} (h : isNameLike c = false) :
    isNameStartLike c = false := by
  unfold isNameLike isAsciiWord Char.isAlphanum at h
  unfold isNameStartLike isAsciiLetter
  simp only [Bool.or_eq_false_iff] at h ⊢
  exact ⟨⟨h.1.1.1, h.1.2⟩, h.2⟩

/-- A mark is taken in as a whole. -/
theorem lineStep_mark {m : List Char} {d : Char} (h : Lexeme.isMark m d = true)
    (more : List Char) :
    (Lexer.inLine line shown indents brackets (m ++ d :: more)).lineStep
      = (Lexer.inLine line shown indents brackets (m ++ d :: more)).markStep m := by
  unfold Lexeme.isMark at h
  simp only [Bool.and_eq_true, Bool.not_eq_true', beq_iff_eq] at h
  obtain ⟨⟨⟨⟨hne, hall⟩, hpoint⟩, hmark⟩, hlong⟩ := h
  cases m with
  | nil => cases hne
  | cons c cs =>
      have hc := List.all_eq_true.mp hall c List.mem_cons_self
      obtain ⟨hlike, hdigit, hstart, hquote⟩ := startsMark_cases hc
      have hnone : stringStart? (c :: (cs ++ d :: more)) = none :=
        stringStart?_eq_none [] (by simpa using hquote) hlike
      have hmarkOf : markOf (c :: (cs ++ d :: more)) = c :: cs :=
        markOf_append_cons hmark (by simp) fun long hmem => by
          simpa using List.all_eq_true.mp hlong long hmem
      -- a point is no number: what follows it is the rest of the mark or `d`
      have hpoint' : Lexer.startsWithPoint (c :: (cs ++ d :: more)) = false := by
        by_cases hc : c = '.'
        · subst hc
          cases cs with
          | nil => simpa [Lexer.startsWithPoint] using hpoint
          | cons e cs =>
              have hdots : ∀ long ∈ longMarks, long.head? = some '.' → long = ['.', '.', '.'] := by
                decide
              have hfound : '.' :: e :: cs ∈ longMarks := by
                unfold markOf at hmark
                split at hmark
                next long hsome => exact hmark ▸ List.mem_of_find?_eq_some hsome
                next => cases hmark
              have heq := hdots _ hfound rfl
              injection heq with _ heq
              injection heq with he _
              subst he
              rfl
        · unfold Lexer.startsWithPoint
          split
          next heq => exact absurd (List.cons.inj heq).1 hc
          next => rfl
      rw [List.cons_append, lineStep_token _ _ _ _ hstart, hnone]
      dsimp only
      rw [isNameStartLike_eq_false hlike, hdigit, hpoint', hmarkOf]
      rfl

/-- A mark of one character opens or closes a bracket if it is one. -/
theorem markStep_bracket {c : Char} {stack : List Char}
    (ha : Lexeme.bracketsAfter (brackets.map Prod.fst) c = some stack) (rest : List Char) :
    let l := Lexer.inLine line shown indents brackets (c :: rest)
    ∃ brackets', l.markStep [c] = .token (l.emit (.inLine line shown indents brackets' rest) .mark [c])
        (.inLine line shown indents brackets' rest)
      ∧ brackets'.map Prod.fst = stack := by
  intro l
  unfold Lexer.markStep
  unfold Lexeme.bracketsAfter at ha
  dsimp only [l, Lexer.inLine]
  split at ha
  next hopen =>
    -- an opening bracket
    split at ha
    next hroom =>
      injection ha with ha
      have hfull : ¬ brackets.length ≥ Lexer.maxBrackets := by
        rw [List.length_map] at hroom
        omega
      rw [if_pos hopen]
      simp only [hfull, if_false]
      exact ⟨(c, line) :: brackets, rfl, ha⟩
    next => cases ha
  next hopen =>
    rw [if_neg hopen]
    split at ha
    next hclose =>
      -- a closing bracket
      rw [if_pos hclose]
      cases brackets with
      | nil => cases ha
      | cons b brackets =>
          obtain ⟨opening, at'⟩ := b
          rw [List.map_cons] at ha
          dsimp only at ha ⊢
          split at ha
          next hmatch =>
            injection ha with ha
            rw [if_pos hmatch]
            exact ⟨brackets, rfl, ha⟩
          next => cases ha
    next hclose =>
      rw [if_neg hclose]
      split at ha
      next hprint =>
        injection ha with ha
        rw [if_pos hprint]
        exact ⟨brackets, rfl, ha⟩
      next => cases ha

/-- A mark is handed out, and opens or closes a bracket if it is one. -/
theorem step_mark {m : String} {d : Char} {stack : List Char}
    (h : Lexeme.isMark m.toList d = true)
    (ha : (Lexeme.mark m).after (brackets.map Prod.fst) = some stack) (more : List Char) :
    ∃ t brackets', (Lexer.inLine line shown indents brackets (m.toList ++ d :: more)).step
          = .token t (.inLine line shown indents brackets' (d :: more))
        ∧ t.seen = ⟨.mark, m, line⟩ ∧ brackets'.map Prod.fst = stack := by
  have hsee : ∀ brackets', ((Lexer.inLine line shown indents brackets (m.toList ++ d :: more)).emit
      (.inLine line shown indents brackets' (d :: more)) .mark m.toList).seen = ⟨.mark, m, line⟩ := by
    intro brackets'
    rw [emit_seen _ _ _ _ (by simp [Lexer.inLine]) rfl, String.ofList_toList]
    rfl
  rw [Lexer.step_inLine, lineStep_mark _ _ _ _ h]
  dsimp only [Lexeme.after] at ha
  -- only a mark of one character may be a bracket
  rcases hm : m.toList with _ | ⟨c, _ | ⟨c', cs⟩⟩
  case cons.nil =>
    rw [hm] at ha hsee
    obtain ⟨brackets', hstep, hstack⟩ := markStep_bracket line shown indents brackets ha (d :: more)
    exact ⟨_, brackets', hstep, hsee _, hstack⟩
  all_goals
    rw [hm] at ha hsee
    injection ha with ha
    have hdrop : (m.toList ++ d :: more).drop m.toList.length = d :: more := List.drop_left
    rw [hm] at hdrop
    unfold Lexer.markStep
    rw [show (Lexer.inLine line shown indents brackets (_ ++ d :: more)).rest.drop _ = _ from hdrop]
    exact ⟨_, brackets, rfl, hsee _, ha⟩

/-- A string is handed out with its quotes. -/
theorem step_text (q : Quotation) {d : Char} (hd : Lexeme.isQuoteMark d = false)
    (more : List Char) :
    ∃ t, (Lexer.inLine line shown indents brackets (q.chars ++ d :: more)).step
          = .token t (.inLine line shown indents brackets (d :: more))
        ∧ t.seen = ⟨.string, String.ofList q.chars, line⟩ := by
  obtain ⟨quote, body, value, hq, hspelled⟩ := q
  have hne : d ≠ quote := by
    rintro rfl
    rcases hq with rfl | rfl <;> exact absurd hd (by decide)
  have hstart : startsToken quote = true := by
    rcases hq with rfl | rfl <;> decide
  have hstring : stringStart? (quote :: (body ++ quote :: d :: more))
      = some ([], quote :: (body ++ quote :: d :: more)) := by
    rcases hq with rfl | rfl <;> rfl
  have hend : stringEnd (quote :: (body ++ quote :: d :: more)) = some (d :: more, 0) :=
    hspelled.stringEnd hq (by simpa using hne)
  have htake : (quote :: (body ++ quote :: d :: more)).take
      ((quote :: (body ++ quote :: d :: more)).length - (d :: more).length)
        = quote :: (body ++ [quote]) := by
    have hlen : (quote :: (body ++ quote :: d :: more)).length - (d :: more).length
        = (quote :: (body ++ [quote])).length := by
      simp only [List.length_cons, List.length_append, List.length_nil]
      omega
    have hsplit : quote :: (body ++ quote :: d :: more)
        = (quote :: (body ++ [quote])) ++ d :: more := by simp
    rw [hlen, hsplit, List.take_left]
  have hsee := emit_seen
    (.inLine line shown indents brackets (quote :: (body ++ quote :: d :: more)))
    (.inLine line shown indents brackets (d :: more)) .string
    (quote :: (body ++ [quote])) rfl rfl
  unfold Quotation.chars
  dsimp only
  rw [List.cons_append, List.append_assoc, List.singleton_append, Lexer.step_inLine,
    lineStep_token _ _ _ _ hstart, hstring]
  dsimp only
  unfold Lexer.stringStep
  rw [hend]
  dsimp only [Lexer.inLine]
  rw [htake]
  exact ⟨_, rfl, hsee⟩

theorem isNameLike_of_isDigit {c : Char} (h : isDigit c = true) : isNameLike c = true := by
  have hdigit : c.isDigit = true := h
  simp [isNameLike, isAsciiWord, Char.isAlphanum, hdigit]

theorem isNameStartLike_of_isDigit {c : Char} (h : isDigit c = true) :
    isNameStartLike c = false := by
  unfold isDigit at h
  simp only [Bool.and_eq_true, decide_eq_true_eq, Char.le_def, UInt32.le_iff_toNat_le] at h
  have hlow : 48 ≤ c.toNat := h.1
  have hhigh : c.toNat ≤ 57 := h.2
  have hunderscore : c ≠ '_' := by
    rintro rfl
    exact absurd hhigh (by decide)
  have hletter : c.isAlpha = false := by
    have hcapital : ¬ (c.val ≥ 'A'.val ∧ c.val ≤ 'Z'.val) := fun h => by
      have hlow : 65 ≤ c.toNat := UInt32.le_iff_toNat_le.mp h.1
      omega
    have hsmall : ¬ c.val ≥ 'a'.val := fun h => by
      have hlow : 97 ≤ c.toNat := UInt32.le_iff_toNat_le.mp h
      omega
    show (decide (c.val ≥ 'A'.val ∧ c.val ≤ 'Z'.val)
      || (decide (c.val ≥ 'a'.val) && decide (c.val ≤ 'z'.val))) = false
    rw [decide_eq_false hcapital, decide_eq_false hsmall]
    rfl
  unfold isNameStartLike isAsciiLetter
  simp only [Bool.or_eq_false_iff, decide_eq_false_iff_not]
  exact ⟨⟨hletter, by simpa using hunderscore⟩, by omega⟩

/-- Digits end before what is none of theirs. -/
theorem digitsTail_digits {w : List Char} {d : Char} (hw : ∀ c ∈ w, isDigit c = true)
    (hd : isDigit d = false) (hunderscore : d ≠ '_') (more : List Char) :
    digitsTail isDigit (w ++ d :: more) = some (d :: more) := by
  induction w with
  | nil => simp [digitsTail.eq_def, hd, hunderscore]
  | cons c w ih =>
      rw [List.forall_mem_cons] at hw
      rw [List.cons_append, digitsTail.eq_def]
      dsimp only
      rw [hw.1, if_pos rfl]
      exact ih hw.2

/-- A number of digits that does not start with zero ends behind them, in front of a character that can
belong to no number. -/
theorem numberEnd_digits {c d : Char} {cs : List Char} (hall : ∀ a ∈ c :: cs, isDigit a = true)
    (hzero : c ≠ '0') (hlike : isNameLike d = false) (hpoint : d ≠ '.') (more : List Char) :
    numberEnd (c :: cs ++ d :: more) = .ok (d :: more) := by
  have hne : ∀ a, isNameLike a = true → d ≠ a := by
    rintro a ha rfl
    rw [hlike] at ha
    cases ha
  have hdigit : isDigit d = false :=
    Bool.eq_false_iff.mpr fun h => hne d (isNameLike_of_isDigit h) rfl
  have htail : digitsTail isDigit (c :: cs ++ d :: more) = some (d :: more) :=
    digitsTail_digits hall hdigit (hne '_' (by decide)) more
  have hclose : exponentEnd (d :: more) = .ok (d :: more) := by
    have hends : endsNumber (d :: more) = true := by
      unfold endsNumber
      simp [hlike]
    unfold exponentEnd imaginaryEnd closeNumber
    simp [hne 'e' (by decide), hne 'E' (by decide), hne 'j' (by decide), hne 'J' (by decide), hends]
  unfold numberEnd
  split
  next heq => exact absurd (List.cons.inj heq).1 hzero
  next =>
    rw [htail]
    split
    next heq => exact absurd (List.cons.inj (Option.some.inj heq)).1 hpoint
    next heq => rw [← Option.some.inj heq, hclose]
    next heq => cases heq

/-- A number is handed out up to the character that separates it from the rest. -/
theorem step_number {w : String} {d : Char} (hw : Lexeme.isNumeral w.toList = true)
    (hd : Lexeme.separates d = true) (hpoint : d ≠ '.') (more : List Char) :
    ∃ t, (Lexer.inLine line shown indents brackets (w.toList ++ d :: more)).step
          = .token t (.inLine line shown indents brackets (d :: more))
        ∧ t.seen = ⟨.number, w, line⟩ := by
  unfold Lexeme.isNumeral at hw
  rw [Bool.and_eq_true, List.all_eq_true] at hw
  obtain ⟨hall, hhead⟩ := hw
  unfold Lexeme.separates at hd
  rw [Bool.and_eq_true, Bool.not_eq_true', Bool.not_eq_true'] at hd
  have hlike : ∀ c ∈ w.toList, isNameLike c = true := fun c hc => isNameLike_of_isDigit (hall c hc)
  have hnone : stringStart? (w.toList ++ d :: more) = none :=
    stringStart?_separated hlike hd.1 hd.2 more
  have hout := emit_seen (.inLine line shown indents brackets (w.toList ++ d :: more))
    (.inLine line shown indents brackets (d :: more)) .number w.toList (by simp [Lexer.inLine]) rfl
  rw [String.ofList_toList] at hout
  refine ⟨_, ?_, hout⟩
  rw [Lexer.step_inLine]
  cases hs : w.toList with
  | nil => rw [hs] at hhead; cases hhead
  | cons c cs =>
      rw [hs] at hnone hall hhead hlike
      have hzero : c ≠ '0' := by simpa using hhead
      have hc : isDigit c = true := hall c List.mem_cons_self
      have hend := numberEnd_digits hall hzero hd.1 hpoint more
      have htake : (c :: (cs ++ d :: more)).take
          ((c :: (cs ++ d :: more)).length - (d :: more).length) = c :: cs := by
        have hlength : (c :: (cs ++ d :: more)).length - (d :: more).length = (c :: cs).length := by
          simp only [List.length_cons, List.length_append]
          omega
        rw [hlength, ← List.cons_append, List.take_left]
      rw [List.cons_append] at hnone hend ⊢
      rw [lineStep_token _ _ _ _ (startsToken_of_isNameLike (hlike c List.mem_cons_self)), hnone]
      dsimp only
      rw [isNameStartLike_of_isDigit hc, hc, if_neg Bool.false_ne_true, if_pos rfl, hend]
      unfold Lexer.numberStep
      dsimp only [Lexer.inLine]
      rw [htake, ← hs]

/-- **A lexeme that ends before what follows is handed out as its token.** -/
theorem step_lexeme {x : Lexeme} {seen : Seen} {d : Char} {stack : List Char}
    (hx : x.token? line = some seen) (hd : x.endsBefore d = true)
    (ha : x.after (brackets.map Prod.fst) = some stack) (more : List Char) :
    ∃ t brackets', (Lexer.inLine line shown indents brackets (x.chars ++ d :: more)).step
          = .token t (.inLine line shown indents brackets' (d :: more))
        ∧ t.seen = seen ∧ brackets'.map Prod.fst = stack := by
  cases x with
  | name w =>
      injection hx with hx
      injection ha with ha
      unfold Lexeme.endsBefore at hd
      simp only [Bool.and_eq_true, Bool.not_eq_true'] at hd
      obtain ⟨t, hstep, hsee⟩ := step_word line shown indents brackets hd.1.1 hd.2 more
      rw [hd.1.2] at hsee
      exact ⟨t, brackets, hstep, hsee.trans hx, ha⟩
  | word w =>
      injection hx with hx
      injection ha with ha
      unfold Lexeme.endsBefore at hd
      simp only [Bool.and_eq_true] at hd
      obtain ⟨t, hstep, hsee⟩ := step_word line shown indents brackets hd.1.1 hd.2 more
      rw [hd.1.2] at hsee
      exact ⟨t, brackets, hstep, hsee.trans hx, ha⟩
  | mark m =>
      injection hx with hx
      obtain ⟨t, brackets', hstep, hsee, hstack⟩ := step_mark line shown indents brackets hd ha more
      exact ⟨t, brackets', hstep, hsee.trans hx, hstack⟩
  | text q =>
      injection hx with hx
      injection ha with ha
      obtain ⟨t, hstep, hsee⟩ := step_text line shown indents brackets q
        (by simpa [Lexeme.endsBefore] using hd) more
      exact ⟨t, brackets, hstep, hsee.trans hx, ha⟩
  | number w =>
      injection hx with hx
      injection ha with ha
      unfold Lexeme.endsBefore at hd
      simp only [Bool.and_eq_true, bne_iff_ne] at hd
      obtain ⟨t, hstep, hsee⟩ := step_number line shown indents brackets hd.1.1 hd.1.2 hd.2 more
      exact ⟨t, brackets, hstep, hsee.trans hx, ha⟩
  | gap => cases hx

theorem chars_ne_nil {x : Lexeme} {d : Char} (hd : x.endsBefore d = true) : x.chars ≠ [] := by
  cases x with
  | name w | word w =>
      unfold Lexeme.endsBefore at hd
      simp only [Bool.and_eq_true, Lexeme.isWord] at hd
      intro hnil
      change w.toList = [] at hnil
      rw [hnil] at hd
      exact absurd hd.1.1.1 (by decide)
  | mark m =>
      unfold Lexeme.endsBefore Lexeme.isMark at hd
      simp only [Bool.and_eq_true] at hd
      intro hnil
      change m.toList = [] at hnil
      rw [hnil] at hd
      exact absurd hd.1.1.1.1 (by decide)
  | number w =>
      unfold Lexeme.endsBefore at hd
      simp only [Bool.and_eq_true] at hd
      intro hnil
      change w.toList = [] at hnil
      rw [hnil] at hd
      exact absurd hd.1.1 (by decide)
  | text q => exact List.cons_ne_nil _ _
  | gap => exact List.cons_ne_nil _ _

/-! ## §9. A row of lexemes. -/

/-- The end of a line that no bracket joins to the next one. -/
theorem step_lineEnd (more : List Char) :
    ∃ shown', (Lexer.inLine line shown indents [] ('\n' :: more)).step
      = .token ⟨.newline, "", line, line, shown, 0⟩
          (.atStart (line + 1) shown' indents more) := ⟨_, rfl⟩

/-- **Part of a row is read as its tokens**, in front of a character that ends whatever the rest of the
row ends; the brackets that are open behind it are those that the rest closes. -/
theorem emits_part {d : Char} (more : List Char) (rest : List Lexeme)
    (hd : ∀ x : Lexeme, x.endsBefore ((Lexeme.spell rest).headD '\n') = true → x.endsBefore d = true) :
    ∀ (row : List Lexeme) (brackets : List (Char × Nat)),
      Lexeme.closes (brackets.map Prod.fst) (row ++ rest) = true →
        ∃ brackets', Lexeme.closes (brackets'.map Prod.fst) rest = true
          ∧ ∀ {ts : List Seen} {last : Lexer}, last.fresh = true →
            Emits (.inLine line shown indents brackets' (d :: more)) ts last →
              Emits (.inLine line shown indents brackets (Lexeme.spell row ++ d :: more))
                (Lexeme.tokens line row ++ ts) last
  | [], brackets, h => ⟨brackets, h, fun _ hemits => hemits⟩
  | x :: row, brackets, h => by
      rw [List.cons_append, Lexeme.closes, Bool.and_eq_true] at h
      obtain ⟨hend, hrow⟩ := h
      split at hrow
      next stack ha =>
        obtain ⟨c, tail, htail⟩ : ∃ c tail, Lexeme.spell row ++ d :: more = c :: tail :=
          List.exists_cons_of_ne_nil (by simp)
        have hspelled : Lexeme.spell (row ++ rest) = Lexeme.spell row ++ Lexeme.spell rest := by
          simp [Lexeme.spell]
        rw [hspelled] at hend
        -- the next character is that of the row, or the one behind the part
        have hc : x.endsBefore c = true := by
          cases hs : Lexeme.spell row with
          | nil =>
              rw [hs] at htail hend
              exact (List.cons.inj htail).1 ▸ hd x hend
          | cons a s =>
              rw [hs] at htail hend
              exact (List.cons.inj htail).1 ▸ hend
        have hspell : Lexeme.spell (x :: row) ++ d :: more = x.chars ++ c :: tail := by
          rw [← htail, ← List.append_assoc]
          rfl
        rw [hspell]
        cases hx : x.token? line with
        | none =>
            -- only a gap has no token
            cases x with
            | gap =>
                injection ha with ha
                rw [← ha] at hrow
                obtain ⟨brackets', hrest, hemits⟩ := emits_part more rest hd row brackets hrow
                refine ⟨brackets', hrest, fun hlast hmore => ?_⟩
                have hbehind := hemits hlast hmore
                rw [htail] at hbehind
                exact hbehind.gap hlast
            | _ => cases hx
        | some seen =>
            obtain ⟨t, between, hstep, hsee, hstack⟩ :=
              step_lexeme line shown indents brackets hx hc ha tail
            rw [← hstack] at hrow
            obtain ⟨brackets', hrest, hemits⟩ := emits_part more rest hd row between hrow
            refine ⟨brackets', hrest, fun {ts last} hlast hmore => ?_⟩
            have hbehind := hemits hlast hmore
            rw [htail] at hbehind
            have htokens : Lexeme.tokens line (x :: row) ++ ts
                = t.seen :: (Lexeme.tokens line row ++ ts) := by
              rw [hsee]
              unfold Lexeme.tokens
              rw [List.filterMap_cons_some hx, List.cons_append]
            rw [htokens]
            refine .token hstep ?_ hbehind
            have hpos : 0 < x.chars.length := List.length_pos_iff.mpr (chars_ne_nil hc)
            rw [Lexer.size_inLine, Lexer.size_inLine, List.length_append]
            omega
      next => cases hrow

/-- **A row that closes is read as its tokens and the end of the line.** -/
theorem emits_line (row : List Lexeme) (more : List Char)
    (h : Lexeme.closes (brackets.map Prod.fst) row = true) :
    ∃ shown', Emits (.inLine line shown indents brackets (Lexeme.spell row ++ '\n' :: more))
      (Lexeme.tokens line row ++ [Seen.layout .newline]) (.atStart (line + 1) shown' indents more) := by
  rw [← List.append_nil row] at h
  obtain ⟨brackets', hclosed, hemits⟩ :=
    emits_part line shown indents more [] (fun _ hx => hx) row brackets h
  -- no bracket is open where the line ends
  have hnil : brackets' = [] := by simpa [Lexeme.closes] using hclosed
  subst hnil
  obtain ⟨shown', hstep⟩ := step_lineEnd line shown indents more
  refine ⟨shown', hemits rfl (.token hstep ?_ (.refl _))⟩
  show (Lexer.atStart _ _ _ _).size < (Lexer.inLine _ _ _ _ ('\n' :: more)).size
  rw [Lexer.size_atStart, Lexer.size_inLine, List.length_cons]
  omega

/-! ## §10. The characters of a row. -/

/-- A string between quotes has no line break and no null character. -/
theorem Quotation.clean (q : Quotation) : ∀ c ∈ q.chars, c ≠ '\n' ∧ c ≠ '\r' ∧ c ≠ '\x00' := by
  intro c hc
  have hquote : q.quote ≠ '\n' ∧ q.quote ≠ '\r' ∧ q.quote ≠ '\x00' := by
    rcases q.isQuote with hq | hq <;> rw [hq] <;> decide
  rw [Quotation.chars, List.mem_cons, List.mem_append, List.mem_singleton] at hc
  rcases hc with rfl | hc | rfl
  · exact hquote
  · exact q.spelled.clean q.isQuote c hc
  · exact hquote

theorem endsBefore_clean {x : Lexeme} {d : Char} (h : x.endsBefore d = true) :
    ∀ c ∈ x.chars, c ≠ '\n' ∧ c ≠ '\r' ∧ c ≠ '\x00' := by
  intro c hc
  cases x with
  | name w | word w =>
      unfold Lexeme.endsBefore Lexeme.isWord at h
      simp only [Bool.and_eq_true, List.all_eq_true] at h
      have hlike := (h.1.1.2 c hc).1
      refine ⟨?_, ?_, ?_⟩ <;>
        · rintro rfl
          exact absurd hlike (by decide)
  | mark m =>
      unfold Lexeme.endsBefore Lexeme.isMark at h
      simp only [Bool.and_eq_true, List.all_eq_true] at h
      have hmark := h.1.1.1.2 c hc
      refine ⟨?_, ?_, ?_⟩ <;>
        · rintro rfl
          exact absurd hmark (by decide)
  | text q => exact q.clean c hc
  | number w =>
      unfold Lexeme.endsBefore Lexeme.isNumeral at h
      simp only [Bool.and_eq_true, List.all_eq_true] at h
      have hdigit := h.1.1.1 c hc
      refine ⟨?_, ?_, ?_⟩ <;>
        · rintro rfl
          exact absurd hdigit (by decide)
  | gap =>
      rw [List.mem_singleton.mp hc]
      decide

/-- A row that closes is one line of text that code may hold. -/
theorem closes_clean : ∀ {row : List Lexeme} {stack : List Char}, Lexeme.closes stack row = true →
    ∀ c ∈ Lexeme.spell row, c ≠ '\n' ∧ c ≠ '\r' ∧ c ≠ '\x00'
  | [], _, _, c, hc => by cases hc
  | x :: row, stack, h, c, hc => by
      unfold Lexeme.closes at h
      rw [Bool.and_eq_true] at h
      obtain ⟨hend, hrow⟩ := h
      unfold Lexeme.spell at hc
      rw [List.flatMap_cons, List.mem_append] at hc
      split at hrow
      next stack' _ =>
        rcases hc with hc | hc
        · exact endsBefore_clean hend c hc
        · exact closes_clean hrow c hc
      next => cases hrow

end

end TagTemplate.Script
