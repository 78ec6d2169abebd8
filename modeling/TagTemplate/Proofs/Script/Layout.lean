/-
  TagTemplate.Proofs.Script.Layout
  ────────────────────────────────
  **LINES THAT INDENTATION NESTS.**

  Code that is written by rule is a tree: a line, or a header with an
  indented body (`Code`).  `Code.text` writes it with four spaces to a level,
  `Code.tokens` says which tokens that is.

    • `emits_codes`: from the start of a line on, the lexer hands out the
      tokens of the tree.  It closes a body no earlier than the next line
      begins, so the steps back that are still due are part of the statement.
    • `tokensOf_texts`: a whole text is cut into the tokens of its tree.
-/
import TagTemplate.Proofs.Script.Lexeme

namespace TagTemplate.Script

open Text

/-! ## §1. Code as a tree. -/

/-- A line of code, or a line with an indented body. -/
inductive Code where
  /-- A line. -/
  | line (row : List Lexeme)
  /-- A header and its body. -/
  | block (header : List Lexeme) (body : List Code)

/-- A line of text: its spaces, its lexemes, its end. -/
def rowText (level : Nat) (row : List Lexeme) : List Char :=
  List.replicate (4 * level) ' ' ++ (Lexeme.spell row ++ ['\n'])

/-- The tokens of a line with its end. -/
def rowTokens (line : Nat) (row : List Lexeme) : List Seen :=
  Lexeme.tokens line row ++ [Seen.layout .newline]

/-- Whether a line has code and is read back as it is. -/
def isRow (row : List Lexeme) : Bool :=
  ((Lexeme.spell row).head?.any startsToken) && Lexeme.closes [] row

namespace Code

mutual

/-- The number of lines. -/
def height : Code → Nat
  | line _ => 1
  | block _ body => 1 + heights body

/-- The number of lines of several trees. -/
def heights : List Code → Nat
  | [] => 0
  | c :: cs => c.height + heights cs

end

mutual

/-- The text at a level of indentation. -/
def text (level : Nat) : Code → List Char
  | line row => rowText level row
  | block header body => rowText level header ++ texts (level + 1) body

/-- The text of several trees. -/
def texts (level : Nat) : List Code → List Char
  | [] => []
  | c :: cs => c.text level ++ texts level cs

end

mutual

/-- The tokens from a line on. -/
def tokens (first : Nat) : Code → List Seen
  | line row => rowTokens first row
  | block header body =>
    rowTokens first header
      ++ (.layout .indent :: (tokensAll (first + 1) body ++ [.layout .dedent]))

/-- The tokens of several trees. -/
def tokensAll (first : Nat) : List Code → List Seen
  | [] => []
  | c :: cs => c.tokens first ++ tokensAll (first + c.height) cs

end

mutual

/-- Whether every line is read back as it is and no body is empty or too deep. -/
def fine (level : Nat) : Code → Bool
  | line row => isRow row
  | block header body =>
    isRow header && !body.isEmpty && decide (level + 1 < Lexer.maxIndents) && allFine (level + 1) body

/-- The same of several trees. -/
def allFine (level : Nat) : List Code → Bool
  | [] => true
  | c :: cs => c.fine level && allFine level cs

end

end Code

/-! ## §2. The start of a line. -/

namespace Lexer

/-- The open indentations of a level. -/
def steps : Nat → List (Nat × Nat)
  | 0 => []
  | level + 1 => (4 * (level + 1), 4 * (level + 1)) :: steps level

theorem steps_headD (level : Nat) : (steps level).headD (0, 0) = (4 * level, 4 * level) := by
  cases level <;> rfl

theorem steps_length (level : Nat) : (steps level).length = level := by
  induction level with
  | zero => rfl
  | succ level ih => rw [steps, List.length_cons, ih]

/-- The indentation tokens that lead from one level to another. -/
def approach (source goal : Nat) : List TokenKind :=
  if source < goal then [.indent] else List.replicate (source - goal) .dedent

theorem leave_steps {goal : Nat} : ∀ {source : Nat}, goal ≤ source →
    leave (4 * goal) (steps source) = (steps goal, source - goal)
  | 0, h => by
      have hzero : goal = 0 := by omega
      subst hzero
      rfl
  | source + 1, h => by
      rw [steps, leave]
      by_cases hlt : goal ≤ source
      · rw [if_pos (by omega), leave_steps hlt]
        show (steps goal, source - goal + 1) = _
        rw [Nat.succ_sub hlt]
      · have heq : goal = source + 1 := by omega
        subst heq
        rw [if_neg (by omega), Nat.sub_self]
        rfl

/-- A line that is one step deeper at most finds its place. -/
theorem place_steps (l : Lexer) {source goal : Nat} (hl : l.indents = steps source)
    (hq : l.queue = []) (hstep : goal ≤ source + 1) (hdeep : goal < maxIndents) :
    place l ⟨4 * goal, 4 * goal, 0⟩
      = .ok { l with indents := steps goal, queue := approach source goal } := by
  unfold place approach
  simp only [beq_self_eq_true, if_true]
  rw [hl, steps_headD, steps_length]
  by_cases hsame : goal = source
  · subst hsame
    obtain ⟨rest, line, shown, fresh, blank, indents, queue, brackets⟩ := l
    dsimp only at hl hq
    subst hl hq
    simp
  by_cases hless : goal < source
  · have hne : ¬ 4 * goal = 4 * source := by omega
    have hgt : ¬ 4 * goal > 4 * source := by omega
    have hback : ¬ source < goal := by omega
    have htop : (steps goal).head?.getD (0, 0) = (4 * goal, 4 * goal) := by
      rw [← List.headD_eq_head?_getD, steps_headD]
    rw [leave_steps (Nat.le_of_lt hless)]
    simp [hne, hgt, hback, htop]
  · have hgoal : goal = source + 1 := by omega
    subst hgoal
    have hne : ¬ 4 * (source + 1) = 4 * source := by omega
    have hgt : 4 * (source + 1) > 4 * source := by omega
    have hroom : ¬ source + 1 ≥ maxIndents := by omega
    have hnarrow : ¬ 4 * (source + 1) ≤ 4 * source := by omega
    simp [hne, hgt, hroom, hnarrow, steps]

/-- The spaces before code are counted. -/
theorem measure_spaces (l : Lexer) {c : Char} (rest : List Char) (hc : startsToken c = true)
    (line : Nat) : ∀ (n : Nat) (m : Margin),
      measure l (List.replicate n ' ' ++ c :: rest) line m
        = .ok ({ l with rest := c :: rest, line, fresh := false, shownFrom := line },
            { m with wide := m.wide + n, narrow := m.narrow + n })
  | 0, m => by
      unfold startsToken at hc
      simp only [Bool.not_eq_true', List.contains_eq_mem, List.mem_cons, List.not_mem_nil, or_false,
        decide_eq_false_iff_not, not_or] at hc
      obtain ⟨hspace, htab, hfeed, _, hback, _⟩ := hc
      rw [List.replicate_zero, List.nil_append]
      unfold measure
      split
      next heq => exact absurd (List.cons.inj heq).1 hspace
      next heq => exact absurd (List.cons.inj heq).1 htab
      next heq => exact absurd (List.cons.inj heq).1 hfeed
      next heq => exact absurd (List.cons.inj heq).1 hback
      next heq => exact absurd (List.cons.inj heq).1 hback
      next => rfl
  | n + 1, m => by
      have hn : ∀ k, k + 1 + n = k + (n + 1) := by omega
      rw [List.replicate_succ, List.cons_append, measure,
        measure_spaces l rest hc line n { m with wide := m.wide + 1, narrow := m.narrow + 1 }]
      simp only [hn]

theorem startsToken_ne {c : Char} (hc : startsToken c = true) : (c == '#' || c == '\n') = false := by
  unfold startsToken at hc
  simp only [Bool.not_eq_true', List.contains_eq_mem, List.mem_cons, List.not_mem_nil, or_false,
    decide_eq_false_iff_not, not_or] at hc
  simp [hc.2.2.2.1, hc.2.2.2.2.2]

/-- Where a line starts and nothing is due, it is begun. -/
theorem step_fresh {l next : Lexer} (hqueue : l.queue = []) (hfresh : l.fresh = true)
    (hbegin : l.beginLine = .ok next) : l.step = .again next := by
  simp only [step, hqueue, hfresh, hbegin, if_true]

/-- A line of code is begun: its spaces are read over and the indentation tokens are due. -/
theorem step_begin (line shown : Nat) {source goal : Nat} {c : Char} (rest : List Char)
    (hc : startsToken c = true) (hstep : goal ≤ source + 1) (hdeep : goal < maxIndents) :
    (atStart line shown (steps source) (List.replicate (4 * goal) ' ' ++ c :: rest)).step
      = .again { inLine line line (steps goal) [] (c :: rest) with queue := approach source goal } := by
  have hmeasure := measure_spaces
    (atStart line shown (steps source) (List.replicate (4 * goal) ' ' ++ c :: rest))
    rest hc line (4 * goal) {}
  have hbegin : beginLine
      (atStart line shown (steps source) (List.replicate (4 * goal) ' ' ++ c :: rest))
        = .ok { inLine line line (steps goal) [] (c :: rest) with
            queue := approach source goal } := by
    unfold beginLine
    dsimp only [atStart] at hmeasure ⊢
    rw [hmeasure]
    show (if (c == '#' || c == '\n') || !([] : List (Char × Nat)).isEmpty then _ else _) = _
    rw [startsToken_ne hc]
    show place _ ⟨0 + 4 * goal, 0 + 4 * goal, 0⟩ = _
    rw [Nat.zero_add, place_steps _ rfl rfl hstep hdeep]
    dsimp only
    rw [startsToken_ne hc]
    rfl
  exact step_fresh rfl rfl hbegin

end Lexer

/-! ## §3. Rows. -/

/-- The indentation tokens that are due are handed out one by one. -/
theorem emits_queue (line shown : Nat) (indents : List (Nat × Nat)) (rest : List Char) :
    ∀ queue : List TokenKind, (∀ k ∈ queue, k = .indent ∨ k = .dedent) →
      Emits { Lexer.inLine line shown indents [] rest with queue } (queue.map .layout)
        (.inLine line shown indents [] rest)
  | [], _ => .refl _
  | k :: queue, h => by
      rw [List.forall_mem_cons] at h
      have hmore := emits_queue line shown indents rest queue h.2
      have hsee : ∀ l after : Lexer, (l.emit after k []).seen = .layout k := by
        intro l after
        rcases h.1 with rfl | rfl <;> rfl
      have hstep : ({ Lexer.inLine line shown indents [] rest with queue := k :: queue }).step
          = .token (Lexer.emit { Lexer.inLine line shown indents [] rest with queue := k :: queue }
              { Lexer.inLine line shown indents [] rest with queue } k [])
            { Lexer.inLine line shown indents [] rest with queue } := by
        rcases h.1 with rfl | rfl <;> rfl
      have hsize : ({ Lexer.inLine line shown indents [] rest with queue } : Lexer).size
          < ({ Lexer.inLine line shown indents [] rest with queue := k :: queue } : Lexer).size := by
        unfold Lexer.size Lexer.inLine
        dsimp only
        rw [List.length_cons]
        omega
      rw [List.map_cons, ← hsee _ _]
      exact .token hstep hsize hmore

theorem approach_kinds {source goal : Nat} :
    ∀ k ∈ Lexer.approach source goal, k = .indent ∨ k = .dedent := by
  intro k hk
  unfold Lexer.approach at hk
  split at hk
  · exact .inl (List.mem_singleton.mp hk)
  · exact .inr (List.eq_of_mem_replicate hk)

theorem approach_length {source goal : Nat} (h : goal ≤ source + 1) :
    (Lexer.approach source goal).length + goal ≤ source + 2 * goal := by
  unfold Lexer.approach
  split
  · rw [List.length_singleton]
    omega
  · rw [List.length_replicate]
    omega

/-- The rest of a line of code that has been begun is read as its tokens. -/
theorem emits_row {row : List Lexeme} (hrow : isRow row = true) (line shown : Nat)
    {source goal : Nat} (hstep : goal ≤ source + 1) (hdeep : goal < Lexer.maxIndents)
    (more : List Char) :
    ∃ shown', Emits (.atStart line shown (Lexer.steps source) (rowText goal row ++ more))
      ((Lexer.approach source goal).map .layout ++ rowTokens line row)
      (.atStart (line + 1) shown' (Lexer.steps goal) more) := by
  unfold isRow at hrow
  rw [Bool.and_eq_true] at hrow
  obtain ⟨hhead, hcloses⟩ := hrow
  obtain ⟨shown', hline⟩ := emits_line line line (Lexer.steps goal) [] row more hcloses
  refine ⟨shown', ?_⟩
  have htext : rowText goal row ++ more
      = List.replicate (4 * goal) ' ' ++ (Lexeme.spell row ++ '\n' :: more) := by
    unfold rowText
    simp
  cases hspell : Lexeme.spell row with
  | nil => rw [hspell] at hhead; cases hhead
  | cons c s =>
      rw [hspell] at hhead hline htext
      have hc : startsToken c = true := hhead
      rw [htext, List.cons_append]
      refine .again (Lexer.step_begin line shown (s ++ '\n' :: more) hc hstep hdeep) ?_
        ((emits_queue line line (Lexer.steps goal) _ _ approach_kinds).append hline)
      have hlength := approach_length hstep
      show 4 * (c :: (s ++ '\n' :: more)).length + (Lexer.approach source goal).length + 0
          + (Lexer.steps goal).length
        < 4 * (List.replicate (4 * goal) ' ' ++ c :: (s ++ '\n' :: more)).length + 0 + 2
          + (Lexer.steps source).length
      rw [List.length_append, List.length_replicate, Lexer.steps_length, Lexer.steps_length]
      omega

/-! ## §4. Trees. -/

/-- Steps back to a level. -/
def back (n : Nat) : List Seen := List.replicate n (.layout .dedent)

theorem map_approach {source goal : Nat} (h : goal ≤ source) :
    (Lexer.approach source goal).map Seen.layout = back (source - goal) := by
  unfold Lexer.approach back
  rw [if_neg (by omega), List.map_replicate]

theorem map_approach_succ (level : Nat) :
    (Lexer.approach level (level + 1)).map Seen.layout = [.layout .indent] := by
  unfold Lexer.approach
  rw [if_pos (Nat.lt_succ_self _)]
  rfl

/-- What the lexer has handed out behind a stretch of code at a level; the steps back to that level
come with the next line. -/
def Lexes (level line : Nat) (tokens : List Seen) (text : List Char) (height : Nat) : Prop :=
  ∀ (source shown : Nat) (more : List Char), level ≤ source + 1 →
    ∃ source' shown' out, level ≤ source' ∧
      Emits (.atStart line shown (Lexer.steps source) (text ++ more)) out
        (.atStart (line + height) shown' (Lexer.steps source') more) ∧
      out ++ back (source' - level) = (Lexer.approach source level).map .layout ++ tokens

mutual

/-- **A tree is read as its tokens.** -/
theorem emits_code : ∀ (c : Code) (level line : Nat), c.fine level = true →
    level < Lexer.maxIndents → Lexes level line (c.tokens line) (c.text level) c.height
  | .line row, level, line, hfine, hdeep => by
      intro source shown more hstep
      obtain ⟨shown', hemits⟩ := emits_row hfine line shown hstep hdeep more
      exact ⟨level, shown', _, Nat.le_refl _, hemits, by simp [back, Code.tokens]⟩
  | .block header [], level, line, hfine, _ => by
      unfold Code.fine at hfine
      simp at hfine
  | .block header (c :: cs), level, line, hfine, hdeep => by
      intro source shown more hstep
      unfold Code.fine at hfine
      simp only [Bool.and_eq_true, decide_eq_true_eq] at hfine
      obtain ⟨⟨⟨hheader, _⟩, hroom⟩, hbody⟩ := hfine
      obtain ⟨shown₁, hemits₁⟩ := emits_row hheader line shown hstep hdeep
        (Code.texts (level + 1) (c :: cs) ++ more)
      obtain ⟨source₂, shown₂, out, hle, hemits₂, hout⟩ :=
        emits_codes (c :: cs) (level + 1) (line + 1) hbody hroom (by simp) level shown₁ more
          (Nat.le_refl _)
      rw [map_approach_succ] at hout
      refine ⟨source₂, shown₂,
        (Lexer.approach source level).map .layout ++ rowTokens line header ++ out, by omega, ?_, ?_⟩
      · have htext : (Code.block header (c :: cs)).text level ++ more
            = rowText level header ++ (Code.texts (level + 1) (c :: cs) ++ more) := by
          rw [Code.text, List.append_assoc]
        have hheight : line + (Code.block header (c :: cs)).height
            = line + 1 + Code.heights (c :: cs) := by
          rw [Code.height]
          omega
        rw [htext, hheight]
        exact hemits₁.append hemits₂
      · have hback : back (source₂ - level) = back (source₂ - (level + 1)) ++ back 1 := by
          unfold back
          rw [List.replicate_append_replicate]
          congr 1
          omega
        rw [hback, List.append_assoc, ← List.append_assoc out, hout, Code.tokens]
        simp [back]

/-- **Several trees are read as their tokens**; the first one may be one step deeper than the line
before. -/
theorem emits_codes : ∀ (cs : List Code) (level line : Nat), Code.allFine level cs = true →
    level < Lexer.maxIndents → cs ≠ [] →
      Lexes level line (Code.tokensAll line cs) (Code.texts level cs) (Code.heights cs)
  | [], _, _, _, _, hne => absurd rfl hne
  | [c], level, line, hfine, hdeep, _ => by
      unfold Code.allFine at hfine
      rw [Bool.and_eq_true] at hfine
      have hcode := emits_code c level line hfine.1 hdeep
      have htokens : Code.tokensAll line [c] = c.tokens line := by
        simp [Code.tokensAll]
      have htext : Code.texts level [c] = c.text level := by
        simp [Code.texts]
      rw [htokens, htext]
      exact hcode
  | c :: d :: cs, level, line, hfine, hdeep, _ => by
      intro source shown more hstep
      unfold Code.allFine at hfine
      rw [Bool.and_eq_true] at hfine
      obtain ⟨source₁, shown₁, out₁, hle₁, hemits₁, hout₁⟩ :=
        emits_code c level line hfine.1 hdeep source shown (Code.texts level (d :: cs) ++ more) hstep
      obtain ⟨source₂, shown₂, out₂, hle₂, hemits₂, hout₂⟩ :=
        emits_codes (d :: cs) level (line + c.height) hfine.2 hdeep (by simp) source₁ shown₁ more
          (by omega)
      rw [map_approach hle₁] at hout₂
      refine ⟨source₂, shown₂, out₁ ++ out₂, hle₂, ?_, ?_⟩
      · have htext : Code.texts level (c :: d :: cs) ++ more
            = c.text level ++ (Code.texts level (d :: cs) ++ more) := by
          rw [Code.texts, List.append_assoc]
        have hheight : line + Code.heights (c :: d :: cs)
            = line + c.height + Code.heights (d :: cs) := by
          rw [Code.heights]
          omega
        rw [htext, hheight]
        exact hemits₁.append hemits₂
      · calc out₁ ++ out₂ ++ back (source₂ - level)
            = out₁ ++ (back (source₁ - level) ++ Code.tokensAll (line + c.height) (d :: cs)) := by
              rw [List.append_assoc, hout₂]
          _ = (Lexer.approach source level).map .layout ++ Code.tokensAll line (c :: d :: cs) := by
              rw [← List.append_assoc, hout₁, List.append_assoc, Code.tokensAll.eq_2 line c]

end

/-! ## §5. A whole text. -/

/-- At the end of a text the open indentations are left. -/
theorem emits_end (line shown source : Nat) :
    Emits (.atStart line shown (Lexer.steps source) []) (back source)
      (.inLine line shown [] [] []) := by
  have hplace : Lexer.place (.inLine line shown (Lexer.steps source) [] []) ⟨4 * 0, 4 * 0, 0⟩
      = .ok { Lexer.inLine line shown [] [] [] with queue := Lexer.approach source 0 } :=
    Lexer.place_steps _ rfl rfl (Nat.zero_le _) (by decide)
  have hstep : (Lexer.atStart line shown (Lexer.steps source) []).step
      = .again { Lexer.inLine line shown [] [] [] with queue := Lexer.approach source 0 } :=
    Lexer.step_fresh rfl rfl hplace
  have hqueue := emits_queue line shown [] [] (Lexer.approach source 0) approach_kinds
  rw [map_approach (Nat.zero_le _), Nat.sub_zero] at hqueue
  refine .again hstep ?_ hqueue
  have hlength := approach_length (Nat.zero_le (source + 1))
  show 4 * 0 + (Lexer.approach source 0).length + 0 + 0 < 4 * 0 + 0 + 2 + (Lexer.steps source).length
  rw [Lexer.steps_length]
  omega

/-- Behind them the tokens are over. -/
theorem run_finish (line shown fuel : Nat) (acc : Array Token) :
    ∃ t ending, t.seen = .layout .finish ∧
      Lexer.run (fuel + 2) (.inLine line shown [] [] []) acc = (acc.push t, ending) :=
  ⟨_, _, rfl, rfl⟩

/-- The first line of a text is begun. -/
theorem Emits.begun {first : Nat} {text : List Char} {ts : List Seen} {last : Lexer}
    (hstart : text.head?.any startsToken = true)
    (h : Emits (.inLine first first [] [] text) ts last) :
    Emits (.atStart first first [] text) ts last := by
  cases text with
  | nil => cases hstart
  | cons c text =>
      have hbegin : (Lexer.atStart first first [] (c :: text)).step
          = .again (.inLine first first [] [] (c :: text)) :=
        Lexer.step_begin first first text hstart (Nat.zero_le 1) (by decide)
      refine .again hbegin ?_ h
      show 4 * (c :: text).length + 0 + 0 + 0 < 4 * (c :: text).length + 0 + 2 + 0
      omega

section Whole

variable {first : Nat} {text : List Char} {ts : List Seen}

/-- Steps that the lexer takes from the start of a text are taken with what is read so far. -/
theorem tokensOf_run {last : Lexer} (h : Emits (.atStart first first [] text) ts last) :
    ∃ (fuel : Nat) (tokens : List Token), tokens.map Token.seen = ts
      ∧ tokensOf text first = Lexer.run (fuel + 2) last tokens.toArray := by
  have hsize : (Lexer.atStart first first [] text).size + 14 ≤ 4 * text.length + 16 := by
    rw [Lexer.size_atStart]
    show 4 * text.length + 2 + 0 + 14 ≤ _
    omega
  obtain ⟨fuel, tokens, hfuel, htokens, hrun⟩ := h.run _ #[] hsize
  obtain ⟨rest, rfl⟩ : ∃ n, fuel = n + 2 := ⟨fuel - 2, by omega⟩
  rw [Array.empty_append] at hrun
  exact ⟨rest, tokens, htokens, hrun⟩

/-- Where the lexer stops there are no more tokens. -/
theorem tokensOf_stops {last : Lexer} {ending : Ending}
    (h : Emits (.atStart first first [] text) ts last) (hstop : last.step = .done ending) :
    (tokensOf text first).1.toList.map Token.seen = ts := by
  obtain ⟨fuel, tokens, htokens, hrun⟩ := tokensOf_run h
  rw [hrun, Lexer.run, hstop]
  exact htokens

/-- Where the last line ends the tokens are over. -/
theorem tokensOf_emits {line shown : Nat} (source : Nat)
    (h : Emits (.atStart first first [] text) ts (.atStart line shown (Lexer.steps source) [])) :
    (tokensOf text first).1.toList.map Token.seen = ts ++ back source ++ [Seen.layout .finish] := by
  obtain ⟨fuel, tokens, htokens, hrun⟩ := tokensOf_run (h.append (emits_end line shown source))
  obtain ⟨t, ending, hseen, hlast⟩ := run_finish line shown fuel tokens.toArray
  rw [hrun, hlast]
  simp only [Array.toList_push, List.map_append, List.map_cons, List.map_nil, hseen, htokens]

end Whole

/-- **A text of trees is cut into the tokens of the trees.** -/
theorem tokensOf_texts {cs : List Code} (hfine : Code.allFine 0 cs = true) (hne : cs ≠ [])
    (first : Nat) :
    (tokensOf (Code.texts 0 cs) first).1.toList.map Token.seen
      = Code.tokensAll first cs ++ [Seen.layout .finish] := by
  obtain ⟨source, shown, out, _, hemits, hout⟩ :=
    emits_codes cs 0 first hfine (by decide) hne 0 first [] (Nat.zero_le _)
  rw [List.append_nil, Nat.sub_zero] at *
  rw [map_approach (Nat.le_refl 0), Nat.sub_self] at hout
  have hout' : out ++ back source = Code.tokensAll first cs := hout
  rw [tokensOf_emits _ hemits, hout']

/-! ## §6. The characters of a text. -/

theorem rowText_clean {row : List Lexeme} (level : Nat) (hrow : isRow row = true) :
    ∀ a ∈ rowText level row, a ≠ '\r' ∧ a ≠ '\x00' := by
  unfold isRow at hrow
  rw [Bool.and_eq_true] at hrow
  intro a ha
  unfold rowText at ha
  rw [List.mem_append, List.mem_append, List.mem_singleton] at ha
  rcases ha with ha | ha | rfl
  · rw [List.eq_of_mem_replicate ha]
    decide
  · exact (closes_clean hrow.2 a ha).2
  · decide

mutual

/-- A tree has no character that code may not hold. -/
theorem text_clean : ∀ (c : Code) (level : Nat), c.fine level = true →
    ∀ a ∈ c.text level, a ≠ '\r' ∧ a ≠ '\x00'
  | .line row, level, hfine => rowText_clean level hfine
  | .block header body, level, hfine => by
      unfold Code.fine at hfine
      simp only [Bool.and_eq_true] at hfine
      intro a ha
      rw [Code.text, List.mem_append] at ha
      rcases ha with ha | ha
      · exact rowText_clean level hfine.1.1.1 a ha
      · exact texts_clean body (level + 1) hfine.2 a ha

theorem texts_clean : ∀ (cs : List Code) (level : Nat), Code.allFine level cs = true →
    ∀ a ∈ Code.texts level cs, a ≠ '\r' ∧ a ≠ '\x00'
  | [], _, _ => by intro a ha; cases ha
  | c :: cs, level, hfine => by
      unfold Code.allFine at hfine
      rw [Bool.and_eq_true] at hfine
      intro a ha
      rw [Code.texts, List.mem_append] at ha
      rcases ha with ha | ha
      · exact text_clean c level hfine.1 a ha
      · exact texts_clean cs level hfine.2 a ha

end

mutual

theorem text_getLast? : ∀ (c : Code) (level : Nat), (c.text level).getLast? = some '\n'
  | .line row, level => by
      rw [Code.text, rowText, ← List.append_assoc]
      exact List.getLast?_concat
  | .block header body, level => by
      rw [Code.text, List.getLast?_append]
      rcases texts_getLast? body (level + 1) with h | h
      · rw [h, rowText, ← List.append_assoc]
        exact List.getLast?_concat
      · rw [h]
        rfl

/-- A text of trees is empty or ends with a line end. -/
theorem texts_getLast? : ∀ (cs : List Code) (level : Nat),
    (Code.texts level cs).getLast? = none ∨ (Code.texts level cs).getLast? = some '\n'
  | [], _ => .inl rfl
  | c :: cs, level => by
      refine .inr ?_
      rw [Code.texts, List.getLast?_append]
      rcases texts_getLast? cs level with h | h
      · rw [h, text_getLast? c level]
        rfl
      · rw [h]
        rfl

end

/-- Line ends of another convention are all there is to unify. -/
theorem unifyNewlines_eq_self : ∀ {s : List Char}, (∀ c ∈ s, c ≠ '\r') → unifyNewlines s = s
  | [], _ => rfl
  | c :: s, h => by
      rw [List.forall_mem_cons] at h
      rw [unifyNewlines.eq_3 _ _ fun rest hc _ => h.1 hc, unifyNewlines_eq_self h.2]
      simp [h.1]

/-- A single line is prepared by ending it. -/
theorem preparedText_line {s : List Char} (h : ∀ c ∈ s, c ≠ '\n' ∧ c ≠ '\r') :
    preparedText s = s ++ ['\n'] := by
  have hlast : s.getLast? ≠ some '\n' := fun hn => (h '\n' (List.mem_of_getLast? hn)).1 rfl
  unfold preparedText
  rw [unifyNewlines_eq_self fun c hc => (h c hc).2, if_neg (by simpa using hlast)]

/-- A text of trees is read as it is. -/
theorem preparedText_texts {cs : List Code} (hfine : Code.allFine 0 cs = true) (hne : cs ≠ []) :
    preparedText (Code.texts 0 cs) = Code.texts 0 cs := by
  have hlast : (Code.texts 0 cs).getLast? = some '\n' := by
    cases cs with
    | nil => exact absurd rfl hne
    | cons c cs =>
        rw [Code.texts, List.getLast?_append, text_getLast?]
        rcases texts_getLast? cs 0 with h | h <;> rw [h] <;> rfl
  unfold preparedText
  dsimp only
  rw [unifyNewlines_eq_self fun a ha => (texts_clean cs 0 hfine a ha).1, hlast]
  rfl

end TagTemplate.Script
