/-
  TagTemplate.Proofs.Script.RemarkedLine
  ────────────────────────────────
  **A REMARK IN A LINE OF CODE.**

  A remark reaches up to the end of its line, whatever stands there.  Behind
  a line of code it changes nothing.  In front of a bracket that closes it
  hides that bracket: the line goes on, the text ends first, and what is left
  open has no tree.

      f(x)  # a remark        — read as `f(x)`
      f(x  # a remark)        — not read at all

    • `emits_remarked` — the part of a row in front of a remark,
    • `parseTree_remark` — a line with a remark behind it,
    • `parseTree_open` — a line with a remark inside of brackets.
-/
import TagTemplate.Proofs.Block.Remark
import TagTemplate.Proofs.Script.Suite

namespace TagTemplate.Script

open Text
open Block (IsStop)

/-! ## §1. Part of a row. -/

/-- Nothing runs into a blank or a remark. -/
theorem endsBefore_stop {x : Lexeme} {c d : Char} (h : x.endsBefore c = true) (hd : IsStop d) :
    x.endsBefore d = true := by
  have hseparates : Lexeme.separates d = true := by rcases hd with rfl | rfl | rfl <;> decide
  cases x with
  | name w | word w =>
      simp only [Lexeme.endsBefore, Bool.and_eq_true] at h ⊢
      exact ⟨h.1, hseparates⟩
  | number w =>
      simp only [Lexeme.endsBefore, Bool.and_eq_true] at h ⊢
      exact ⟨⟨h.1.1, hseparates⟩, by rcases hd with rfl | rfl | rfl <;> decide⟩
  | text q =>
      show (!Lexeme.isQuoteMark d) = true
      rcases hd with rfl | rfl | rfl <;> decide
  | mark m =>
      unfold Lexeme.endsBefore Lexeme.isMark at h ⊢
      simp only [Bool.and_eq_true, List.all_eq_true, Bool.not_eq_true'] at h ⊢
      obtain ⟨⟨⟨⟨hne, hall⟩, _⟩, hmark⟩, hlong⟩ := h
      refine ⟨⟨⟨⟨hne, hall⟩, ?_⟩, hmark⟩, fun long hmem => ?_⟩
      · have hdigit : isDigit d = false := by rcases hd with rfl | rfl | rfl <;> decide
        rw [hdigit, Bool.and_false]
      · -- no long mark holds such a character
        have hall : ∀ long ∈ longMarks, ' ' ∉ long ∧ '\t' ∉ long ∧ '#' ∉ long := by decide
        obtain ⟨hspace, htab, hhash⟩ := hall long hmem
        refine Bool.eq_false_iff.mpr fun hstart => ?_
        obtain ⟨rest, hrest⟩ := startsWith_iff.mp hstart
        have hin : d ∈ long := by
          rw [hrest]
          simp
        rcases hd with rfl | rfl | rfl
        · exact hspace hin
        · exact htab hin
        · exact hhash hin
  | gap => rfl

section Part

variable (line shown : Nat) (indents : List (Nat × Nat))

/-- A remark is read over up to the end of its line. -/
theorem step_remark (brackets : List (Char × Nat)) {gap text : List Char} (hgap : IsMargin gap)
    (htext : '\n' ∉ text) (rest : List Char) :
    (Lexer.inLine line shown indents brackets (gap ++ '#' :: text ++ '\n' :: rest)).step
      = (Lexer.inLine line shown indents brackets ('\n' :: rest)).step := by
  have hin : ∀ c ∈ '#' :: text, (c != '\n') = true := by
    intro c hc
    rw [bne_iff_ne]
    rintro rfl
    exact absurd (List.mem_of_ne_of_mem (by decide) hc) htext
  have hblank : ∀ c ∈ gap, (c == ' ' || c == '\t' || c == '\x0c') = true := by
    intro c hc
    rcases hgap c hc with rfl | rfl <;> decide
  have hpast : (gap ++ '#' :: text ++ '\n' :: rest).dropWhile
      (fun c => c == ' ' || c == '\t' || c == '\x0c') = '#' :: text ++ '\n' :: rest := by
    rw [List.append_assoc, List.dropWhile_append_of_pos hblank]
    rfl
  have hover : ('#' :: text ++ '\n' :: rest).dropWhile (· != '\n') = '\n' :: rest := by
    rw [List.dropWhile_append_of_pos hin]
    rfl
  rw [Lexer.step_inLine, Lexer.step_inLine]
  unfold Lexer.lineStep
  dsimp only [Lexer.inLine]
  rw [hpast]
  rw [List.cons_append] at hover ⊢
  simp only [List.head?_cons, beq_self_eq_true, if_true, hover]
  rfl

/-- In front of a remark that ends the line, part of a row is read as its tokens. -/
theorem emits_remarked {row closers : List Lexeme} {gap text : List Char} (hgap : IsMargin gap)
    (htext : '\n' ∉ text) (hcloses : Lexeme.closes [] (row ++ closers) = true) (rest : List Char) :
    ∃ brackets, Lexeme.closes (brackets.map Prod.fst) closers = true
      ∧ ∀ {ts : List Seen} {last : Lexer}, last.fresh = true →
        Emits (.inLine line shown indents brackets ('\n' :: rest)) ts last →
          Emits (.inLine line shown indents [] (Lexeme.spell row ++ (gap ++ '#' :: text ++ '\n' :: rest)))
            (Lexeme.tokens line row ++ ts) last := by
  obtain ⟨d, more, hstart, hd⟩ := Block.gap_stop hgap text
  obtain ⟨brackets, hclosers, hemits⟩ :=
    emits_part line shown indents (more ++ '\n' :: rest) closers (fun _ h => endsBefore_stop h hd) row []
      hcloses
  refine ⟨brackets, hclosers, fun hlast hmore => ?_⟩
  have hremark := step_remark line shown indents brackets hgap htext rest
  rw [hstart, List.cons_append] at hremark ⊢
  refine hemits hlast ?_
  -- the steps from the remark on are those from the end of the line on
  have hsize : (Lexer.inLine line shown indents brackets ('\n' :: rest)).size
      < (Lexer.inLine line shown indents brackets (d :: (more ++ '\n' :: rest))).size := by
    rw [Lexer.size_inLine, Lexer.size_inLine]
    simp only [List.length_cons, List.length_append]
    omega
  cases hmore with
  | refl => cases hlast
  | token hstep hlt hmore => exact .token (hremark.trans hstep) (Nat.lt_trans hlt hsize) hmore
  | again hstep hlt hmore => exact .again (hremark.trans hstep) (Nat.lt_trans hlt hsize) hmore

end Part

/-! ## §2. A remark behind a line. -/

/-- A line with a remark is one line, and is prepared by ending it. -/
theorem preparedText_remarked {line gap text : List Char} (hline : ∀ c ∈ line, c ≠ '\n' ∧ c ≠ '\r')
    (hgap : IsMargin gap) (htext : ∀ c ∈ text, c ≠ '\n' ∧ c ≠ '\r') :
    preparedText (line ++ (gap ++ '#' :: text)) = line ++ (gap ++ '#' :: text ++ ['\n']) := by
  rw [preparedText_line, List.append_assoc]
  intro c hc
  rw [List.mem_append, List.mem_append, List.mem_cons] at hc
  rcases hc with hc | hc | rfl | hc
  · exact hline c hc
  · rcases hgap c hc with rfl | rfl <;> decide
  · decide
  · exact htext c hc

/-- A remark stays on its line. -/
theorem remark_clean (r : Block.Remark) : ∀ c ∈ r.text, c ≠ '\n' ∧ c ≠ '\r' := by
  intro c hc
  have hin := r.text_inLine c hc
  constructor <;>
    · rintro rfl
      revert hin
      decide

/-- A text starts as the part of it that stands first. -/
theorem starts_append {s : List Char} (h : s.head?.any startsToken = true) (more : List Char) :
    (s ++ more).head?.any startsToken = true := by
  cases s with
  | nil => cases h
  | cons c s => exact h

/-- **A line with a remark behind it is read as it is without.** -/
theorem parseTree_remark (s : Sentence) {row : List Lexeme} (hcodes : s.codes = [.line row])
    (hrow : isRow row = true) (hdepth : s.depth ≤ 16) (r : Block.Remark) (hnull : '\x00' ∉ r.text) :
    parseTree (String.ofList (Lexeme.spell row ++ r.chars)) = .ok [.mk 1 (s.stmt 1)] := by
  unfold isRow at hrow
  rw [Bool.and_eq_true] at hrow
  obtain ⟨hstart, hcloses⟩ := hrow
  have hclean := closes_clean hcloses
  have htext := remark_clean r
  refine parseTree_of_tokens ?_ (fun depth hd => program_yields (.one s) (Nat.le_trans hdepth hd)) ?_
  · have hline : ∀ c ∈ Lexeme.spell row, c ≠ '\n' ∧ c ≠ '\r' := fun c hc =>
      ⟨(hclean c hc).1, (hclean c hc).2.1⟩
    rw [Block.Remark.chars, preparedText_remarked hline r.gap_margin htext]
    rw [← List.append_nil row] at hcloses
    obtain ⟨brackets, hclosed, hemits⟩ := emits_remarked 1 1 [] r.gap_margin
      (fun h => (htext _ h).1 rfl) hcloses []
    -- no bracket is open where the line ends
    have hnone : brackets = [] := by simpa [Lexeme.closes] using hclosed
    subst hnone
    -- behind the remark the line ends, as behind an empty row
    obtain ⟨shown, hend⟩ := emits_line 1 1 [] [] [] [] rfl
    have hall := tokensOf_emits 0 ((hemits rfl hend).begun (starts_append hstart _))
    rw [hall, Suite.codes, hcodes]
    simp [back, Lexeme.tokens, Code.tokensAll, Code.tokens, rowTokens]
  · rw [Block.Remark.chars, List.mem_append, List.mem_append, List.mem_cons]
    rintro (h | h | h | h)
    · exact (hclean _ h).2.2 rfl
    · rcases r.gap_margin _ h with h | h <;> cases h
    · cases h
    · exact hnull h

/-! ## §3. A remark inside of brackets. -/

/-- Only the empty part of a row has no characters. -/
theorem spell_eq_nil {row closers : List Lexeme} {stack : List Char}
    (h : Lexeme.closes stack (row ++ closers) = true) (hnil : Lexeme.spell row = []) : row = [] := by
  cases row with
  | nil => rfl
  | cons x row =>
      rw [List.cons_append, Lexeme.closes, Bool.and_eq_true] at h
      rw [Lexeme.spell, List.flatMap_cons, List.append_eq_nil_iff] at hnil
      exact absurd hnil.1 (chars_ne_nil h.1)

/-- Where the text ends with a bracket open, the lexer stops. -/
theorem emits_openEnd (line shown : Nat) (indents : List (Nat × Nat)) {brackets : List (Char × Nat)}
    (hopen : brackets ≠ []) :
    ∃ next last ending, next.fresh = true
      ∧ Emits (.inLine line shown indents brackets ['\n']) [] next
      ∧ Emits next [] last ∧ last.step = .done ending := by
  obtain ⟨b, brackets, rfl⟩ := List.exists_cons_of_ne_nil hopen
  let here := Lexer.inLine line shown indents (b :: brackets) ['\n']
  let next := here.newLine []
  let last : Lexer := { next with fresh := false }
  have hstep : here.step = .again next := rfl
  have hnext : next.step = .again last := rfl
  refine ⟨next, last, _, rfl, .again hstep ?_ (.refl _), .again hnext ?_ (.refl _), rfl⟩
  · show 4 * 0 + 0 + 2 + indents.length < 4 * 1 + 0 + 0 + indents.length
    omega
  · show 4 * 0 + 0 + 0 + indents.length < 4 * 0 + 0 + 2 + indents.length
    omega

/-- No text without a last token is a program. -/
theorem run_program_error {s : Source} (h : ∀ t ∈ s.tokens, t.kind ≠ .finish) (depth : Nat) :
    ∃ f, s.run (Parse.program depth) = .error f := by
  have hlayout : ∀ c next, Parse.layout .finish s c ≠ .ok () next := by
    intro c next hok
    unfold Parse.layout at hok
    rw [Parse.bind_apply, Parse.peek] at hok
    cases hget : s.tokens[c.pos]? with
    | none =>
        rw [hget] at hok
        cases hok
    | some t =>
        have hkind : (t.kind == TokenKind.finish) = false :=
          beq_eq_false_iff_ne.mpr (h t (Array.mem_of_getElem? hget))
        rw [hget] at hok
        dsimp only at hok
        rw [hkind] at hok
        cases hok
  have hprogram : ∀ c tree next, Parse.program depth s c ≠ .ok tree next := by
    intro c tree next hok
    unfold Parse.program at hok
    rw [Parse.bind_apply] at hok
    split at hok
    next body behind _ =>
      rw [Parse.bind_apply] at hok
      split at hok
      next hfinish => exact hlayout behind _ hfinish
      next => cases hok
      next => cases hok
    next => cases hok
    next => cases hok
  unfold Source.run
  cases hrun : Parse.program depth s {} with
  | ok tree next => exact absurd hrun (hprogram _ _ _)
  | halt halt => exact ⟨_, rfl⟩
  | reject far =>
      dsimp only
      split
      · exact ⟨_, rfl⟩
      · exact ⟨_, rfl⟩
      · exact ⟨_, rfl⟩

/-- The tokens of a row have characters. -/
theorem tokens_kind (line : Nat) (row : List Lexeme) :
    ∀ x ∈ Lexeme.tokens line row, x.kind ≠ .finish := by
  intro x hx
  obtain ⟨y, _, hy⟩ := List.mem_filterMap.mp hx
  cases y with
  | gap => cases hy
  | _ =>
      obtain rfl := Option.some.inj hy
      exact TokenKind.noConfusion

/-- **A line with a remark in front of a bracket that closes has no tree**: the remark goes on to the end
of the line, and the bracket stays open. -/
theorem parseTree_open {row closers : List Lexeme} (hrow : isRow (row ++ closers) = true)
    (hopen : Lexeme.closes [] closers = false) (r : Block.Remark) :
    ∃ f, parseTree (String.ofList (Lexeme.spell row ++ (r.chars ++ Lexeme.spell closers))) = .error f := by
  unfold isRow at hrow
  rw [Bool.and_eq_true] at hrow
  obtain ⟨hstart, hcloses⟩ := hrow
  have hspell : Lexeme.spell (row ++ closers) = Lexeme.spell row ++ Lexeme.spell closers :=
    List.flatMap_append
  have hclean := closes_clean hcloses
  rw [hspell] at hstart hclean
  rw [List.forall_mem_append] at hclean
  have hline : ∀ c ∈ Lexeme.spell row, c ≠ '\n' ∧ c ≠ '\r' := fun c hc =>
    ⟨(hclean.1 c hc).1, (hclean.1 c hc).2.1⟩
  -- for the lexer, what closes the brackets is the end of the remark
  have htext : ∀ c ∈ r.text ++ Lexeme.spell closers, c ≠ '\n' ∧ c ≠ '\r' := by
    rw [List.forall_mem_append]
    exact ⟨remark_clean r, fun c hc => ⟨(hclean.2 c hc).1, (hclean.2 c hc).2.1⟩⟩
  have hremark : r.chars ++ Lexeme.spell closers = r.gap ++ '#' :: (r.text ++ Lexeme.spell closers) := by
    rw [Block.Remark.chars, List.append_assoc]
    rfl
  have hbegin : (Lexeme.spell row ++ (r.gap ++ '#' :: (r.text ++ Lexeme.spell closers)
      ++ ['\n'])).head?.any startsToken = true := by
    refine starts_append ?_ _
    cases hrow : Lexeme.spell row with
    | nil =>
        rw [spell_eq_nil hcloses hrow] at hcloses
        rw [List.nil_append, hopen] at hcloses
        cases hcloses
    | cons c s =>
        rw [hrow] at hstart
        exact hstart
  obtain ⟨brackets, hclosers, hemits⟩ := emits_remarked 1 1 [] r.gap_margin
    (fun h => (htext _ h).1 rfl) hcloses []
  have hne : brackets ≠ [] := by
    rintro rfl
    rw [List.map_nil, hopen] at hclosers
    cases hclosers
  obtain ⟨next, last, ending, hfresh, hnext, hlast, hstop⟩ := emits_openEnd 1 1 [] hne
  have htokens := tokensOf_stops (((hemits hfresh hnext).append hlast).begun hbegin) hstop
  rw [hremark]
  unfold parseTree
  rw [String.toList_ofList, preparedText_remarked hline r.gap_margin htext]
  split
  · exact ⟨_, rfl⟩
  · refine run_program_error (fun t ht => ?_) _
    have hseen : t.seen ∈ Lexeme.tokens 1 row := by
      rw [List.append_nil, List.append_nil] at htokens
      rw [← htokens]
      exact List.mem_map_of_mem (Array.mem_toList_iff.mpr ht)
    exact tokens_kind 1 row _ hseen

end TagTemplate.Script
