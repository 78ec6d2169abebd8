/-
  TagTemplate.Proofs.Code.Shift
  ────────────────────────────────
  **WHAT THE FUNCTION AROUND A BODY DOES TO THE TEXT INSIDE.**

  A body becomes a function by moving its lines four spaces to the right.
  This looks at characters and not at what they mean: a line that starts
  inside a string is moved like any other.  So of a text in the body

      on one line         — nothing changes
      on several lines    — each line but the first is moved

    • `wrapFunction_chars` — the function, character by character,
    • `moveRight_append`, `moveRight_around` — texts one behind the other, and
      a text on one line,
    • `line_in_body`, `line_in_function` — what a line of the body holds, on one
      line, the function holds.
-/
import TagTemplate.Proofs.Code.Moves
import TagTemplate.Proofs.Code.Rows

namespace TagTemplate

open Text

/-! ## §1. Moving characters. -/

/-- The spaces in front of a line that is moved. -/
def shift : List Char := "    ".toList

/-- A text with four spaces in front of what starts a line; `fresh` says whether the text itself starts
one. -/
def moveRight : Bool → List Char → List Char
  | _, [] => []
  | fresh, c :: s =>
    if c == '\n' then c :: moveRight true s
    else (if fresh then shift else []) ++ c :: moveRight false s

/-- Whether a line starts behind a text. -/
def freshAfter : Bool → List Char → Bool
  | fresh, [] => fresh
  | _, c :: s => freshAfter (c == '\n') s

/-- **Texts one behind the other are moved one behind the other.** -/
theorem moveRight_append (s t : List Char) : ∀ fresh,
    moveRight fresh (s ++ t) = moveRight fresh s ++ moveRight (freshAfter fresh s) t := by
  induction s with
  | nil => exact fun _ => rfl
  | cons c s ih =>
      intro fresh
      rw [List.cons_append, moveRight, moveRight, freshAfter]
      by_cases hc : (c == '\n') = true
      · rw [if_pos hc, if_pos hc, hc, ih true]
        rfl
      · rw [if_neg hc, if_neg hc, Bool.eq_false_iff.mpr hc, ih false, List.append_assoc]
        rfl

theorem freshAfter_append (s t : List Char) : ∀ fresh,
    freshAfter fresh (s ++ t) = freshAfter (freshAfter fresh s) t := by
  induction s with
  | nil => exact fun _ => rfl
  | cons c s ih => exact fun fresh => ih (c == '\n')

/-- A text on one line stays as it is, behind the spaces of its line if it starts one. -/
theorem moveRight_line {s : List Char} (h : '\n' ∉ s) (hne : s ≠ []) (fresh : Bool) :
    moveRight fresh s = (if fresh then shift else []) ++ s := by
  induction s generalizing fresh with
  | nil => exact absurd rfl hne
  | cons c s ih =>
      rw [List.mem_cons, not_or] at h
      rw [moveRight, if_neg (by simpa using Ne.symm h.1)]
      cases s with
      | nil => rfl
      | cons d s => rw [ih h.2 (List.cons_ne_nil d s) false, if_neg Bool.false_ne_true, List.nil_append]

/-! ## §2. Texts that are not at the end of a line. -/

/-- A text, moved, with something behind it on its last line. -/
def moveHeld (fresh : Bool) (s : List Char) : List Char :=
  moveRight fresh s ++ if freshAfter fresh s then shift else []

theorem moveHeld_newline (fresh : Bool) (s : List Char) :
    moveHeld fresh ('\n' :: s) = '\n' :: moveHeld true s := rfl

theorem moveHeld_cons {c : Char} (h : c ≠ '\n') (fresh : Bool) (s : List Char) :
    moveHeld fresh (c :: s) = (if fresh then shift else []) ++ c :: moveHeld false s := by
  have hc : (c == '\n') = false := beq_eq_false_iff_ne.mpr h
  rw [moveHeld, moveHeld, moveRight, freshAfter, hc, if_neg Bool.false_ne_true, List.append_assoc]
  rfl

/-- No line starts behind a text that is on one. -/
theorem freshAfter_line {t : List Char} (hline : '\n' ∉ t) (hne : t ≠ []) :
    ∀ fresh, freshAfter fresh t = false := by
  induction t with
  | nil => exact absurd rfl hne
  | cons c t ih =>
      intro fresh
      rw [List.mem_cons, not_or] at hline
      rw [freshAfter, beq_eq_false_iff_ne.mpr (Ne.symm hline.1)]
      cases t with
      | nil => rfl
      | cons d t => exact ih hline.2 (List.cons_ne_nil d t) false

/-- **A text on one line stays as it is**, whatever is in front of it and behind it. -/
theorem moveRight_around {t : List Char} (hline : '\n' ∉ t) (hne : t ≠ []) (fresh : Bool)
    (before behind : List Char) :
    moveRight fresh (before ++ t ++ behind) = moveHeld fresh before ++ t ++ moveRight false behind := by
  rw [moveRight_append, moveRight_append, freshAfter_append, freshAfter_line hline hne,
    moveRight_line hline hne, moveHeld]
  simp only [List.append_assoc]

/-- Moving adds spaces and nothing else. -/
theorem mem_moveHeld {c : Char} (s : List Char) : ∀ fresh, c ∈ moveHeld fresh s → c ∈ s ∨ c = ' ' := by
  have hshift : ∀ fresh : Bool, c ∈ (if fresh then shift else []) → c = ' ' := by
    intro fresh h
    cases fresh with
    | false => cases h
    | true => exact List.eq_of_mem_replicate (show c ∈ List.replicate 4 ' ' from h)
  induction s with
  | nil => exact fun fresh h => .inr (hshift fresh h)
  | cons d s ih =>
      intro fresh h
      by_cases hd : d = '\n'
      · rw [hd, moveHeld_newline, List.mem_cons] at h
        rcases h with rfl | h
        · exact .inl (hd ▸ List.mem_cons_self)
        · exact (ih true h).imp_left (List.mem_cons_of_mem d)
      · rw [moveHeld_cons hd, List.mem_append, List.mem_cons] at h
        rcases h with h | rfl | h
        · exact .inr (hshift fresh h)
        · exact .inl List.mem_cons_self
        · exact (ih false h).imp_left (List.mem_cons_of_mem d)

/-- A text on one line that starts none of its own stays as it is. -/
theorem moveHeld_line {s : List Char} (h : '\n' ∉ s) : moveHeld false s = s := by
  cases s with
  | nil => rfl
  | cons c s =>
      have hne := List.cons_ne_nil c s
      rw [moveHeld, moveRight_line h hne, freshAfter_line h hne]
      exact List.append_nil _

/-- Behind the start of a line the spaces have been added; so they are as soon as a line ends. -/
theorem length_moveHeld (s : List Char) :
    s.length + 4 ≤ (moveHeld true s).length
      ∧ ('\n' ∈ s → s.length + 4 ≤ (moveHeld false s).length) := by
  -- both at once: a line end turns the second case into the first
  induction s with
  | nil => exact ⟨Nat.le_refl 4, fun h => by cases h⟩
  | cons c s ih =>
      by_cases hc : c = '\n'
      · rw [hc, moveHeld_newline, moveHeld_newline, List.length_cons, List.length_cons]
        exact ⟨by omega, fun _ => by omega⟩
      · have hmem : '\n' ∈ c :: s → '\n' ∈ s := fun h =>
          (List.mem_cons.mp h).resolve_left (Ne.symm hc)
        have hlength : s.length ≤ (moveHeld false s).length := by
          by_cases h : '\n' ∈ s
          · exact Nat.le_trans (Nat.le_add_right _ 4) (ih.2 h)
          · exact Nat.le_of_eq (congrArg List.length (moveHeld_line h)).symm
        rw [moveHeld_cons hc, moveHeld_cons hc]
        simp only [if_true, if_neg Bool.false_ne_true, List.nil_append, List.length_append,
          List.length_cons]
        have hshift : shift.length = 4 := rfl
        exact ⟨by omega, fun h => by have := ih.2 (hmem h); omega⟩

/-! ## §3. The function. -/

/-- The first line of the function. -/
def functionHeader (asyncMode : Bool) (contextName : String) : List Char :=
  ((if asyncMode then "async def " else "def ") ++ renderName ++ "(" ++ contextName
    ++ ", options):\n").toList

theorem joinWith_cons_append (sep a line : List Char) (lines : List (List Char)) :
    joinWith sep ((a ++ line) :: lines) = a ++ joinWith sep (line :: lines) := by
  cases lines with
  | nil => rfl
  | cons next lines =>
      show (a ++ line) ++ sep ++ joinWith sep (next :: lines) = a ++ (line ++ sep ++ _)
      simp only [List.append_assoc]

/-- Moving all lines that are not empty is moving characters; the first line counts as moved if it starts
behind something. -/
theorem joinWith_moved (s : List Char) : ∀ fresh : Bool,
    ∃ line lines, splitOn '\n' s = line :: lines
      ∧ joinWith ['\n'] ((if fresh && !line.isEmpty then shift ++ line else line)
          :: lines.map fun l => if l.isEmpty then l else shift ++ l) = moveRight fresh s := by
  -- the first line is kept apart, for the next character goes in front of it
  induction s with
  | nil => exact fun fresh => ⟨[], [], rfl, by simp [joinWith, moveRight]⟩
  | cons c s ih =>
      intro fresh
      by_cases hc : (c == '\n') = true
      · -- a line ends, and all of the next one is moved
        obtain ⟨line, lines, hsplit, hjoin⟩ := ih true
        refine ⟨[], line :: lines, ?_, ?_⟩
        · rw [splitOn, if_pos hc, hsplit]
        · have hfirst : (if line.isEmpty then line else shift ++ line)
              = if (true && !line.isEmpty) = true then shift ++ line else line := by
            cases line <;> rfl
          rw [moveRight, if_pos hc, ← hjoin, beq_iff_eq.mp hc, List.map_cons, hfirst]
          simp [joinWith]
      · obtain ⟨line, lines, hsplit, hjoin⟩ := ih false
        refine ⟨c :: line, lines, ?_, ?_⟩
        · rw [splitOn, if_neg hc, hsplit]
        · have hfirst : (if (fresh && !(c :: line).isEmpty) = true then shift ++ (c :: line) else c :: line)
              = (if fresh then shift else []) ++ (c :: line) := by
            cases fresh <;> rfl
          rw [moveRight, if_neg hc, ← hjoin, hfirst, joinWith_cons_append]
          exact congrArg _ (joinWith_cons_append ['\n'] [c] line _)

/-- **The function around a body is its first line and the body, moved.** -/
theorem wrapFunction_chars (body : String) (asyncMode : Bool) (contextName : String) :
    (wrapFunction body asyncMode contextName).toList
      = functionHeader asyncMode contextName ++ moveRight true body.toList := by
  obtain ⟨line, lines, hsplit, hjoin⟩ := joinWith_moved body.toList true
  have hmoved : (splitOn '\n' body.toList).map (fun l => if l.isEmpty then l else "    ".toList ++ l)
      = (if (true && !line.isEmpty) = true then shift ++ line else line)
        :: lines.map fun l => if l.isEmpty then l else shift ++ l := by
    rw [hsplit, List.map_cons]
    cases line <;> rfl
  unfold wrapFunction
  dsimp only
  rw [String.toList_append, String.toList_ofList, hmoved, hjoin]
  rfl

/-- **A text on one line of the body stands in the function as it is.** -/
theorem line_in_function {body : String} {before text behind : List Char}
    (h : body.toList = before ++ text ++ behind) (hline : '\n' ∉ text) (hne : text ≠ [])
    (asyncMode : Bool) (contextName : String) :
    (wrapFunction body asyncMode contextName).toList
      = functionHeader asyncMode contextName ++ moveHeld true before ++ text
        ++ moveRight false behind := by
  rw [wrapFunction_chars, h, moveRight_around hline hne]
  simp only [List.append_assoc]

/-! ## §4. The lines of a program. -/

/-- A line of several is part of their text. -/
theorem unlines_mem {l : List Char} {ls : List (List Char)} (h : l ∈ ls) :
    ∃ before behind, unlines ls = before ++ l ++ behind := by
  obtain ⟨init, rest, rfl⟩ := List.append_of_mem h
  refine ⟨unlines init, '\n' :: unlines rest, ?_⟩
  rw [unlines_append, unlines_cons, List.append_assoc]

/-- A line that an instruction of a program has of its own is a line of the program's code. -/
theorem line_in_program (settings : CodeSettings) (source : String) {program : List Instruction}
    {i : Instruction} (hi : i ∈ program) :
    ∃ around, ∀ text ∈ i.texts settings.contextName around, ∃ level,
      Builder.indented level text ∈ (emitProgram settings source program).builder.lines := by
  obtain ⟨hsteps, hlines, hown⟩ :=
    Emitter.emitAll_keeps settings.contextName program (Emitter.entry settings source)
  rw [← hsteps] at hi
  obtain ⟨stage, hstage, rfl⟩ := List.mem_map.mp hi
  obtain ⟨fillers, hadded, _⟩ := hown stage hstage
  refine ⟨stage.1.keywords, fun text htext => ⟨Emitter.levelAt stage.1 stage.2, ?_⟩⟩
  have hclose := (Emitter.closeAll_alike
    (Emitter.emitAll settings.contextName (Emitter.entry settings source) program)).1
  obtain ⟨more, hmore, _⟩ := Emitter.leave_lines
    (Emitter.emitAll settings.contextName (Emitter.entry settings source) program).keywords.length
    (Emitter.emitAll settings.contextName (Emitter.entry settings source) program)
  rw [Emitter.emitProgram_eq, hclose.builder, hmore, hlines, List.mem_append, List.mem_append]
  refine .inl (.inr (List.mem_flatMap.mpr ⟨stage, hstage, ?_⟩))
  rw [hadded]
  exact List.mem_append_right _ (List.mem_map_of_mem htext)

/-- **What a line of a program holds, the body holds.** -/
theorem line_in_body (settings : CodeSettings) {e : Emitter} {l : String}
    (h : l ∈ e.builder.lines) :
    ∃ before behind, (bodyText settings e).toList = before ++ l.toList ++ behind := by
  have hstart : ∀ (b : Builder) (ls : List String), b.lines <+: (b.addAll ls).lines :=
    fun b ls => ⟨_, (Builder.addAll_lines b ls).symm⟩
  -- the reports and the return come behind the lines of the program
  obtain ⟨more, hmore⟩ : e.builder.lines <+: ((if settings.debug then
      { e.builder with level := 0 }.addAll reportLines else e.builder).add returnLine).lines := by
    cases settings.debug with
    | false => exact hstart e.builder [returnLine]
    | true =>
        exact (hstart { e.builder with level := 0 } reportLines).trans (hstart _ [returnLine])
  have hne : e.builder.lines ++ more ≠ [] := List.append_ne_nil_of_left_ne_nil (List.ne_nil_of_mem h) _
  have hmem : l.toList ∈ (e.builder.lines ++ more).map String.toList :=
    List.mem_map_of_mem (List.mem_append_left _ h)
  obtain ⟨before, behind, htext⟩ := unlines_mem hmem
  refine ⟨before, behind, ?_⟩
  rw [← htext, hmore]
  exact Builder.text_toList (by rw [← hmore]; exact hne)

end TagTemplate
