/-
  TagTemplate.Proofs.Code.Rows
  ────────────────────────────────
  **THE LINES OF GENERATED CODE.**

  Code is put together line by line, and a body becomes a function by moving
  its lines to the right.  Both are said here of lines without their ends:

    • `Builder.text_toList`: the text of a builder is its lines.
    • `Code.texts_eq_unlines`: the text of a tree of code is its lines.
    • `wrapFunction_texts`: the function around the code of a tree is the code
      of a tree with one more level.
-/
import TagTemplate.Code.Body
import TagTemplate.Proofs.Script.Suite

namespace TagTemplate

open Text Script

/-! ## §1. Lines and their ends. -/

/-- Lines, each with its end. -/
def unlines (ls : List (List Char)) : List Char := ls.flatMap (· ++ ['\n'])

theorem unlines_cons (l : List Char) (ls : List (List Char)) :
    unlines (l :: ls) = l ++ '\n' :: unlines ls := by
  rw [unlines, List.flatMap_cons, List.append_assoc]
  rfl

theorem unlines_append (ls ms : List (List Char)) :
    unlines (ls ++ ms) = unlines ls ++ unlines ms := List.flatMap_append

theorem splitOn_append : ∀ {l : List Char} (rest : List Char), '\n' ∉ l →
    splitOn '\n' (l ++ '\n' :: rest) = l :: splitOn '\n' rest
  | [], rest, _ => rfl
  | c :: l, rest, h => by
      rw [List.mem_cons, not_or] at h
      rw [List.cons_append, splitOn, splitOn_append rest h.2]
      simp [Ne.symm h.1]

/-- The lines are found again, and nothing behind the last end. -/
theorem splitOn_unlines : ∀ {ls : List (List Char)}, (∀ l ∈ ls, '\n' ∉ l) →
    splitOn '\n' (unlines ls) = ls ++ [[]]
  | [], _ => rfl
  | l :: ls, h => by
      rw [List.forall_mem_cons] at h
      rw [unlines_cons, splitOn_append _ h.1, splitOn_unlines h.2, List.cons_append]

theorem joinWith_append_nil : ∀ (ls : List (List Char)), joinWith ['\n'] (ls ++ [[]]) = unlines ls
  | [] => rfl
  | l :: ls => by
      have hcons : joinWith ['\n'] (l :: (ls ++ [[]])) = l ++ ['\n'] ++ joinWith ['\n'] (ls ++ [[]]) := by
        cases ls <;> rfl
      rw [List.cons_append, hcons, joinWith_append_nil ls, unlines_cons, List.append_assoc]
      rfl

/-! ## §2. The lines of a tree. -/

/-- The spaces of a level, and characters behind them. -/
def spaced (level : Nat) (s : List Char) : List Char := List.replicate (4 * level) ' ' ++ s

theorem spaced_succ (level : Nat) (s : List Char) :
    spaced (level + 1) s = "    ".toList ++ spaced level s := rfl

namespace Script.Code

mutual

/-- The lines of a tree. -/
def rows (level : Nat) : Code → List (List Char)
  | line row => [spaced level (Lexeme.spell row)]
  | block header body => spaced level (Lexeme.spell header) :: rowsAll (level + 1) body

/-- The lines of several trees. -/
def rowsAll (level : Nat) : List Code → List (List Char)
  | [] => []
  | c :: cs => c.rows level ++ rowsAll level cs

end

theorem rowText_eq (level : Nat) (row : List Lexeme) :
    rowText level row = spaced level (Lexeme.spell row) ++ ['\n'] := by
  unfold rowText spaced
  rw [List.append_assoc]

mutual

theorem text_eq_unlines : ∀ (c : Code) (level : Nat), c.text level = unlines (c.rows level)
  | line row, level => by
      rw [text, rowText_eq, rows, unlines_cons]
      rfl
  | block header body, level => by
      rw [text, rowText_eq, rows, unlines_cons, texts_eq_unlines body, List.append_assoc]
      rfl

/-- The text of code is its lines. -/
theorem texts_eq_unlines : ∀ (cs : List Code) (level : Nat),
    texts level cs = unlines (rowsAll level cs)
  | [], _ => rfl
  | c :: cs, level => by
      rw [texts, rowsAll, unlines_append, text_eq_unlines c, texts_eq_unlines cs]

end

mutual

theorem rows_succ : ∀ (c : Code) (level : Nat),
    c.rows (level + 1) = (c.rows level).map ("    ".toList ++ ·)
  | line row, level => by rw [rows, rows, spaced_succ, List.map_singleton]
  | block header body, level => by
      rw [rows, rows, spaced_succ, rowsAll_succ body, List.map_cons]

/-- One level more moves all lines. -/
theorem rowsAll_succ : ∀ (cs : List Code) (level : Nat),
    rowsAll (level + 1) cs = (rowsAll level cs).map ("    ".toList ++ ·)
  | [], _ => rfl
  | c :: cs, level => by rw [rowsAll, rowsAll, rows_succ c, rowsAll_succ cs, List.map_append]

end

theorem rowsAll_append (level : Nat) (cs ds : List Code) :
    rowsAll level (cs ++ ds) = rowsAll level cs ++ rowsAll level ds := by
  induction cs with
  | nil => rfl
  | cons c cs ih => rw [List.cons_append, rowsAll, rowsAll, ih, List.append_assoc]

/-- A line that is read back is not empty and has no line end. -/
theorem spaced_clean {row : List Lexeme} (level : Nat) (hrow : isRow row = true) :
    spaced level (Lexeme.spell row) ≠ [] ∧ '\n' ∉ spaced level (Lexeme.spell row) := by
  unfold isRow at hrow
  rw [Bool.and_eq_true] at hrow
  unfold spaced
  constructor
  · intro h
    rw [(List.append_eq_nil_iff.mp h).2] at hrow
    cases hrow.1
  · rw [List.mem_append, List.mem_replicate]
    rintro (⟨_, h⟩ | h)
    · cases h
    · exact (closes_clean hrow.2 _ h).1 rfl

mutual

theorem rows_clean : ∀ (c : Code) (level : Nat), c.fine level = true →
    ∀ l ∈ c.rows level, l ≠ [] ∧ '\n' ∉ l
  | line row, level, hfine => by
      rw [rows, List.forall_mem_singleton]
      exact spaced_clean level hfine
  | block header body, level, hfine => by
      unfold fine at hfine
      simp only [Bool.and_eq_true] at hfine
      rw [rows, List.forall_mem_cons]
      exact ⟨spaced_clean level hfine.1.1.1, rowsAll_clean body (level + 1) hfine.2⟩

/-- Lines that are read back are not empty and have no line end. -/
theorem rowsAll_clean : ∀ (cs : List Code) (level : Nat), allFine level cs = true →
    ∀ l ∈ rowsAll level cs, l ≠ [] ∧ '\n' ∉ l
  | [], _, _ => nofun
  | c :: cs, level, hfine => by
      unfold allFine at hfine
      rw [Bool.and_eq_true] at hfine
      rw [rowsAll, List.forall_mem_append]
      exact ⟨rows_clean c level hfine.1, rowsAll_clean cs level hfine.2⟩

end

mutual

theorem fine_of_succ : ∀ (c : Code) (level : Nat), c.fine (level + 1) = true → c.fine level = true
  | line _, _, h => h
  | block header body, level, h => by
      unfold fine at h ⊢
      simp only [Bool.and_eq_true, decide_eq_true_eq] at h ⊢
      exact ⟨⟨h.1.1, by omega⟩, allFine_of_succ body (level + 1) h.2⟩

/-- What is fine at a level is fine at the one before. -/
theorem allFine_of_succ : ∀ (cs : List Code) (level : Nat), allFine (level + 1) cs = true →
    allFine level cs = true
  | [], _, _ => rfl
  | c :: cs, level, h => by
      unfold allFine at h ⊢
      rw [Bool.and_eq_true] at h ⊢
      exact ⟨fine_of_succ c level h.1, allFine_of_succ cs level h.2⟩

end

theorem allFine_append (level : Nat) (cs ds : List Code) :
    allFine level (cs ++ ds) = (allFine level cs && allFine level ds) := by
  induction cs with
  | nil => rfl
  | cons c cs ih => rw [List.cons_append, allFine, allFine, ih, Bool.and_assoc]

end Script.Code

/-! ## §3. The lines of a builder. -/

/-- Texts of lines at a level. -/
def written (level : Nat) (ls : List String) : List (List Char) :=
  ls.map fun l => spaced level l.toList

theorem written_append (level : Nat) (ls ms : List String) :
    written level (ls ++ ms) = written level ls ++ written level ms := List.map_append

/-- What is written at one level is written at every level. -/
theorem Script.Code.rowsAll_written {cs : List Code} {ls : List String}
    (h : rowsAll 0 cs = written 0 ls) : ∀ level, rowsAll level cs = written level ls
  | 0 => h
  | level + 1 => by
      rw [rowsAll_succ, rowsAll_written h level, written, List.map_map]
      rfl

namespace Builder

theorem addAll_lines (b : Builder) (ls : List String) :
    (b.addAll ls).lines = b.lines ++ ls.map (indented b.level) := by
  unfold addAll
  induction ls generalizing b with
  | nil => simp
  | cons l ls ih =>
      rw [List.foldl_cons, ih]
      simp [lines, add]

/-- Lines that are added stand at the level of the builder. -/
theorem addAll_written {b : Builder} (level : Nat) (h : b.level = (4 * level : Nat))
    (ls : List String) :
    (b.addAll ls).lines.map String.toList = b.lines.map String.toList ++ written level ls := by
  rw [addAll_lines, List.map_append, List.map_map]
  congr 1
  refine List.map_congr_left fun l _ => ?_
  show (indented b.level l).toList = _
  rw [indented, h, String.toList_append, String.toList_ofList]
  rfl

theorem addAll_level (b : Builder) (ls : List String) : (b.addAll ls).level = b.level := by
  unfold addAll
  induction ls generalizing b with
  | nil => rfl
  | cons l ls ih => rw [List.foldl_cons, ih]; rfl

theorem intercalate_toList : ∀ {ls : List String}, ls ≠ [] →
    ("\n".intercalate ls ++ "\n").toList = unlines (ls.map String.toList)
  | [l], _ => by
      rw [List.map_singleton, unlines_cons, String.toList_append]
      rfl
  | l :: m :: ls, _ => by
      rw [List.map_cons, unlines_cons, ← intercalate_toList (List.cons_ne_nil m ls)]
      simp

/-- The text of a builder is its lines. -/
theorem text_toList {b : Builder} (h : b.lines ≠ []) :
    b.text.toList = unlines (b.lines.map String.toList) := intercalate_toList h

end Builder

/-! ## §4. The function around a body. -/

/-- **A body becomes a function by one more level.** -/
theorem wrapFunction_texts {cs : List Code} (hfine : Code.allFine 0 cs = true) (asyncMode : Bool)
    (contextName : String) :
    (wrapFunction (String.ofList (Code.texts 0 cs)) asyncMode contextName).toList
      = ((if asyncMode then "async def " else "def ") ++ renderName ++ "(" ++ contextName
          ++ ", options):\n").toList ++ Code.texts 1 cs := by
  have hclean := Code.rowsAll_clean cs 0 hfine
  have hbody : (String.ofList (Code.texts 0 cs)).toList = unlines (Code.rowsAll 0 cs) := by
    rw [String.toList_ofList, Code.texts_eq_unlines]
  have hmoved : ((Code.rowsAll 0 cs ++ [[]]).map fun (l : List Char) => if l.isEmpty then l else "    ".toList ++ l)
      = Code.rowsAll 1 cs ++ [[]] := by
    rw [List.map_append, Code.rowsAll_succ]
    congr 1
    refine List.map_congr_left fun l hl => ?_
    rw [if_neg]
    exact fun h => (hclean l hl).1 (List.isEmpty_iff.mp h)
  unfold wrapFunction
  dsimp only
  rw [String.toList_append, hbody, splitOn_unlines fun l hl => (hclean l hl).2, hmoved,
    joinWith_append_nil, String.toList_ofList, Code.texts_eq_unlines]

end TagTemplate
