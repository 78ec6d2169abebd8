/-
  TagTemplate.Proofs.Code.MarkPlaces
  ────────────────────────────────
  **WHERE THE MARK OF A TAG STANDS.**

  The mark of a tag is written before the tag is taken in, and so as a line of
  the block in which the tag is met.  A tag that stays in this block stands
  directly below its mark.  A tag that leaves it stands outside, left of its
  mark; every clause and every `end` does:

      if a:                       if a:
          b                           b
          __kiln.line = 3             __kiln.line = 3
          c                       elif c:

  So the mark of a clause is run at the end of the block before the clause, and
  not on the way to the clause.  In a choice, no mark is written before the
  first case.

    • `added_marked` — what a tag writes behind its mark, in whatever state,
    • `tag_marked` — a tag and its mark in a whole body.
-/
import TagTemplate.Proofs.Code.Frames
import TagTemplate.Proofs.Code.TrackedForest

namespace TagTemplate

open Text

/-! ## §1. What an instruction leaves. -/

/-- An `end` tag closes no more blocks than there are. -/
theorem Instruction.endCloses_le (around : List String) : endCloses around ≤ around.length := by
  cases around with
  | nil => exact Nat.le_refl 0
  | cons keyword outer =>
      show (if (keyword == "case" && outer.head? == some "match") = true then 2 else 1) ≤ _
      cases outer with
      | nil => simp
      | cons outside outer =>
          rw [List.length_cons, List.length_cons]
          split <;> omega

/-- No instruction closes more blocks than there are. -/
theorem Instruction.closes_le (around : List String) (i : Instruction) :
    i.closes around ≤ around.length := by
  cases i with
  | executeStatement code =>
      unfold Instruction.closes
      dsimp only
      split
      · exact Nat.zero_le _
      split
      · exact endCloses_le around
      split
      next hcontinues =>
        -- outside of all blocks nothing is continued
        cases around with
        | nil => cases hcontinues
        | cons keyword outer => exact Nat.succ_le_succ (Nat.zero_le _)
      next => exact Nat.zero_le _
  | checkLayout isAsync => exact Nat.le_refl _
  | _ => exact Nat.zero_le _

namespace Emitter

section Leave

variable {start : Int} {e e' : Emitter}

theorem pop_of_no_frames (h : e.frames = []) : e.pop = e := by
  unfold pop
  rw [List.map_eq_nil_iff.mp h]

/-- Leaving blocks leads to the same level whatever was written into them. -/
theorem leave_level (hframes : e.frames = e'.frames) (hlevel : e.builder.level = e'.builder.level)
    (n : Nat) : (leave n e).builder.level = (leave n e').builder.level := by
  induction n generalizing e e' with
  | zero => exact hlevel
  | succ n ih =>
      refine ih ?_ ?_
      · rw [frames_pop, frames_pop, hframes]
      · cases hframe : e.frames with
        | nil => rw [pop_of_no_frames hframe, pop_of_no_frames (hframes ▸ hframe), hlevel]
        | cons f outer => rw [level_pop hframe, level_pop (hframes ▸ hframe)]

/-- Leaving a block leads to the left. -/
theorem leave_left (h : Stacked start e.blocks e.builder.level) {n : Nat} (hn : n ≠ 0)
    (hle : n ≤ e.blocks.length) : (leave n e).builder.level < e.builder.level := by
  -- the level behind is the base of the last block that is left
  obtain ⟨k, rfl⟩ := Nat.exists_eq_succ_of_ne_zero hn
  have hlength : k < e.blocks.length := hle
  have hframes : e.frames.drop k = ⟨e.blocks[k].keyword, e.blocks[k].base⟩ :: e.frames.drop (k + 1) := by
    unfold frames
    rw [List.drop_eq_getElem_cons (by rw [List.length_map]; exact hlength), List.getElem_map]
  rw [level_leave hframes]
  exact (h.base_bounds _ (List.getElem_mem hlength)).2

/-- A block that something was written into is not filled. -/
theorem pop_counted (h : ∀ b ∈ e.blocks.head?, b.count ≠ 0) :
    e.pop.builder.lines = e.builder.lines := by
  obtain ⟨builder, blocks, unmatched, unclosed⟩ := e
  cases blocks with
  | nil => rfl
  | cons b rest =>
      show (if (b.count == 0) = true then builder.add "pass" else builder).lines = _
      rw [if_neg (by simpa using h b rfl)]

end Leave

/-! ## §2. A tag and its mark. -/

section Mark

variable (contextName : String) {e : Emitter}

theorem emit_mark (h : e.inBareMatch = false) (lineno : Int) :
    emit contextName e (.setLine lineno) = e.marked [lineno] :=
  emitAll_marks contextName h [lineno]

theorem emit_mark_bare (h : e.inBareMatch = true) (lineno : Int) :
    emit contextName e (.setLine lineno) = e := if_pos h

/-- The lines of its own that an instruction writes. -/
def ownLines (e : Emitter) (i : Instruction) : List String :=
  (i.texts contextName e.keywords).map (Builder.indented (levelAt e i))

theorem added_eq {i : Instruction} {lines : List String}
    (h : (emit contextName e i).builder.lines = e.builder.lines ++ lines) :
    added contextName (e, i) = lines := by
  unfold added
  rw [h, List.drop_left]

theorem added_mark (e : Emitter) (lineno : Int) : added contextName (e, .setLine lineno)
    = if e.inBareMatch then [] else [markLine e.builder.level lineno] := by
  refine added_eq contextName ?_
  cases h : e.inBareMatch with
  | true =>
      rw [emit_mark_bare contextName h]
      exact (List.append_nil _).symm
  | false =>
      rw [emit_mark contextName h]
      exact put_lines e ["__kiln.line = " ++ toString lineno]

/-- **Behind its mark, a tag writes what it would write without**, but fills no block that the mark is
in. -/
theorem added_marked (e : Emitter) (lineno : Int) (i : Instruction) :
    ∃ fillers, added contextName (emit contextName e (.setLine lineno), i)
        = fillers ++ ownLines contextName e i
      ∧ (∀ l ∈ fillers, IsFiller l)
      ∧ (i.closes e.keywords = 0 → fillers = [])
      ∧ (i.closes e.keywords = 1 → e.inBareMatch = false → fillers = []) := by
  -- the mark moves no block and no level, so the tag finds what it would find without
  let marked := emit contextName e (.setLine lineno)
  have hframes : marked.frames = e.frames := emit_frames contextName e (.setLine lineno)
  have hlevel : marked.builder.level = e.builder.level :=
    emit_level contextName (i := .setLine lineno) rfl
  have hkeywords : marked.keywords = e.keywords := by
    rw [← frames_keywords, hframes, frames_keywords]
  have hown : (i.texts contextName marked.keywords).map (Builder.indented (levelAt marked i))
      = ownLines contextName e i := by
    unfold ownLines levelAt
    rw [hkeywords, leave_level hframes hlevel]
  obtain ⟨fillers, hleave, hfillers⟩ := leave_lines (i.closes e.keywords) marked
  have hnone : (leave (i.closes e.keywords) marked).builder.lines = marked.builder.lines →
      fillers = [] := by
    intro hsame
    rw [hsame] at hleave
    exact List.append_cancel_left (hleave.symm.trans (List.append_nil _).symm)
  refine ⟨fillers, added_eq contextName ?_, hfillers, fun hzero => hnone ?_, fun hone hbare => hnone ?_⟩
  · rw [emit_left_lines, hown, hkeywords, hleave, List.append_assoc]
  · rw [hzero]
    rfl
  · -- the mark is counted in the block that is left
    have hcounted : ∀ b ∈ marked.blocks.head?, b.count ≠ 0 := by
      intro b hb
      rw [show marked = _ from emit_mark contextName hbare lineno] at hb
      obtain ⟨builder, blocks, unmatched, unclosed⟩ := e
      cases blocks with
      | nil => cases hb
      | cons b' rest =>
          obtain rfl := Option.some.inj hb
          exact Nat.succ_ne_zero _
    rw [hone]
    exact pop_counted hcounted

end Mark

/-! ## §3. A tag in a template. -/

section Tag

variable {settings : CodeSettings} {before after : List Node} {kind : TagKind} {body : String}
  {lineno : Int} {program : List Instruction}

/-- The instruction of a tag stands directly behind its mark, and behind those of the nodes before. -/
theorem lower_tag (hdebug : settings.debug = true)
    (h : lower settings (before ++ .tag kind body (some lineno) :: after) = .ok program) :
    ∃ prior rest, lower settings before = .ok (prior ++ [.checkLayout settings.asyncMode])
      ∧ program = prior ++ .setLine lineno :: tagInstruction settings kind body :: rest := by
  have htag : instructionsOf settings (.tag kind body (some lineno))
      = .ok [.setLine lineno, tagInstruction settings kind body] := by
    unfold instructionsOf lineMark
    rw [hdebug]
    rfl
  unfold lower at h ⊢
  rw [List.mapM_append, List.mapM_cons, htag] at h
  cases hbefore : before.mapM (instructionsOf settings) with
  | error fault =>
      rw [hbefore] at h
      cases h
  | ok steps =>
      rw [hbefore] at h
      cases hafter : after.mapM (instructionsOf settings) with
      | error fault =>
          rw [hafter] at h
          cases h
      | ok more =>
          rw [hafter] at h
          refine ⟨steps.flatten, more.flatten ++ [.checkLayout settings.asyncMode], rfl, ?_⟩
          rw [← Except.ok.inj h]
          simp

theorem stages_append (contextName : String) (e : Emitter) (prior rest : List Instruction) :
    stages contextName e (prior ++ rest)
      = stages contextName e prior ++ stages contextName (emitAll contextName e prior) rest := by
  induction prior generalizing e with
  | nil => rfl
  | cons i prior ih => exact congrArg (_ :: ·) (ih _)

/-- The lines of a program are those of its first part and those that the rest adds to them. -/
theorem programLines_append (settings : CodeSettings) (source : String) (prior rest : List Instruction) :
    programLines settings source (prior ++ rest)
      = programLines settings source prior
        ++ (stages settings.contextName
            (emitAll settings.contextName (entry settings source) prior) rest).flatMap
          (added settings.contextName) := by
  unfold programLines
  rw [stages_append, List.flatMap_append]

/-- **WHERE THE MARK OF A TAG STANDS.**  With lines tracked, whatever surrounds a tag whose line is
known: unless the tag is met before the first case of a choice, its mark is a line of the block in which
it is met.  A tag that stays in this block stands directly below its mark, at the same level; a tag that
leaves blocks stands left of its mark.  Before the first case there is no mark. -/
theorem tag_marked (hdebug : settings.debug = true)
    (h : lower settings (before ++ .tag kind body (some lineno) :: after) = .ok program)
    (source : String) :
    ∃ prior fillers below, lower settings before = .ok (prior ++ [.checkLayout settings.asyncMode])
      ∧ let e := emitAll settings.contextName (entry settings source) prior
        let i := tagInstruction settings kind body
        programLines settings source program
            = programLines settings source prior
              ++ ((if e.inBareMatch then [] else [markLine e.builder.level lineno])
                ++ (fillers ++ ownLines settings.contextName e i) ++ below)
          ∧ (∀ l ∈ fillers, IsFiller l)
          ∧ (i.closes e.keywords = 0 → fillers = [] ∧ levelAt e i = e.builder.level)
          ∧ (i.closes e.keywords = 1 → e.inBareMatch = false → fillers = [])
          ∧ (i.closes e.keywords ≠ 0 → levelAt e i < e.builder.level) := by
  obtain ⟨prior, rest, hprior, rfl⟩ := lower_tag hdebug h
  let e := emitAll settings.contextName (entry settings source) prior
  let i := tagInstruction settings kind body
  have hstacked : Stacked (entryLevel settings) e.blocks e.builder.level :=
    (emitAll_proceeds settings.contextName prior _ (entry_stacked settings source)).stacked
  obtain ⟨fillers, hadded, hfillers, hzero, hone⟩ :=
    added_marked settings.contextName e lineno i
  let marked := emit settings.contextName e (.setLine lineno)
  refine ⟨prior, fillers, (stages settings.contextName (emit settings.contextName marked i) rest).flatMap
    (added settings.contextName), hprior, ?_, hfillers, fun hcloses => ⟨hzero hcloses, ?_⟩, hone,
    fun hcloses => ?_⟩
  · rw [programLines_append, stages, stages, List.flatMap_cons, List.flatMap_cons, added_mark,
      hadded, ← List.append_assoc _ (fillers ++ _)]
  · unfold levelAt
    rw [hcloses]
    rfl
  · have hle := Instruction.closes_le e.keywords i
    rw [show e.keywords.length = e.blocks.length from List.length_map _] at hle
    exact leave_left hstacked hcloses hle

/-- The mark of a clause stands in the block that the clause leaves. -/
example :
    (emitAll "it" {} [.setLine 1, .executeStatement "if a:", .setLine 2, .executeStatement "elif b:",
      .setLine 3, .executeStatement "end"]).builder.lines
      = ["__kiln.line = 1", "if a:", "    __kiln.line = 2", "elif b:", "    __kiln.line = 3"] := by
  decide

end Tag

end Emitter

end TagTemplate
