/-
  TagTemplate.Proofs.Code.LineMarks
  ────────────────────────────────
  **TRACKING LINES ONLY ADDS TO THE CODE.**

  With debugging on, a mark stands before each tag whose line is known, and
  the whole program stands inside a `try`.  The two emitters, one with marks
  and one without, stay `Beside` each other: the same blocks are open, and the
  one with marks is a step to the right.  What they count differs, since a
  mark is a line too; so a block may be filled in one and not in the other.

    • `Beside.emit`, `Beside.mark` — an instruction that both take in, and a
      mark that one takes in, keep them beside each other,
    • `unmarked_beside` — hence, marks and fillers apart, they write the same,
    • `tracking_adds_marks` — the two bodies of the same nodes.
-/
import Mathlib.Data.List.Forall2
import TagTemplate.Proofs.Code.Failing
import TagTemplate.Proofs.Code.Moves

namespace TagTemplate

open Text

namespace Emitter

/-! ## §1. Emitters beside each other. -/

/-- The same block, a step to the right. -/
def OnRight (b b' : OpenBlock) : Prop := b'.keyword = b.keyword ∧ b'.base = b.base + Builder.step

/-- The same blocks are open, and the second emitter is a step to the right. -/
structure Beside (e e' : Emitter) : Prop where
  /-- It writes a step to the right. -/
  level : e'.builder.level = e.builder.level + Builder.step
  /-- Its blocks are the same, a step to the right. -/
  blocks : List.Forall₂ OnRight e.blocks e'.blocks

section Beside

variable {e e' f f' : Emitter}

theorem Beside.of_alike (h : Beside f f') (he : Alike e f) (he' : Alike e' f') : Beside e e' := by
  constructor
  · rw [he.builder, he'.builder]
    exact h.level
  · rw [he.blocks, he'.blocks]
    exact h.blocks

theorem keywords_onRight {blocks blocks' : List OpenBlock} (h : List.Forall₂ OnRight blocks blocks') :
    blocks'.map (·.keyword) = blocks.map (·.keyword) := by
  induction h with
  | nil => rfl
  | cons hb _ ih => rw [List.map_cons, List.map_cons, hb.1, ih]

theorem Beside.keywords (h : Beside e e') : e'.keywords = e.keywords := keywords_onRight h.blocks

theorem Beside.pop (h : Beside e e') : Beside e.pop e'.pop := by
  obtain ⟨builder, blocks, unmatched, unclosed⟩ := e
  obtain ⟨builder', blocks', unmatched', unclosed'⟩ := e'
  obtain ⟨hlevel, hblocks⟩ := h
  cases hblocks with
  | nil => exact ⟨hlevel, .nil⟩
  | cons hb hrest => exact ⟨hb.2, hrest⟩

theorem Beside.leave (h : Beside e e') (n : Nat) : Beside (leave n e) (Emitter.leave n e') := by
  induction n generalizing e e' with
  | zero => exact h
  | succ n ih => exact ih h.pop

/-- Counting moves no block. -/
theorem countLines_onRight {blocks blocks' : List OpenBlock}
    (h : List.Forall₂ OnRight blocks blocks') (n n' : Nat) :
    List.Forall₂ OnRight (countLines n blocks) (countLines n' blocks') := by
  cases h with
  | nil => exact .nil
  | cons hb hrest => exact .cons hb hrest

/-- Whatever lines the two write, they stay beside each other. -/
theorem Beside.put (h : Beside e e') (texts texts' : List String) :
    Beside (e.put texts) (e'.put texts') := ⟨h.level, countLines_onRight h.blocks _ _⟩

theorem Beside.enter (h : Beside e e') (block : Option (String × Nat)) :
    Beside (e.enter block) (e'.enter block) := by
  cases block with
  | none => exact h
  | some block =>
      refine ⟨?_, .cons ⟨rfl, h.level⟩ h.blocks⟩
      show e'.builder.level + (block.2 : Int) + Builder.step
        = e.builder.level + (block.2 : Int) + Builder.step + Builder.step
      rw [h.level]
      omega

variable (contextName : String)

/-- **An instruction that both take in keeps them beside each other.** -/
theorem Beside.emit (h : Beside e e') (i : Instruction) :
    Beside (emit contextName e i) (Emitter.emit contextName e' i) := by
  refine .of_alike ?_ (emit_alike contextName e i) (emit_alike contextName e' i)
  unfold carryOut
  rw [h.keywords]
  exact ((h.leave _).put _ _).enter _

/-- **A mark that one of them takes in keeps them beside each other.** -/
theorem Beside.mark (h : Beside e e') (lineno : Int) :
    Beside e (Emitter.emit contextName e' (.setLine lineno)) := by
  let mark := Instruction.setLine lineno
  have hmark : carryOut contextName e' mark = e'.put (mark.texts contextName e'.keywords) := rfl
  have hput := h.put [] (mark.texts contextName e'.keywords)
  rw [put_nil, ← hmark] at hput
  exact .of_alike hput (.refl e) (emit_alike contextName e' mark)

end Beside

/-! ## §2. What they write. -/

end Emitter

/-- Whether an instruction is a line mark. -/
def Instruction.isMark : Instruction → Bool
  | .setLine _ => true
  | _ => false

/-- A program without its line marks. -/
def withoutMarks (program : List Instruction) : List Instruction := program.filter (!·.isMark)

theorem Instruction.eq_setLine {i : Instruction} (h : i.isMark = true) :
    ∃ lineno, i = .setLine lineno := by
  cases i with
  | setLine lineno => exact ⟨lineno, rfl⟩
  | _ => cases h

theorem withoutMarks_cons {i : Instruction} (h : i.isMark = false) (program : List Instruction) :
    withoutMarks (i :: program) = i :: withoutMarks program :=
  List.filter_cons_of_pos (by rw [h]; rfl)

/-- Whether a line consists of `pass`. -/
def isPass (l : String) : Bool := trimmed l == "pass"

/-- A line a step further right. -/
def shifted (l : String) : String := "    " ++ l

namespace Emitter

theorem isPass_shifted (l : String) : isPass (shifted l) = isPass l := by
  have hstart : stripStart (shifted l).toList = stripStart l.toList := by
    unfold shifted
    rw [String.toList_append]
    exact List.dropWhile_append_of_pos (allBlank_iff.mp rfl)
  unfold isPass trimmed strip
  rw [hstart]

theorem IsFiller.isPass {l : String} (h : IsFiller l) : isPass l = true := by
  obtain ⟨level, rfl⟩ := h
  have hstart : stripStart (Builder.indented level "pass").toList = "pass".toList := by
    unfold Builder.indented
    rw [String.toList_append, String.toList_ofList]
    unfold stripStart
    rw [List.dropWhile_append_of_pos]
    · decide
    · intro c hc
      rw [List.eq_of_mem_replicate hc]
      decide
  unfold TagTemplate.isPass trimmed strip
  rw [hstart]
  decide

/-- One step to the right is four spaces, from a level that is not left of the margin. -/
theorem indented_shifted {level : Int} (h : 0 ≤ level) (text : String) :
    Builder.indented (level + Builder.step) text = shifted (Builder.indented level text) := by
  have hlevel : (level + Builder.step).toNat = 4 + level.toNat := by
    unfold Builder.step
    omega
  rw [← String.toList_inj]
  unfold Builder.indented shifted
  simp only [String.toList_append, String.toList_ofList]
  rw [hlevel, List.replicate_add, List.append_assoc]
  rfl

/-- Lines that are no `pass`. -/
def unfilled (lines : List String) : List String := lines.filter (!isPass ·)

theorem unfilled_append (ls ms : List String) : unfilled (ls ++ ms) = unfilled ls ++ unfilled ms :=
  List.filter_append ..

theorem unfilled_fillers {ls : List String} (h : ∀ l ∈ ls, IsFiller l) : unfilled ls = [] := by
  unfold unfilled
  rw [List.filter_eq_nil_iff]
  intro l hl
  rw [(h l hl).isPass]
  decide

theorem unfilled_shifted (ls : List String) :
    unfilled (ls.map shifted) = (unfilled ls).map shifted := by
  unfold unfilled
  rw [List.filter_map]
  have hkept : ls.filter ((!isPass ·) ∘ shifted) = ls.filter (!isPass ·) := by
    apply List.filter_congr
    intro l _
    rw [Function.comp_apply, isPass_shifted]
  rw [hkept]

section Added

variable {e e' : Emitter} (contextName : String)

/-- Closing blocks keeps those that are left stacked. -/
theorem leave_stacked {start : Int} (n : Nat) {e : Emitter}
    (h : Stacked start e.blocks e.builder.level) :
    Stacked start (leave n e).blocks (leave n e).builder.level := by
  induction n generalizing e with
  | zero => exact h
  | succ n ih => exact ih (pop_proceeds h).stacked

/-- Beside each other two emitters add the same lines for an instruction, fillers apart, the second a
step to the right. -/
theorem added_beside (h : Beside e e') (hstacked : Stacked 0 e.blocks e.builder.level)
    (i : Instruction) :
    unfilled (added contextName (e', i)) = (unfilled (added contextName (e, i))).map shifted := by
  obtain ⟨_, fillers, hadded, hfillers⟩ := emit_lines contextName e i
  obtain ⟨_, fillers', hadded', hfillers'⟩ := emit_lines contextName e' i
  have hlevel : levelAt e' i = levelAt e i + Builder.step := by
    unfold levelAt
    rw [h.keywords]
    exact (h.leave _).level
  have hmargin : 0 ≤ levelAt e i := (leave_stacked _ hstacked).start_le
  have htexts : (i.texts contextName e'.keywords).map (Builder.indented (levelAt e' i))
      = ((i.texts contextName e.keywords).map (Builder.indented (levelAt e i))).map shifted := by
    rw [h.keywords, hlevel, List.map_map]
    exact List.map_congr_left fun text _ => indented_shifted hmargin text
  rw [hadded, hadded', unfilled_append, unfilled_append, unfilled_fillers hfillers,
    unfilled_fillers hfillers', htexts, List.nil_append, List.nil_append, unfilled_shifted]

/-- The lines of a program that no mark added. -/
def unmarkedLines (stages : List (Emitter × Instruction)) : List String :=
  (stages.filter (!·.2.isMark)).flatMap (added contextName)

/-- **Marks and fillers apart, two emitters beside each other write the same**, if one takes in the
program with its marks and the other without. -/
theorem unmarked_beside (program : List Instruction) (h : Beside e e')
    (hstacked : Stacked 0 e.blocks e.builder.level) :
    unfilled (unmarkedLines contextName (stages contextName e' program))
      = (unfilled ((stages contextName e (withoutMarks program)).flatMap
          (added contextName))).map shifted := by
  induction program generalizing e e' with
  | nil => rfl
  | cons i program ih =>
      cases hmark : i.isMark with
      | true =>
          -- the emitter without marks stands still
          obtain ⟨lineno, rfl⟩ := i.eq_setLine hmark
          exact ih (h.mark contextName lineno) hstacked
      | false =>
          have hnext := ih (h.emit contextName i) (emit_proceeds hstacked contextName i).stacked
          have hstages : (stages contextName e' (i :: program)).filter (!·.2.isMark)
              = (e', i) :: (stages contextName (emit contextName e' i) program).filter
                  (!·.2.isMark) :=
            List.filter_cons_of_pos (by rw [hmark]; rfl)
          unfold unmarkedLines at hnext ⊢
          rw [withoutMarks_cons hmark, hstages, stages, List.flatMap_cons, List.flatMap_cons, unfilled_append,
            unfilled_append, hnext, added_beside contextName h hstacked, List.map_append]

end Added

end Emitter

/-! ## §3. Nodes with marks and without. -/

section Lower

variable (settings : CodeSettings)

theorem instructionsOf_marked {n : Node} (h : ∀ v, n ≠ .foreign v) :
    ∃ is, instructionsOf { settings with debug := true } n = .ok is
      ∧ instructionsOf { settings with debug := false } n = .ok (withoutMarks is) := by
  cases n with
  | literal value => exact ⟨_, rfl, rfl⟩
  | tag kind body lineno =>
      refine ⟨_, rfl, ?_⟩
      cases lineno <;> cases kind <;> rfl
  | foreign v => exact absurd rfl (h v)

theorem mapM_instructionsOf_marked :
    ∀ nodes : List Node, (∀ n ∈ nodes, ∀ v, n ≠ .foreign v) →
      ∃ steps, nodes.mapM (instructionsOf { settings with debug := true }) = .ok steps
        ∧ nodes.mapM (instructionsOf { settings with debug := false })
          = .ok (steps.map withoutMarks)
  | [], _ => ⟨[], rfl, rfl⟩
  | n :: nodes, h => by
      obtain ⟨hn, hnodes⟩ := List.forall_mem_cons.mp h
      obtain ⟨is, htracked, hplain⟩ := instructionsOf_marked settings hn
      obtain ⟨steps, htracked', hplain'⟩ := mapM_instructionsOf_marked nodes hnodes
      refine ⟨is :: steps, ?_, ?_⟩
      · rw [List.mapM_cons, htracked, htracked']
        rfl
      · rw [List.mapM_cons, hplain, hplain']
        rfl

/-- **Tracking lines adds marks to a program**, and nothing else. -/
theorem lower_marked {nodes : List Node} (h : ∀ n ∈ nodes, ∀ v, n ≠ .foreign v) :
    ∃ program, lower { settings with debug := true } nodes = .ok program
      ∧ lower { settings with debug := false } nodes = .ok (withoutMarks program) := by
  obtain ⟨steps, htracked, hplain⟩ := mapM_instructionsOf_marked settings nodes h
  refine ⟨steps.flatten ++ [.checkLayout settings.asyncMode], ?_, ?_⟩
  · unfold lower
    rw [htracked]
    rfl
  · have hflatten : (steps.map withoutMarks).flatten = withoutMarks steps.flatten :=
      List.filter_flatten.symm
    have hlayout : withoutMarks [.checkLayout settings.asyncMode]
        = [.checkLayout settings.asyncMode] := rfl
    unfold lower
    rw [hplain]
    show Except.ok ((steps.map withoutMarks).flatten ++ [.checkLayout settings.asyncMode]) = _
    rw [hflatten, ← hlayout]
    exact congrArg Except.ok (List.filter_append ..).symm

end Lower

/-! ## §4. The body. -/

namespace Emitter

open Traced (Returns)

section Body

variable (settings : CodeSettings) (source : String)

/-- The lines of a program behind the preamble. -/
def programLines (program : List Instruction) : List String :=
  (stages settings.contextName (entry settings source) program).flatMap
    (added settings.contextName)

/-- Those of them that no mark added. -/
def unmarkedProgramLines (program : List Instruction) : List String :=
  unmarkedLines settings.contextName
    (stages settings.contextName (entry settings source) program)

/-- The text of lines. -/
def codeOf (lines : List String) : String := "\n".intercalate lines ++ "\n"

variable {settings}

/-- Behind a lowered program the emitter is where it began, and its lines are those of the program. -/
theorem emitProgram_lowered {nodes : List Node} {program : List Instruction}
    (h : lower settings nodes = .ok program) :
    (emitProgram settings source program).builder.level = entryLevel settings
      ∧ (emitProgram settings source program).builder.lines
        = preamble settings source ++ (if settings.debug then ["try:"] else [])
          ++ programLines settings source program := by
  obtain ⟨steps, rfl⟩ := lower_eq h
  let before := emitAll settings.contextName (entry settings source) steps
  have hsteps : Proceeds (entryLevel settings) (entry settings source) before :=
    emitAll_proceeds settings.contextName steps _ (entry_stacked settings source)
  obtain ⟨_, hlevel, _⟩ :=
    emit_checkLayout hsteps.stacked settings.contextName settings.asyncMode
  rw [emitProgram_layout]
  refine ⟨hlevel, ?_⟩
  show (emitAll settings.contextName before [.checkLayout settings.asyncMode]).builder.lines = _
  rw [← emitAll_append, emitAll_lines, entry_lines]
  rfl

/-- Without plugins and without looking up names, the body is what is written for the program. -/
theorem generate_written (hwith : settings.useWith = false) (hplugins : settings.plugins = [])
    {nodes : List Node} {program : List Instruction} (h : lower settings nodes = .ok program) :
    Returns (generate settings nodes source)
      (codeOf (preamble settings source ++ (if settings.debug then ["try:"] else [])
        ++ programLines settings source program ++ (if settings.debug then reportLines else [])
        ++ [returnLine])) := by
  obtain ⟨hlevel, hlines⟩ := emitProgram_lowered source h
  have hbody := (writeBody_leaves settings source program).returns
  rw [bodyText_lines settings hlevel, hlines] at hbody
  unfold generate
  rw [hwith, hplugins]
  exact .bind (.ofExcept h) (.bind hbody (.bind .pure (.bind .record .pure)))

end Body

/-! ## §5. THE THEOREM. -/

/-- **TRACKING LINES ONLY ADDS TO THE CODE**: the body with lines tracked and the body without consist
of a preamble, the lines of the program and a `return`; with lines tracked those stand inside a `try`
with its handlers.  Without the lines that marks added, and apart from lines that are a `pass`, the
program's lines with lines tracked are those without, each four spaces further right. -/
theorem tracking_adds_marks {settings : CodeSettings} (hwith : settings.useWith = false)
    (hplugins : settings.plugins = []) {nodes : List Node}
    (hnodes : ∀ n ∈ nodes, ∀ v, n ≠ .foreign v) (source : String) :
    let plain : CodeSettings := { settings with debug := false }
    let tracked : CodeSettings := { settings with debug := true }
    ∃ program programTracked,
      lower plain nodes = .ok program ∧ lower tracked nodes = .ok programTracked
        ∧ Returns (generate plain nodes source)
          (codeOf (preamble plain source ++ programLines plain source program ++ [returnLine]))
        ∧ Returns (generate tracked nodes source)
          (codeOf (preamble tracked source ++ ["try:"]
            ++ programLines tracked source programTracked ++ reportLines ++ [returnLine]))
        ∧ unfilled (unmarkedProgramLines tracked source programTracked)
          = (unfilled (programLines plain source program)).map shifted := by
  intro plain tracked
  obtain ⟨programTracked, htracked, hplain⟩ := lower_marked settings hnodes
  have hbeside : Beside (entry plain source) (entry tracked source) := by
    refine ⟨?_, .nil⟩
    rw [entry_level, entry_level]
    rfl
  have hstacked : Stacked 0 (entry plain source).blocks (entry plain source).builder.level :=
    entry_stacked plain source
  have hcode := @generate_written plain source hwith hplugins nodes _ hplain
  have hcodeTracked := @generate_written tracked source hwith hplugins nodes _ htracked
  simp only [plain, tracked, if_true, Bool.false_eq_true, if_false, List.append_nil] at hcode hcodeTracked
  exact ⟨withoutMarks programTracked, programTracked, hplain, htracked, hcode, hcodeTracked,
    unmarked_beside settings.contextName programTracked hbeside hstacked⟩

/-- An `end` tag without a block, blanks before the first case, and an empty block that one tag opens
with the block around it: with lines tracked it holds a mark, without a `pass`. -/
theorem tracking_adds_marks_choice :
    let settings : CodeSettings := {}
    let plain : CodeSettings := { settings with debug := false }
    let tracked : CodeSettings := { settings with debug := true }
    let nodes : List Node :=
      [.tag .execute "end" (some 1), .tag .execute "match it['k']:" (some 2), .literal "\\n ",
        .tag .execute "case 1:" (some 3), .literal "one", .tag .execute "end" (some 3),
        .tag .execute "for x in xs:\n  if x:" none, .tag .execute "end" (some 5)]
    let program : List Instruction :=
      [.executeStatement "end", .executeStatement "match it['k']:", .appendLiteral "\\n ",
        .executeStatement "case 1:", .appendLiteral "one", .executeStatement "end",
        .executeStatement "for x in xs:\n  if x:", .executeStatement "end", .checkLayout false]
    let programTracked : List Instruction :=
      [.setLine 1, .executeStatement "end", .setLine 2, .executeStatement "match it['k']:",
        .appendLiteral "\\n ", .setLine 3, .executeStatement "case 1:", .appendLiteral "one",
        .setLine 3, .executeStatement "end", .executeStatement "for x in xs:\n  if x:", .setLine 5,
        .executeStatement "end", .checkLayout false]
    settings.useWith = false ∧ settings.plugins = [] ∧ (∀ n ∈ nodes, ∀ v, n ≠ .foreign v)
      ∧ lower plain nodes = .ok program ∧ lower tracked nodes = .ok programTracked
      ∧ Returns (generate tracked nodes "")
          (codeOf (preamble tracked "" ++ ["try:"] ++ programLines tracked "" programTracked
            ++ reportLines ++ [returnLine]))
      ∧ programLines plain "" program
        = ["raise SyntaxError(\"unmatched 'end' tag\")", "match it['k']:", "    case 1:",
            "        __kiln_append('one')", "for x in xs:", "  if x:", "      pass"]
          ++ layoutLines "it" false
      ∧ unfilled (unmarkedProgramLines tracked "" programTracked)
        = (unfilled (programLines plain "" program)).map shifted := by
  intro settings plain tracked nodes program programTracked
  have hnodes : ∀ n ∈ nodes, ∀ v, n ≠ .foreign v := by
    simp [nodes]
  have hplain : lower plain nodes = .ok program := rfl
  have htracked : lower tracked nodes = .ok programTracked := rfl
  obtain ⟨p, q, hp, hq, _, hcode, hlines⟩ :=
    @tracking_adds_marks settings rfl rfl nodes hnodes ""
  obtain rfl : program = p := Except.ok.inj (hplain.symm.trans hp)
  obtain rfl : programTracked = q := Except.ok.inj (htracked.symm.trans hq)
  exact ⟨rfl, rfl, hnodes, hplain, htracked, hcode, by decide +kernel, hlines⟩

end Emitter

end TagTemplate
