/-
  TagTemplate.Proofs.Code.Levels
  ────────────────────────────────
  **THE LEVELS OF THE EMITTER.**

  Whatever instructions the emitter takes in, well nested or not, its open
  blocks stand one inside the other, from the level it started at to the
  current one (`Stacked`).  Each operation keeps that, and adds lines only at
  the starting level or right of it (`Proceeds`):

      a line       — the level and the blocks stay
      a block      — opens right of the current level
      its end      — goes back to the level of the statement that opened it

  So when all blocks are closed the emitter is where it started, and what is
  written behind the program stands where it should.

    • `emit_proceeds`, `emitAll_proceeds` — one instruction, and a program,
    • `emitAll_unmatched` — which `end` tags are reported,
    • `body_lines_eq` — the lines around a lowered program.
-/
import TagTemplate.Proofs.Code.Forest
import TagTemplate.Proofs.Code.Rows
import TagTemplate.Proofs.Machine.Records

namespace TagTemplate

open Text

namespace Emitter

/-! ## §1. Stacked blocks. -/

/-- Open blocks, innermost first, and the level inside them, from the level outside of all. -/
inductive Stacked (start : Int) : List OpenBlock → Int → Prop where
  /-- Outside of all blocks. -/
  | outside : Stacked start [] start
  /-- Inside a block, right of its base. -/
  | inside {b : OpenBlock} {rest : List OpenBlock} {level : Int} (hlt : b.base < level)
      (hrest : Stacked start rest b.base) : Stacked start (b :: rest) level

section Stacked

variable {start level : Int} {blocks : List OpenBlock}

/-- The level is nowhere left of the start. -/
theorem Stacked.start_le (h : Stacked start blocks level) : start ≤ level := by
  induction h with
  | outside => exact Int.le_refl start
  | inside hlt _ ih => omega

/-- Every base lies between the start and the level. -/
theorem Stacked.base_bounds (h : Stacked start blocks level) :
    ∀ b ∈ blocks, start ≤ b.base ∧ b.base < level := by
  induction h with
  | outside => nofun
  | inside hlt hrest ih =>
      intro b hb
      rcases List.mem_cons.mp hb with rfl | hb
      · exact ⟨hrest.start_le, hlt⟩
      · obtain ⟨hstart, hbase⟩ := ih b hb
        exact ⟨hstart, by omega⟩

/-- A block stands right of all blocks around it. -/
theorem Stacked.pairwise (h : Stacked start blocks level) :
    blocks.Pairwise fun b outer => outer.base < b.base := by
  induction h with
  | outside => exact .nil
  | inside _ hrest ih => exact .cons (fun outer houter => (hrest.base_bounds outer houter).2) ih

/-- Outside of all blocks the level is the start. -/
theorem Stacked.level_eq (h : Stacked start [] level) : level = start := by
  cases h
  rfl

/-- Counting lines moves no block. -/
theorem Stacked.countLines (h : Stacked start blocks level) (n : Nat) :
    Stacked start (countLines n blocks) level := by
  cases h with
  | outside => exact .outside
  | inside hlt hrest => exact .inside hlt hrest

end Stacked

/-- What the levels of an emitter that started at `start` are always like. -/
structure Levels (start : Int) (e : Emitter) : Prop where
  /-- From the outermost block to the innermost the bases go to the right. -/
  increasing : e.blocks.Pairwise fun b outer => outer.base < b.base
  /-- No base is left of the start. -/
  start_le : ∀ b ∈ e.blocks, start ≤ b.base
  /-- Outside of all blocks the level is the start. -/
  outside : e.blocks = [] → e.builder.level = start
  /-- Inside a block it is right of the block's base. -/
  inside : ∀ b ∈ e.blocks.head?, b.base < e.builder.level

theorem Stacked.levels {start : Int} {e : Emitter} (h : Stacked start e.blocks e.builder.level) :
    e.Levels start where
  increasing := h.pairwise
  start_le := fun b hb => (h.base_bounds b hb).1
  outside := fun hnone => by
    rw [hnone] at h
    exact h.level_eq
  inside := fun b hb => (h.base_bounds b (List.mem_of_mem_head? hb)).2

/-! ## §2. Lines and blocks. -/

/-- A line stands at a level or right of it. -/
def StandsFrom (start : Int) (l : String) : Prop :=
  ∃ (level : Int) (text : String), start ≤ level ∧ l = Builder.indented level text

/-- From one state to another: blocks are stacked, and lines were added that stand where they may. -/
structure Proceeds (start : Int) (e e' : Emitter) : Prop where
  /-- The blocks are stacked again. -/
  stacked : Stacked start e'.blocks e'.builder.level
  /-- What was added. -/
  lines : ∃ added, e'.builder.lines = e.builder.lines ++ added ∧ ∀ l ∈ added, StandsFrom start l

section Operations

variable {start : Int} {e e' e'' : Emitter}

theorem Proceeds.refl (h : Stacked start e.blocks e.builder.level) : Proceeds start e e :=
  ⟨h, [], (List.append_nil _).symm, nofun⟩

theorem Proceeds.trans (h : Proceeds start e e') (h' : Proceeds start e' e'') :
    Proceeds start e e'' := by
  obtain ⟨added, hlines, hadded⟩ := h.lines
  obtain ⟨more, hlines', hmore⟩ := h'.lines
  refine ⟨h'.stacked, added ++ more, ?_, fun l hl => ?_⟩
  · rw [hlines', hlines, List.append_assoc]
  · rcases List.mem_append.mp hl with hl | hl
    · exact hadded l hl
    · exact hmore l hl

variable (h : Stacked start e.blocks e.builder.level)

include h in
/-- Lines at the current level. -/
theorem append_proceeds (texts : List String) (n : Nat) :
    Proceeds start e (e.append (texts.map (Builder.indented e.builder.level)) n) := by
  refine ⟨h.countLines n, texts.map (Builder.indented e.builder.level), ?_, fun l hl => ?_⟩
  · show ((texts.map _).reverse ++ e.builder.rev).reverse = _
    rw [List.reverse_append, List.reverse_reverse]
    rfl
  · obtain ⟨text, _, rfl⟩ := List.mem_map.mp hl
    exact ⟨_, text, h.start_le, rfl⟩

include h in
theorem line_proceeds (text : String) : Proceeds start e (e.line text) :=
  append_proceeds h [text] 1

/-- Lines written one after the other. -/
theorem foldl_line (lines : List (List Char)) (e : Emitter) :
    lines.foldl (fun e l => e.line (String.ofList l)) e
      = e.append ((lines.map String.ofList).map (Builder.indented e.builder.level)) lines.length := by
  induction lines generalizing e with
  | nil => exact (append_nil e).symm
  | cons l lines ih =>
      rw [List.foldl_cons, ih, line_eq_append, append_append, append_level, Nat.add_comm]
      rfl

/-- Leaving a block leads back to its base, perhaps with a `pass` before. -/
theorem close_proceeds {b : OpenBlock} {rest : List OpenBlock}
    (h : Stacked start (b :: rest) e.builder.level) :
    Proceeds start e ({ e with blocks := rest }.close b) := by
  cases h with
  | inside hlt hrest =>
      refine ⟨hrest, ?_⟩
      show ∃ added, (if b.count == 0 then e.builder.add "pass" else e.builder).lines = _ ∧ _
      split
      · refine ⟨[Builder.indented e.builder.level "pass"], List.reverse_cons, ?_⟩
        rw [List.forall_mem_singleton]
        have := hrest.start_le
        exact ⟨e.builder.level, "pass", by omega, rfl⟩
      · exact ⟨[], (List.append_nil _).symm, nofun⟩

include h in
theorem pop_proceeds : Proceeds start e e.pop := by
  unfold pop
  split
  next b rest hblocks => exact close_proceeds (hblocks ▸ h)
  next => exact .refl h

theorem closeGo_proceeds : ∀ (blocks : List OpenBlock) (e : Emitter), e.blocks = blocks →
    Stacked start e.blocks e.builder.level →
      Proceeds start e (closeGo blocks e) ∧ (closeGo blocks e).blocks = []
  | [], _, hblocks, h => ⟨.refl h, hblocks⟩
  | b :: rest, e, hblocks, h => by
      have hclose := close_proceeds (hblocks ▸ h)
      obtain ⟨hrest, hnone⟩ := closeGo_proceeds rest ({ e with blocks := rest }.close b) rfl
        hclose.stacked
      exact ⟨hclose.trans hrest, hnone⟩

/-- How many blocks there are is noted before they are closed, which moves none of them. -/
theorem closeAll_noted (e : Emitter) :
    ∃ unclosed, e.closeAll = closeGo e.blocks { e with unclosed } := by
  unfold closeAll
  by_cases hnone : e.blocks.isEmpty = true
  · exact ⟨e.unclosed, by rw [if_pos hnone]⟩
  · exact ⟨_, by rw [if_neg hnone]⟩

include h in
/-- **Closing all blocks leads back to the start.** -/
theorem closeAll_proceeds :
    Proceeds start e e.closeAll ∧ e.closeAll.blocks = [] ∧ e.closeAll.builder.level = start := by
  obtain ⟨unclosed, hclose⟩ := closeAll_noted e
  obtain ⟨⟨hstacked, hlines⟩, hnone⟩ := closeGo_proceeds e.blocks { e with unclosed } rfl h
  rw [hclose]
  refine ⟨⟨hstacked, hlines⟩, hnone, ?_⟩
  rw [hnone] at hstacked
  exact hstacked.level_eq

/-- An `end` tag without a block adds the line that stands for it, and is counted; that is all. -/
theorem closeEnd_of_no_blocks (hnone : e.blocks = []) :
    e.closeEnd = { e with
      builder := e.builder.add unmatchedLine
      unmatched := e.unmatched + 1 } := by
  obtain ⟨builder, blocks, unmatched, unclosed⟩ := e
  cases hnone
  rfl

include h in
theorem closeEnd_proceeds : Proceeds start e e.closeEnd := by
  unfold closeEnd
  split
  next =>
      have hline := line_proceeds (e := { e with unmatched := e.unmatched + 1 }) h unmatchedLine
      exact ⟨hline.stacked, hline.lines⟩
  next b rest hblocks =>
      have hclose := close_proceeds (hblocks ▸ h)
      dsimp only
      split
      · exact hclose.trans (pop_proceeds hclose.stacked)
      · exact hclose

/-! ## §3. Instructions. -/

include h in
/-- The lines of a statement are written at the current level, and a block it opens is right of it,
however its last line is indented. -/
theorem writeStatement_proceeds (lines : List (List Char)) (word : String) :
    Proceeds start e (e.writeStatement lines word) := by
  have hwritten := append_proceeds h (lines.map String.ofList) lines.length
  unfold writeStatement
  rw [foldl_line]
  dsimp only
  split
  · refine ⟨.inside ?_ hwritten.stacked, hwritten.lines⟩
    show e.builder.level < e.builder.level + (indentOf (lines.getLastD []) : Int) + Builder.step
    unfold Builder.step
    omega
  · exact ⟨hwritten.stacked, hwritten.lines⟩

include h in
theorem statement_proceeds (code : String) : Proceeds start e (e.statement code) := by
  unfold statement
  dsimp only
  split
  · exact .refl h
  split
  · exact closeEnd_proceeds h
  split
  · -- a continuation stands where the block that it continues was opened
    have hpop := pop_proceeds h
    exact hpop.trans (writeStatement_proceeds hpop.stacked _ _)
  · exact writeStatement_proceeds h _ _

include h in
/-- The layout is asked for outside of all blocks. -/
theorem emit_checkLayout (contextName : String) (isAsync : Bool) :
    let after := emit contextName e (.checkLayout isAsync)
    after.blocks = [] ∧ after.builder.level = start
      ∧ after.builder.lines = e.closeAll.builder.lines
          ++ (layoutLines contextName isAsync).map (Builder.indented start) := by
  obtain ⟨_, hnone, hlevel⟩ := closeAll_proceeds h
  intro after
  refine ⟨hnone, (Builder.addAll_level _ _).trans hlevel, ?_⟩
  show (e.closeAll.builder.addAll _).lines = _
  rw [Builder.addAll_lines, hlevel]

include h in
/-- **One instruction keeps the blocks stacked.** -/
theorem emit_proceeds (contextName : String) (i : Instruction) :
    Proceeds start e (emit contextName e i) := by
  cases i with
  | appendLiteral value =>
      unfold emit
      dsimp only
      split
      · exact .refl h
      · exact line_proceeds h _
  | appendExpression expr filtered escaped => exact line_proceeds h _
  | executeStatement code => exact statement_proceeds h code
  | setLine lineno =>
      unfold emit
      dsimp only
      split
      · exact .refl h
      · exact line_proceeds h _
  | checkLayout isAsync =>
      obtain ⟨hclose, hnone, hlevel⟩ := closeAll_proceeds h
      obtain ⟨hblocks, hafter, hlines⟩ := emit_checkLayout h contextName isAsync
      obtain ⟨added, hadded, hstand⟩ := hclose.lines
      refine ⟨?_, added ++ (layoutLines contextName isAsync).map (Builder.indented start), ?_, ?_⟩
      · rw [hblocks, hafter]
        exact .outside
      · rw [hlines, hadded, List.append_assoc]
      · intro l hl
        rcases List.mem_append.mp hl with hl | hl
        · exact hstand l hl
        · obtain ⟨text, _, rfl⟩ := List.mem_map.mp hl
          exact ⟨start, text, Int.le_refl start, rfl⟩

end Operations

/-- **A program keeps the blocks stacked.** -/
theorem emitAll_proceeds (contextName : String) {start : Int} :
    ∀ (program : List Instruction) (e : Emitter), Stacked start e.blocks e.builder.level →
      Proceeds start e (emitAll contextName e program)
  | [], _, h => .refl h
  | i :: program, e, h => by
      have hfirst := emit_proceeds h contextName i
      rw [emitAll_cons]
      exact hfirst.trans (emitAll_proceeds contextName program _ hfirst.stacked)

/-! ## §4. Ends without a block. -/

end Emitter

/-- Whether an instruction is an `end` tag: the first line of its code is that word. -/
def Instruction.isEnd : Instruction → Bool
  | .executeStatement code => (Block.statementLines code.toList).headD [] == "end".toList
  | _ => false

namespace Emitter

/-- An `end` tag closes a block and does nothing else. -/
theorem emit_of_isEnd (contextName : String) (e : Emitter) {i : Instruction} (h : i.isEnd = true) :
    emit contextName e i = e.closeEnd := by
  cases i with
  | executeStatement code =>
      have hhead : (Block.statementLines code.toList).headD [] = "end".toList := beq_iff_eq.mp h
      show e.statement code = _
      unfold statement
      dsimp only
      rw [hhead]
      rfl
  | _ => nomatch h

/-- How many `end` tags of a program find no open block. -/
def strayEnds (contextName : String) (e : Emitter) : List Instruction → Nat
  | [] => 0
  | i :: program =>
    (if e.blocks = [] ∧ i.isEnd = true then 1 else 0)
      + strayEnds contextName (emit contextName e i) program

section Unmatched

@[simp] theorem pop_unmatched (e : Emitter) : e.pop.unmatched = e.unmatched := by
  unfold pop
  split <;> rfl

theorem closeGo_unmatched : ∀ (blocks : List OpenBlock) (e : Emitter),
    (closeGo blocks e).unmatched = e.unmatched
  | [], _ => rfl
  | _ :: rest, _ => closeGo_unmatched rest _

@[simp] theorem closeAll_unmatched (e : Emitter) : e.closeAll.unmatched = e.unmatched := by
  unfold closeAll
  dsimp only
  rw [closeGo_unmatched]
  split <;> rfl

@[simp] theorem writeStatement_unmatched (e : Emitter) (lines : List (List Char)) (word : String) :
    (e.writeStatement lines word).unmatched = e.unmatched := by
  unfold writeStatement
  rw [foldl_line]
  dsimp only
  split <;> rfl

/-- A statement that is no `end` is not counted. -/
theorem statement_unmatched {e : Emitter} {code : String}
    (h : (Instruction.executeStatement code).isEnd = false) :
    (e.statement code).unmatched = e.unmatched := by
  have hhead : ¬ (String.ofList ((Block.statementLines code.toList).headD []) == "end") = true := by
    rw [beq_iff_eq]
    intro hend
    have htrue : ((Block.statementLines code.toList).headD [] == "end".toList) = true := by
      rw [← hend, String.toList_ofList, beq_self_eq_true]
    exact absurd (h.symm.trans htrue) nofun
  unfold statement
  dsimp only
  rw [if_neg hhead]
  split
  · rfl
  split
  · rw [writeStatement_unmatched, pop_unmatched]
  · rw [writeStatement_unmatched]

/-- **An instruction is counted exactly if it is an `end` tag and no block is open.** -/
theorem emit_unmatched (contextName : String) (e : Emitter) (i : Instruction) :
    (emit contextName e i).unmatched
      = e.unmatched + if e.blocks = [] ∧ i.isEnd = true then 1 else 0 := by
  by_cases hend : i.isEnd = true
  · rw [emit_of_isEnd contextName e hend]
    by_cases hnone : e.blocks = []
    · rw [closeEnd_of_no_blocks hnone, if_pos ⟨hnone, hend⟩]
    · rw [if_neg fun h => hnone h.1]
      unfold closeEnd
      split
      next hblocks => exact absurd hblocks hnone
      next =>
        dsimp only
        split
        · rw [pop_unmatched]
          rfl
        · rfl
  · rw [if_neg fun h => hend h.2]
    cases i with
    | appendLiteral value => unfold emit; dsimp only; split <;> rfl
    | appendExpression expr filtered escaped => rfl
    | executeStatement code => exact statement_unmatched (Bool.eq_false_iff.mpr hend)
    | setLine lineno => unfold emit; dsimp only; split <;> rfl
    | checkLayout isAsync => exact closeAll_unmatched e

/-- **A program's `end` tags without a block are counted, one by one.** -/
theorem emitAll_unmatched (contextName : String) :
    ∀ (program : List Instruction) (e : Emitter),
      (emitAll contextName e program).unmatched = e.unmatched + strayEnds contextName e program
  | [], _ => rfl
  | i :: program, e => by
      rw [emitAll_cons, emitAll_unmatched contextName program, emit_unmatched, strayEnds, Nat.add_assoc]

end Unmatched

/-! ## §5. The lines around a program. -/

/-- The emitter in front of a program: behind the preamble, and inside the `try` if failures are
reported. -/
def entry (settings : CodeSettings) (source : String) : Emitter :=
  let b := ({} : Builder).addAll (preamble settings source)
  { builder := if settings.debug then (b.add "try:").indent else b }

/-- The level at which the lines of a program begin. -/
def entryLevel (settings : CodeSettings) : Int := if settings.debug then Builder.step else 0

/-- The record about an `end` tag without a block. -/
def strayRecord : Record := ⟨.warning, .emitter, "Unmatched 'end' tag in template"⟩

/-- The record about a number of blocks that were left open. -/
def closingRecord (n : Nat) : Record :=
  ⟨.debug, .emitter, "Closing " ++ toString n ++ " unterminated block(s)"⟩

section Around

variable (settings : CodeSettings) (source : String)

theorem entry_level : (entry settings source).builder.level = entryLevel settings := by
  unfold entry entryLevel
  have hpreamble := Builder.addAll_level {} (preamble settings source)
  cases settings.debug with
  | false => exact hpreamble
  | true => exact congrArg (· + Builder.step) hpreamble

theorem entry_stacked :
    Stacked (entryLevel settings) (entry settings source).blocks
      (entry settings source).builder.level := by
  rw [entry_level]
  exact .outside

/-- At level zero nothing stands before a line. -/
theorem indented_zero (l : String) : Builder.indented 0 l = l := by
  rw [← String.toList_inj, Builder.indented, String.toList_append, String.toList_ofList]
  rfl

theorem map_indented_zero (ls : List String) : ls.map (Builder.indented 0) = ls := by
  conv => rhs; rw [← List.map_id ls]
  exact List.map_congr_left fun l _ => indented_zero l

theorem entry_lines :
    (entry settings source).builder.lines
      = preamble settings source ++ if settings.debug then ["try:"] else [] := by
  have hlevel := Builder.addAll_level {} (preamble settings source)
  have hpreamble : (({} : Builder).addAll (preamble settings source)).lines
      = preamble settings source := by
    rw [Builder.addAll_lines]
    exact map_indented_zero _
  unfold entry
  cases settings.debug with
  | false => exact hpreamble.trans (List.append_nil _).symm
  | true =>
      show ((({} : Builder).addAll (preamble settings source)).addAll ["try:"]).lines = _
      rw [Builder.addAll_lines, hpreamble, hlevel]
      exact congrArg (_ ++ ·) (map_indented_zero _)

theorem emitProgram_eq (program : List Instruction) :
    emitProgram settings source program
      = (emitAll settings.contextName (entry settings source) program).closeAll := rfl

/-- A lowered program ends with the question for the layout. -/
theorem lower_eq {settings : CodeSettings} {nodes : List Node} {program : List Instruction}
    (h : lower settings nodes = .ok program) :
    ∃ own, program = own ++ [.checkLayout settings.asyncMode] := by
  unfold lower at h
  cases hsteps : nodes.mapM (instructionsOf settings) with
  | error e =>
      rw [hsteps] at h
      cases h
  | ok steps =>
      rw [hsteps] at h
      cases h
      exact ⟨steps.flatten, rfl⟩

/-- Behind a program that ends where it began, everything stands at the margin. -/
theorem bodyText_lines {e : Emitter} (hlevel : e.builder.level = entryLevel settings) :
    bodyText settings e = "\n".intercalate (e.builder.lines
      ++ (if settings.debug then reportLines else []) ++ [returnLine]) ++ "\n" := by
  unfold entryLevel at hlevel
  unfold bodyText
  cases hdebug : settings.debug with
  | false =>
      rw [hdebug] at hlevel
      have hmargin : e.builder.level = 0 := hlevel
      show "\n".intercalate (e.builder.addAll [returnLine]).lines ++ "\n" = _
      rw [Builder.addAll_lines, hmargin, map_indented_zero]
      simp
  | true =>
      -- the reports go back to the margin, wherever the program ended
      let margin : Builder := { e.builder with level := 0 }
      have hmargin : margin.level = 0 := rfl
      show "\n".intercalate ((margin.addAll reportLines).addAll [returnLine]).lines ++ "\n" = _
      rw [Builder.addAll_lines, Builder.addAll_level, Builder.addAll_lines, hmargin,
        map_indented_zero, map_indented_zero]
      rfl

/-- No block is open behind the question for the layout, so closing all of them does nothing. -/
theorem emitProgram_layout (steps : List Instruction) :
    emitProgram settings source (steps ++ [.checkLayout settings.asyncMode])
      = emit settings.contextName (emitAll settings.contextName (entry settings source) steps)
          (.checkLayout settings.asyncMode) := by
  have hsteps := (emitAll_proceeds settings.contextName steps _ (entry_stacked settings source)).stacked
  rw [emitProgram_eq, emitAll_append]
  exact closeAll_of_no_blocks (emit_checkLayout hsteps _ _).1

/-- **The lines of a lowered program**: its own lines stand at the level where it began or right of
it, the layout is asked for at that level, and what follows stands at the margin. -/
theorem body_lines_eq {settings : CodeSettings} {nodes : List Node} {program : List Instruction}
    (h : lower settings nodes = .ok program) :
    ∃ own,
      bodyText settings (emitProgram settings source program)
          = "\n".intercalate (preamble settings source
              ++ (if settings.debug then ["try:"] else []) ++ own
              ++ (layoutLines settings.contextName settings.asyncMode).map
                (Builder.indented (entryLevel settings))
              ++ (if settings.debug then reportLines else []) ++ [returnLine]) ++ "\n"
        ∧ ∀ l ∈ own, StandsFrom (entryLevel settings) l := by
  obtain ⟨steps, rfl⟩ := lower_eq h
  let before := emitAll settings.contextName (entry settings source) steps
  have hsteps : Proceeds (entryLevel settings) (entry settings source) before :=
    emitAll_proceeds settings.contextName steps _ (entry_stacked settings source)
  have hclose := (closeAll_proceeds hsteps.stacked).1
  obtain ⟨_, hlevel, hlines⟩ :=
    emit_checkLayout hsteps.stacked settings.contextName settings.asyncMode
  obtain ⟨own, hown, hstand⟩ := (hsteps.trans hclose).lines
  refine ⟨own, ?_, hstand⟩
  rw [emitProgram_layout, bodyText_lines settings hlevel, hlines, hown, entry_lines]

/-- **What writing a body leaves**: one warning for each `end` tag without a block, and a message for
each time that blocks were left to close. -/
theorem writeBody_leaves (program : List Instruction) :
    Traced.Leaves (writeBody settings source program)
      (bodyText settings (emitProgram settings source program))
      (List.replicate (strayEnds settings.contextName (entry settings source) program) strayRecord
        ++ (emitProgram settings source program).unclosed.reverse.map closingRecord) := by
  have hcount : (emitProgram settings source program).unmatched
      = strayEnds settings.contextName (entry settings source) program := by
    rw [emitProgram_eq, closeAll_unmatched, emitAll_unmatched]
    exact Nat.zero_add _
  have hwarnings := Traced.Leaves.forIn .warning .emitter
    (fun _ : Nat => "Unmatched 'end' tag in template")
    (List.range (emitProgram settings source program).unmatched)
  have hclosings := Traced.Leaves.forIn .debug .emitter
    (fun n : Nat => "Closing " ++ toString n ++ " unterminated block(s)")
    (emitProgram settings source program).unclosed.reverse
  rw [List.map_const', List.length_range] at hwarnings
  rw [← hcount, ← List.append_nil (List.map closingRecord _)]
  exact .bind hwarnings (.bind hclosings .pure)

end Around

/-! ## §6. THE THEOREM. -/

/-- **THE EMITTER COMES BACK TO WHERE IT STARTED**: whatever a program consists of, behind it the bases
of the open blocks go to the right from the outermost one on, none is left of the start, and the level
is right of the innermost or, outside of all blocks, the start.  An `end` tag without a block adds one
line and one warning and moves nothing.  When the blocks are closed, on their own or before a layout is
asked for, none is open and the level is the start; so in the body of lowered nodes the layout is asked
for at the level where the program begins, inside the `try` if there is one, and the reports and the
return stand at the margin. -/
theorem emitAll_levels (contextName : String) (rev : List String) (start : Int)
    (program : List Instruction) :
    let first : Emitter := { builder := ⟨rev, start⟩ }
    let e := emitAll contextName first program
    e.Levels start
      ∧ (∀ i : Instruction, i.isEnd = true → e.blocks = [] →
          emit contextName e i = { e with
            builder := e.builder.add unmatchedLine
            unmatched := e.unmatched + 1 })
      ∧ e.unmatched = strayEnds contextName first program
      ∧ e.closeAll.blocks = [] ∧ e.closeAll.builder.level = start
      ∧ (∀ isAsync,
          let after := emit contextName e (.checkLayout isAsync)
          after.blocks = [] ∧ after.builder.level = start
            ∧ after.builder.lines = e.closeAll.builder.lines
              ++ (layoutLines contextName isAsync).map (Builder.indented start))
      ∧ ∀ (settings : CodeSettings) (source : String),
          Traced.Leaves (writeBody settings source program)
            (bodyText settings (emitProgram settings source program))
            (List.replicate (strayEnds settings.contextName (entry settings source) program) strayRecord
              ++ (emitProgram settings source program).unclosed.reverse.map closingRecord)
          ∧ ∀ nodes, lower settings nodes = .ok program →
              ∃ own,
                bodyText settings (emitProgram settings source program)
                    = "\n".intercalate (preamble settings source
                        ++ (if settings.debug then ["try:"] else []) ++ own
                        ++ (layoutLines settings.contextName settings.asyncMode).map
                          (Builder.indented (entryLevel settings))
                        ++ (if settings.debug then reportLines else []) ++ [returnLine]) ++ "\n"
                  ∧ ∀ l ∈ own, StandsFrom (entryLevel settings) l := by
  intro first e
  have hstacked : Stacked start e.blocks e.builder.level :=
    (emitAll_proceeds contextName program first .outside).stacked
  obtain ⟨_, hnone, hlevel⟩ := closeAll_proceeds hstacked
  have hcount : e.unmatched = strayEnds contextName first program := by
    rw [emitAll_unmatched]
    exact Nat.zero_add _
  refine ⟨hstacked.levels, fun i hend hblocks => ?_, hcount, hnone, hlevel,
    emit_checkLayout hstacked contextName, fun settings source => ?_⟩
  · rw [emit_of_isEnd contextName e hend, closeEnd_of_no_blocks hblocks]
  · exact ⟨writeBody_leaves settings source program, fun _ h => body_lines_eq source h⟩

/-- An `end` tag before any block, and two blocks that one tag opens and none closes. -/
theorem emitAll_levels_stray :
    let settings : CodeSettings := { debug := true }
    let nodes : List Node :=
      [.tag .execute "end" none, .tag .execute "for x in xs:\n\tif x:" (some 2), .literal "a"]
    let program : List Instruction :=
      [.executeStatement "end", .setLine 2, .executeStatement "for x in xs:\n\tif x:",
        .appendLiteral "a", .checkLayout false]
    let e := emitAll "it" {} program
    lower settings nodes = .ok program ∧ (Instruction.executeStatement "end").isEnd = true
      ∧ e.blocks = [] ∧ strayEnds "it" (entry settings "") program = 1
      ∧ emit "it" e (.executeStatement "end") = { e with
          builder := e.builder.add unmatchedLine
          unmatched := e.unmatched + 1 }
      ∧ ∃ own,
          bodyText settings (emitProgram settings "" program)
              = "\n".intercalate (preamble settings "" ++ ["try:"] ++ own
                  ++ (layoutLines "it" false).map (Builder.indented 4) ++ reportLines
                  ++ [returnLine]) ++ "\n"
            ∧ ∀ l ∈ own, StandsFrom 4 l := by
  intro settings nodes program e
  have hlower : lower settings nodes = .ok program := rfl
  have hend : (Instruction.executeStatement "end").isEnd = true := by decide
  obtain ⟨_, hstray, _, _, _, _, hbody⟩ := emitAll_levels "it" [] 0 program
  have hblocks : e.blocks = [] := by decide
  have hcount : strayEnds "it" (entry settings "") program = 1 := by decide
  exact ⟨hlower, hend, hblocks, hcount, hstray _ hend hblocks, (hbody settings "").2 nodes hlower⟩

end Emitter

end TagTemplate
