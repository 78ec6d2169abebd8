/-
  TagTemplate.Proofs.Code.Moves
  ────────────────────────────────
  **WHAT AN INSTRUCTION DOES TO THE CODE.**

  Whatever an instruction is, the emitter does three things for it, one after
  the other:

      leave   — a number of blocks are closed, each filled if nothing was
                written into it
      put     — lines of its own are written at the level this leads to
      enter   — perhaps a block opens behind them

  How many blocks, which lines and which block is decided by the instruction
  and the keywords of the open blocks (`closes`, `texts`, `opens`), not by
  levels or by how much was written.  So what holds of the three holds of
  every instruction, and two emitters whose blocks have the same keywords do
  the same.

    • `emit_alike` — an instruction is these three,
    • `emit_lines` — the lines it adds: a `pass` for each block that it fills,
      and then its own,
    • `emitAll_keeps` — a program's lines, instruction by instruction.
-/
import TagTemplate.Proofs.Code.Levels

namespace TagTemplate

open Text

/-! ## §1. What an instruction asks for. -/

namespace Instruction

/-- Whether a statement with this first word continues the innermost of these blocks. -/
def continuesIn (around : List String) (word : String) : Bool :=
  match around with
  | keyword :: _ => Emitter.continuations.contains word || (word == "case" && keyword == "case")
  | [] => false

/-- How many of these blocks an `end` tag closes. -/
def endCloses : List String → Nat
  | [] => 0
  | keyword :: outer => if keyword == "case" && outer.head? == some "match" then 2 else 1

/-- How many of the blocks around it an instruction closes. -/
def closes (around : List String) : Instruction → Nat
  | .executeStatement code =>
    let head := (Block.statementLines code.toList).headD []
    if head.isEmpty then 0
    else if String.ofList head == "end" then endCloses around
    else if continuesIn around (Emitter.firstWord head) then 1
    else 0
  | .checkLayout _ => around.length
  | _ => 0

/-- The lines of its own that an instruction has inside these blocks. -/
def texts (contextName : String) (around : List String) : Instruction → List String
  | .appendLiteral value =>
    if around.head? == some "match" && allBlank (Literal.unescape value.toList) then []
    else ["__kiln_append('" ++ value ++ "')"]
  | .appendExpression expr filtered escaped => [Emitter.expressionLine expr filtered escaped]
  | .executeStatement code =>
    let lines := Block.statementLines code.toList
    if (lines.headD []).isEmpty then []
    else if String.ofList (lines.headD []) == "end" then
      if around.isEmpty then [Emitter.unmatchedLine] else []
    else lines.map String.ofList
  | .setLine lineno =>
    if around.head? == some "match" then [] else ["__kiln.line = " ++ toString lineno]
  | .checkLayout isAsync => Emitter.layoutLines contextName isAsync

/-- The block that the last line of a statement opens, if it opens one: its keyword, and the
indentation of the line. -/
def blockBehind (lines : List (List Char)) : Option (String × Nat) :=
  let last := lines.getLastD []
  let header := if lines.length > 1 then stripStart last else lines.headD []
  if Block.opensBlock (strip last) then some (Emitter.firstWord header, Emitter.indentOf last)
  else none

/-- The block that opens behind an instruction. -/
def opens : Instruction → Option (String × Nat)
  | .executeStatement code =>
    let lines := Block.statementLines code.toList
    if (lines.headD []).isEmpty then none
    else if String.ofList (lines.headD []) == "end" then none
    else blockBehind lines
  | _ => none

end Instruction

namespace Emitter

/-! ## §2. The three operations. -/

/-- The keywords of the open blocks, innermost first. -/
def keywords (e : Emitter) : List String := e.blocks.map (·.keyword)

/-- Close a number of blocks. -/
def leave : Nat → Emitter → Emitter
  | 0, e => e
  | n + 1, e => leave n e.pop

/-- Write lines at the current level. -/
def put (e : Emitter) (texts : List String) : Emitter :=
  e.append (texts.map (Builder.indented e.builder.level)) texts.length

/-- Open a block, if there is one to open. -/
def enter (e : Emitter) : Option (String × Nat) → Emitter
  | some (keyword, indent) =>
    { e with
      blocks := ⟨keyword, e.builder.level, 0⟩ :: e.blocks
      builder := { e.builder with level := e.builder.level + indent + Builder.step } }
  | none => e

/-- What the emitter does for an instruction. -/
def carryOut (contextName : String) (e : Emitter) (i : Instruction) : Emitter :=
  ((e.leave (i.closes e.keywords)).put (i.texts contextName e.keywords)).enter i.opens

theorem put_nil (e : Emitter) : e.put [] = e := append_nil e

theorem foldl_line_eq_put (lines : List (List Char)) (e : Emitter) :
    lines.foldl (fun e l => e.line (String.ofList l)) e = e.put (lines.map String.ofList) := by
  rw [foldl_line]
  unfold put
  rw [List.length_map]

/-- Lines that stand in no block are counted nowhere. -/
theorem put_of_no_blocks (texts : List String) {e : Emitter} (h : e.blocks = []) :
    e.put texts = { e with builder := e.builder.addAll texts } := by
  induction texts generalizing e with
  | nil => exact put_nil e
  | cons text texts ih =>
      have hput : e.put (text :: texts) = (e.line text).put texts := by
        unfold put
        rw [line_eq_append, append_append, append_level, List.map_cons, List.length_cons,
          Nat.add_comm texts.length]
        rfl
      have hline : e.line text = { e with builder := e.builder.add text } := by
        unfold line
        rw [h]
        rfl
      rw [hput, hline, ih (e := { e with builder := e.builder.add text }) h]
      rfl

/-! ## §3. An instruction is these three. -/

/-- Two emitters with the same code and the same open blocks, whatever they count besides. -/
structure Alike (e e' : Emitter) : Prop where
  /-- The same lines, and the same level. -/
  builder : e.builder = e'.builder
  /-- The same blocks. -/
  blocks : e.blocks = e'.blocks

section Alike

variable {e e' : Emitter}

theorem Alike.refl (e : Emitter) : Alike e e := ⟨rfl, rfl⟩

theorem Alike.pop (h : Alike e e') : Alike e.pop e'.pop := by
  obtain ⟨builder, blocks, _, _⟩ := e
  obtain ⟨builder', blocks', _, _⟩ := e'
  obtain ⟨hbuilder, hblocks⟩ := h
  dsimp only at hbuilder hblocks
  subst hbuilder hblocks
  cases blocks <;> exact ⟨rfl, rfl⟩

theorem Alike.leave (h : Alike e e') (n : Nat) : Alike (leave n e) (Emitter.leave n e') := by
  induction n generalizing e e' with
  | zero => exact h
  | succ n ih => exact ih h.pop

theorem Alike.put (h : Alike e e') (texts : List String) : Alike (e.put texts) (e'.put texts) := by
  unfold Emitter.put append
  rw [h.builder, h.blocks]
  exact ⟨rfl, rfl⟩

end Alike

theorem inBareMatch_eq (e : Emitter) : e.inBareMatch = (e.keywords.head? == some "match") := by
  unfold inBareMatch keywords
  cases e.blocks <;> rfl

theorem continues_eq (e : Emitter) (word : String) :
    e.continues word = Instruction.continuesIn e.keywords word := by
  unfold continues Instruction.continuesIn keywords
  cases e.blocks <;> rfl

/-- Closing all blocks is leaving one after the other, and then none is open. -/
theorem closeGo_eq_leave (blocks : List OpenBlock) {e : Emitter} (h : e.blocks = blocks) :
    closeGo blocks e = leave blocks.length e ∧ (closeGo blocks e).blocks = [] := by
  induction blocks generalizing e with
  | nil => exact ⟨rfl, h⟩
  | cons b rest ih =>
      have hpop : e.pop = { e with blocks := rest }.close b := by
        unfold pop
        rw [h]
      show closeGo rest ({ e with blocks := rest }.close b) = leave rest.length e.pop
        ∧ (closeGo rest ({ e with blocks := rest }.close b)).blocks = []
      rw [← hpop]
      exact ih (by rw [hpop]; rfl)

theorem closeAll_alike (e : Emitter) :
    Alike e.closeAll (leave e.keywords.length e) ∧ e.closeAll.blocks = [] := by
  obtain ⟨unclosed, hclose⟩ := closeAll_noted e
  obtain ⟨hleave, hnone⟩ := closeGo_eq_leave e.blocks (e := { e with unclosed }) rfl
  have hlength : e.keywords.length = e.blocks.length := List.length_map _
  rw [hclose]
  refine ⟨?_, hnone⟩
  have hnoted : Alike { e with unclosed } e := ⟨rfl, rfl⟩
  rw [hleave, hlength]
  exact hnoted.leave _

theorem closeEnd_alike (e : Emitter) :
    Alike e.closeEnd ((e.leave (Instruction.endCloses e.keywords)).put
      (if e.keywords.isEmpty then [unmatchedLine] else [])) := by
  obtain ⟨builder, blocks, unmatched, unclosed⟩ := e
  cases blocks with
  | nil => exact ⟨rfl, rfl⟩
  | cons b rest =>
      let after := { builder, blocks := rest, unmatched, unclosed : Emitter }.close b
      have hbare : after.inBareMatch = ((rest.map (·.keyword)).head? == some "match") :=
        inBareMatch_eq after
      show Alike (if (b.keyword == "case" && after.inBareMatch) = true then after.pop else after)
        ((leave (if (b.keyword == "case" && (rest.map (·.keyword)).head? == some "match") = true
          then 2 else 1) _).put [])
      rw [put_nil, hbare]
      split <;> exact .refl _

/-- A statement is its lines, and perhaps a block. -/
theorem writeStatement_eq (e : Emitter) (lines : List (List Char)) :
    e.writeStatement lines (firstWord (lines.headD []))
      = (e.put (lines.map String.ofList)).enter (Instruction.blockBehind lines) := by
  unfold writeStatement Instruction.blockBehind
  rw [foldl_line_eq_put]
  dsimp only
  rw [← apply_ite firstWord]
  split <;> rfl

/-- **An instruction is carried out in three steps**: the code and the blocks behind it are those
behind the blocks that it closes, the lines that it has and the block that it opens. -/
theorem emit_alike (contextName : String) (e : Emitter) (i : Instruction) :
    Alike (emit contextName e i) (carryOut contextName e i) := by
  cases i with
  | appendLiteral value =>
      unfold emit carryOut Instruction.texts
      dsimp only
      rw [inBareMatch_eq]
      split
      · exact ⟨rfl, (countLines_zero _).symm⟩
      · exact .refl _
  | appendExpression expr filtered escaped => exact .refl _
  | executeStatement code =>
      unfold emit statement carryOut Instruction.texts Instruction.closes Instruction.opens
      dsimp only
      split
      · exact ⟨rfl, (countLines_zero _).symm⟩
      split
      · exact closeEnd_alike e
      · rw [continues_eq, writeStatement_eq]
        split <;> exact .refl _
  | setLine lineno =>
      unfold emit carryOut Instruction.texts
      dsimp only
      rw [inBareMatch_eq]
      split
      · exact ⟨rfl, (countLines_zero _).symm⟩
      · exact .refl _
  | checkLayout isAsync =>
      obtain ⟨hclose, hnone⟩ := closeAll_alike e
      have hlayout := hclose.put (layoutLines contextName isAsync)
      rw [put_of_no_blocks _ hnone] at hlayout
      exact hlayout

/-! ## §4. The lines that it adds. -/

/-- A line that fills an empty block. -/
def IsFiller (l : String) : Prop := ∃ level, l = Builder.indented level "pass"

section Lines

/-- Closing a block adds a filler, or nothing. -/
theorem pop_lines (e : Emitter) :
    ∃ fillers, e.pop.builder.lines = e.builder.lines ++ fillers ∧ ∀ l ∈ fillers, IsFiller l := by
  obtain ⟨builder, blocks, unmatched, unclosed⟩ := e
  cases blocks with
  | nil => exact ⟨[], (List.append_nil _).symm, nofun⟩
  | cons b rest =>
      by_cases hempty : (b.count == 0) = true
      · refine ⟨[Builder.indented builder.level "pass"], ?_, ?_⟩
        · show (if (b.count == 0) = true then builder.add "pass" else builder).lines = _
          rw [if_pos hempty]
          exact List.reverse_cons
        · rw [List.forall_mem_singleton]
          exact ⟨builder.level, rfl⟩
      · refine ⟨[], ?_, nofun⟩
        show (if (b.count == 0) = true then builder.add "pass" else builder).lines = _
        rw [if_neg hempty]
        exact (List.append_nil _).symm

theorem leave_lines (n : Nat) (e : Emitter) :
    ∃ fillers, (leave n e).builder.lines = e.builder.lines ++ fillers
      ∧ ∀ l ∈ fillers, IsFiller l := by
  induction n generalizing e with
  | zero => exact ⟨[], (List.append_nil _).symm, nofun⟩
  | succ n ih =>
      obtain ⟨first, hfirst, hfillers⟩ := pop_lines e
      obtain ⟨rest, hrest, hfillers'⟩ := ih e.pop
      refine ⟨first ++ rest, ?_, ?_⟩
      · show (leave n e.pop).builder.lines = _
        rw [hrest, hfirst, List.append_assoc]
      · intro l hl
        rcases List.mem_append.mp hl with hl | hl
        · exact hfillers l hl
        · exact hfillers' l hl

theorem put_lines (e : Emitter) (texts : List String) :
    (e.put texts).builder.lines = e.builder.lines ++ texts.map (Builder.indented e.builder.level) := by
  show ((texts.map _).reverse ++ e.builder.rev).reverse = _
  rw [List.reverse_append, List.reverse_reverse]
  rfl

theorem enter_lines (e : Emitter) (block : Option (String × Nat)) :
    (e.enter block).builder.lines = e.builder.lines := by
  cases block <;> rfl

variable (contextName : String)

/-- The lines that an instruction adds. -/
def added (stage : Emitter × Instruction) : List String :=
  (emit contextName stage.1 stage.2).builder.lines.drop stage.1.builder.lines.length

/-- The level of an instruction's own lines. -/
def levelAt (e : Emitter) (i : Instruction) : Int := (e.leave (i.closes e.keywords)).builder.level

/-- Behind an instruction are the lines of the blocks that it closes, and its own. -/
theorem emit_left_lines (e : Emitter) (i : Instruction) :
    (emit contextName e i).builder.lines
      = (leave (i.closes e.keywords) e).builder.lines
        ++ (i.texts contextName e.keywords).map (Builder.indented (levelAt e i)) := by
  rw [(emit_alike contextName e i).builder]
  unfold carryOut
  rw [enter_lines, put_lines]
  rfl

/-- **The lines of an instruction**: nothing before it changes, and it adds a `pass` for each block
that it fills, and then its own lines, all at one level. -/
theorem emit_lines (e : Emitter) (i : Instruction) :
    (emit contextName e i).builder.lines = e.builder.lines ++ added contextName (e, i)
      ∧ ∃ fillers,
        added contextName (e, i)
            = fillers ++ (i.texts contextName e.keywords).map (Builder.indented (levelAt e i))
          ∧ ∀ l ∈ fillers, IsFiller l := by
  obtain ⟨fillers, hleave, hfillers⟩ := leave_lines (i.closes e.keywords) e
  have hemit : (emit contextName e i).builder.lines
      = e.builder.lines
        ++ (fillers ++ (i.texts contextName e.keywords).map (Builder.indented (levelAt e i))) := by
    rw [emit_left_lines, hleave, List.append_assoc]
  have hadded : added contextName (e, i)
      = fillers ++ (i.texts contextName e.keywords).map (Builder.indented (levelAt e i)) := by
    unfold added
    rw [hemit, List.drop_left]
  exact ⟨by rw [hemit, hadded], fillers, hadded, hfillers⟩

/-- The instructions of a program, each with the state it is taken in. -/
def stages : Emitter → List Instruction → List (Emitter × Instruction)
  | _, [] => []
  | e, i :: program => (e, i) :: stages (emit contextName e i) program

/-- **The lines of a program** are those of its instructions, in their order. -/
theorem emitAll_lines (program : List Instruction) (e : Emitter) :
    (emitAll contextName e program).builder.lines
      = e.builder.lines ++ (stages contextName e program).flatMap (added contextName) := by
  induction program generalizing e with
  | nil => exact (List.append_nil _).symm
  | cons i program ih =>
      rw [emitAll_cons, ih, (emit_lines contextName e i).1, stages, List.flatMap_cons,
        List.append_assoc]

/-- The stages of a program are its instructions. -/
theorem stages_instructions (program : List Instruction) (e : Emitter) :
    (stages contextName e program).map (·.2) = program := by
  induction program generalizing e with
  | nil => rfl
  | cons i program ih => rw [stages, List.map_cons, ih]

/-! ## §5. THE THEOREM. -/

/-- **NO LINE OF A PROGRAM IS LOST**: whatever it consists of, behind a program are the lines that were
there before and then, instruction by instruction in their order, the instruction's own lines, one after
the other and all at one level, with nothing in front of them but a `pass` for each block it fills. -/
theorem emitAll_keeps (program : List Instruction) (e : Emitter) :
    let steps := stages contextName e program
    steps.map (·.2) = program
      ∧ (emitAll contextName e program).builder.lines
        = e.builder.lines ++ steps.flatMap (added contextName)
      ∧ ∀ s ∈ steps, ∃ fillers,
        added contextName s
            = fillers
              ++ (s.2.texts contextName s.1.keywords).map (Builder.indented (levelAt s.1 s.2))
          ∧ ∀ l ∈ fillers, IsFiller l := by
  intro steps
  refine ⟨stages_instructions contextName program e, emitAll_lines contextName program e, ?_⟩
  intro s _
  exact (emit_lines contextName s.1 s.2).2

/-- The lines below an `end` are none of its own. -/
example :
    (emitAll "it" {} [.executeStatement "if a:", .appendLiteral "b",
      .executeStatement "end\nx = 1"]).builder.lines = ["if a:", "    __kiln_append('b')"] := by
  decide

end Lines

end Emitter

end TagTemplate
