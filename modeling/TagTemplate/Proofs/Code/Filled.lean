/-
  TagTemplate.Proofs.Code.Filled
  ────────────────────────────────
  **NO BLOCK IS LEFT EMPTY.**

  A block is closed with a `pass` if nothing was written into it, and nothing
  but a line moves what is written next.  So whatever follows the header of a
  block, the next line stands inside it.

  A remark is a line like any other, though it is none to the language.  So
  the line inside the block is one that the language counts unless a tag
  consists of a remark.

    • `emit_first` — an instruction leaves an empty block as it is, or its
      first line stands in it,
    • `block_filled` — a block and what stands in it.
-/
import TagTemplate.Proofs.Code.Moves

namespace TagTemplate

open Text

/-! ## §1. Remarks. -/

/-- Whether a line is one that the language skips: blank, or a remark. -/
def isSkipped (text : String) : Bool := (stripStart text.toList).head?.all (· == '#')

/-- Whether an instruction is a tag that begins with a remark. -/
def Instruction.isRemark : Instruction → Bool
  | .executeStatement code => ((Block.statementLines code.toList).headD []).head? == some '#'
  | _ => false

theorem isSkipped_cons {text : String} {c : Char} {rest : List Char} (h : text.toList = c :: rest)
    (hblank : isBlank c = false) (hremark : c ≠ '#') : isSkipped text = false := by
  unfold isSkipped stripStart
  rw [h, List.dropWhile_cons_of_neg (by simp [hblank])]
  simp [hremark]

/-- The first line of an execute body is trimmed. -/
theorem Block.statementLines_head (code : List Char) :
    ∃ s, (Block.statementLines code).headD [] = strip s := by
  unfold Block.statementLines
  dsimp only
  refine ⟨(cutAt '\n' (strip code)).1, ?_⟩
  split
  · rfl
  split <;> rfl

namespace Emitter

section Texts

variable (contextName : String) (around : List String)

/-- The first line of an instruction starts with a character that is no blank, and with the mark of a
remark only if the instruction begins with one. -/
theorem texts_head {i : Instruction} :
    ∀ text ∈ (i.texts contextName around).head?, ∃ c rest, text.toList = c :: rest
      ∧ isBlank c = false ∧ (c = '#' → i.isRemark = true) := by
  intro text htext
  cases i with
  | appendLiteral value =>
      unfold Instruction.texts at htext
      dsimp only at htext
      split at htext
      · cases htext
      · obtain rfl := Option.some.inj htext
        rw [String.append_assoc]
        exact ⟨_, _, String.toList_append .., by decide, nofun⟩
  | appendExpression expr filtered escaped =>
      obtain rfl := Option.some.inj htext
      unfold expressionLine
      dsimp only
      rw [String.append_assoc]
      exact ⟨_, _, String.toList_append .., by decide, nofun⟩
  | executeStatement code =>
      obtain ⟨s, hs⟩ := Block.statementLines_head code.toList
      unfold Instruction.texts at htext
      dsimp only at htext
      split at htext
      · cases htext
      next hne =>
        split at htext
        · split at htext
          · obtain rfl := Option.some.inj htext
            exact ⟨_, _, rfl, by decide, nofun⟩
          · cases htext
        · -- the line is the head of the body, which is trimmed
          have hhead : text = String.ofList ((Block.statementLines code.toList).headD []) := by
            cases hlines : Block.statementLines code.toList with
            | nil =>
                rw [hlines] at htext
                cases htext
            | cons l lines =>
                rw [hlines] at htext
                exact (Option.some.inj htext).symm
          have hfirst := (strip_isTrimmed s).head
          unfold Instruction.isRemark
          dsimp only
          rw [hs] at hne hhead ⊢
          cases hcut : strip s with
          | nil =>
              rw [hcut] at hne
              exact absurd rfl hne
          | cons c rest =>
              rw [hcut] at hhead hfirst
              refine ⟨c, rest, by rw [hhead, String.toList_ofList], hfirst c rfl, fun hmark => ?_⟩
              rw [hmark]
              rfl
  | setLine lineno =>
      unfold Instruction.texts at htext
      dsimp only at htext
      split at htext
      · cases htext
      · obtain rfl := Option.some.inj htext
        exact ⟨_, _, String.toList_append .., by decide, nofun⟩
  | checkLayout isAsync =>
      obtain rfl := Option.some.inj htext
      exact ⟨_, _, rfl, by decide, nofun⟩

/-- What opens a block has lines, and the block opens behind the last of them, which is not blank. -/
theorem texts_of_opens {i : Instruction} {keyword : String} {indent : Nat}
    (h : i.opens = some (keyword, indent)) :
    ∃ header, (i.texts contextName around).getLast? = some header
      ∧ indentOf header.toList = indent ∧ stripStart header.toList ≠ [] := by
  cases i with
  | executeStatement code =>
      unfold Instruction.opens at h
      unfold Instruction.texts
      dsimp only at h ⊢
      split at h
      · cases h
      next hne =>
        split at h
        · cases h
        next hend =>
          rw [if_neg hne, if_neg hend]
          unfold Instruction.blockBehind at h
          dsimp only at h
          split at h
          next hcolon =>
            have hindent := (Prod.mk.inj (Option.some.inj h)).2
            refine ⟨String.ofList ((Block.statementLines code.toList).getLastD []), ?_, ?_, ?_⟩
            · cases hlines : Block.statementLines code.toList with
              | nil =>
                  rw [hlines] at hne
                  exact absurd rfl hne
              | cons l lines =>
                  rw [List.getLast?_map, List.getLast?_cons, List.getLastD_cons,
                    List.getLastD_eq_getLast?]
                  rfl
            · rw [String.toList_ofList]
              exact hindent
            · rw [String.toList_ofList]
              intro hblank
              unfold strip at hcolon
              rw [hblank] at hcolon
              exact absurd hcolon (by decide)
          next => cases h
  | _ => cases h

end Texts

/-! ## §2. The first line in a block. -/

section First

variable (contextName : String)

section Empty

variable {e : Emitter} {b : OpenBlock} {rest : List OpenBlock} (hblocks : e.blocks = b :: rest)
  (hempty : b.count = 0)

include hblocks hempty

/-- An empty block is filled before it is left. -/
theorem leave_empty (n : Nat) :
    ∃ fillers, (leave (n + 1) e).builder.lines
      = e.builder.lines ++ Builder.indented e.builder.level "pass" :: fillers := by
  have hpop : e.pop.builder.lines
      = e.builder.lines ++ [Builder.indented e.builder.level "pass"] := by
    unfold pop close
    rw [hblocks]
    dsimp only
    rw [hempty]
    exact List.reverse_cons
  obtain ⟨fillers, hleave, _⟩ := leave_lines n e.pop
  refine ⟨fillers, ?_⟩
  show (leave n e.pop).builder.lines = _
  rw [hleave, hpop, List.append_assoc]
  rfl

/-- **An instruction leaves an empty block as it is, or its first line stands in it**: a `pass`, if it
closes the block. -/
theorem emit_first (i : Instruction) :
    Alike (emit contextName e i) e
      ∨ ∃ text later, (emit contextName e i).builder.lines
          = e.builder.lines ++ Builder.indented e.builder.level text :: later
        ∧ (text = "pass" ∨ text ∈ (i.texts contextName e.keywords).head?) := by
  have halike := emit_alike contextName e i
  have hlines := emit_left_lines contextName e i
  cases hcloses : i.closes e.keywords with
  | succ n =>
      obtain ⟨fillers, hleave⟩ := leave_empty hblocks hempty n
      refine .inr ⟨"pass", fillers ++ (i.texts contextName e.keywords).map
        (Builder.indented (levelAt e i)), ?_, .inl rfl⟩
      rw [hlines, hcloses, hleave, List.append_assoc]
      rfl
  | zero =>
      cases htexts : i.texts contextName e.keywords with
      | nil =>
          -- what has no lines opens no block
          have hopens : i.opens = none := by
            cases hblock : i.opens with
            | none => rfl
            | some block =>
                obtain ⟨header, hlast, _, _⟩ := texts_of_opens contextName e.keywords hblock
                rw [htexts] at hlast
                cases hlast
          have hnothing : carryOut contextName e i = e := by
            unfold carryOut
            rw [hcloses, htexts, hopens]
            exact put_nil e
          rw [hnothing] at halike
          exact .inl halike
      | cons text texts =>
          have hlevel : levelAt e i = e.builder.level := by
            unfold levelAt
            rw [hcloses]
            rfl
          refine .inr ⟨text, texts.map (Builder.indented e.builder.level), ?_, .inr rfl⟩
          rw [hlines, hcloses, htexts, hlevel]
          rfl

end Empty

/-- Whatever program follows, the next line stands in the block, and starts at the block's level. -/
theorem emitAll_first (program : List Instruction) {e : Emitter} {b : OpenBlock}
    {rest : List OpenBlock} (hblocks : e.blocks = b :: rest) (hempty : b.count = 0) :
    ∃ text later, (emitAll contextName e program).closeAll.builder.lines
        = e.builder.lines ++ Builder.indented e.builder.level text :: later
      ∧ ∃ c cs, text.toList = c :: cs ∧ isBlank c = false
        ∧ (c = '#' → ∃ i ∈ program, i.isRemark = true) := by
  induction program generalizing e with
  | nil =>
      -- closing all blocks closes this one first
      have hkeywords : e.keywords.length = rest.length + 1 := by
        unfold keywords
        rw [hblocks, List.length_map, List.length_cons]
      obtain ⟨fillers, hleave⟩ := leave_empty hblocks hempty rest.length
      refine ⟨"pass", fillers, ?_, _, _, rfl, by decide, nofun⟩
      show e.closeAll.builder.lines = _
      rw [(closeAll_alike e).1.builder, hkeywords, hleave]
  | cons i program ih =>
      obtain halike | ⟨text, later, hlines, htext⟩ := emit_first contextName hblocks hempty i
      · obtain ⟨text, later, hlines, c, cs, hchars, hblank, hmark⟩ := ih (halike.blocks.trans hblocks)
        refine ⟨text, later, ?_, c, cs, hchars, hblank, fun h => ?_⟩
        · rw [halike.builder] at hlines
          exact hlines
        · obtain ⟨i', hi', hremark⟩ := hmark h
          exact ⟨i', List.mem_cons_of_mem _ hi', hremark⟩
      · let after := emitAll contextName (emit contextName e i) program
        obtain ⟨fillers, hleave, _⟩ := leave_lines after.keywords.length after
        refine ⟨text, later ++ ((stages contextName (emit contextName e i) program).flatMap
          (added contextName) ++ fillers), ?_, ?_⟩
        · show after.closeAll.builder.lines = _
          rw [(closeAll_alike after).1.builder, hleave, emitAll_lines, hlines, List.append_assoc,
            List.append_assoc]
          rfl
        · rcases htext with rfl | htext
          · exact ⟨_, _, rfl, by decide, nofun⟩
          · obtain ⟨c, cs, hchars, hblank, hmark⟩ := texts_head contextName e.keywords text htext
            exact ⟨c, cs, hchars, hblank, fun h => ⟨i, List.mem_cons_self, hmark h⟩⟩

end First

/-- Behind an instruction that opens a block the last line is the header, and the innermost block is a
new one without lines, right of it. -/
theorem emit_header (contextName : String) (e : Emitter) {i : Instruction} {keyword : String}
    {indent : Nat} (h : i.opens = some (keyword, indent)) :
    ∃ header outer,
      (emit contextName e i).builder.lines.getLast? = some (Builder.indented (levelAt e i) header)
        ∧ indentOf header.toList = indent ∧ stripStart header.toList ≠ []
        ∧ (emit contextName e i).blocks = ⟨keyword, levelAt e i, 0⟩ :: outer
        ∧ (emit contextName e i).builder.level = levelAt e i + indent + Builder.step := by
  obtain ⟨header, hlast, hindent, hsolid⟩ := texts_of_opens contextName e.keywords h
  have halike := emit_alike contextName e i
  refine ⟨header, ((leave (i.closes e.keywords) e).put (i.texts contextName e.keywords)).blocks, ?_,
    hindent, hsolid, ?_, ?_⟩
  · rw [emit_left_lines, List.getLast?_append, List.getLast?_map, hlast]
    rfl
  · rw [halike.blocks]
    unfold carryOut
    rw [h]
    rfl
  · rw [halike.builder]
    unfold carryOut
    rw [h]
    rfl

/-! ## §3. THE THEOREM. -/

/-- **NO BLOCK IS LEFT EMPTY**: behind an instruction that opens a block, in whatever state, the last
line is the block's header, the emitter writes right of it, and whatever program follows, the next line
stands at that level; it is one that the language counts, unless a tag of the program begins with a
remark. -/
theorem block_filled (contextName : String) (e : Emitter) {i : Instruction} (hopens : i.opens ≠ none)
    (program : List Instruction) :
    let within := emit contextName e i
    ∃ header text later,
      within.builder.lines.getLast? = some (Builder.indented (levelAt e i) header)
        ∧ within.builder.level = levelAt e i + indentOf header.toList + Builder.step
        ∧ (emitAll contextName within program).closeAll.builder.lines
          = within.builder.lines ++ Builder.indented within.builder.level text :: later
        ∧ ((∀ i ∈ program, i.isRemark = false) → isSkipped text = false) := by
  intro within
  obtain ⟨⟨keyword, indent⟩, hblock⟩ := Option.ne_none_iff_exists'.mp hopens
  obtain ⟨header, outer, hlast, hindent, -, hblocks, hlevel⟩ := emit_header contextName e hblock
  obtain ⟨text, later, hlines, c, cs, hchars, hblank, hmark⟩ :=
    emitAll_first contextName program hblocks rfl
  refine ⟨header, text, later, hlast, by rw [hindent]; exact hlevel, hlines, fun hnone => ?_⟩
  refine isSkipped_cons hchars hblank fun h => ?_
  obtain ⟨i', hi', hremark⟩ := hmark h
  rw [hnone i' hi'] at hremark
  cases hremark

/-- A block that a tag with a remark is all there is in: the remark counts as its line. -/
example :
    (emitAll "it" {} [.executeStatement "if a:", .executeStatement "# nothing",
      .executeStatement "end"]).builder.lines = ["if a:", "    # nothing"] := by
  decide

end Emitter

end TagTemplate
