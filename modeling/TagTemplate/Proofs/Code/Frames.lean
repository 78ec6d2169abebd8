/-
  TagTemplate.Proofs.Code.Frames
  ────────────────────────────────
  **WHICH BLOCKS ARE OPEN, AND WHERE THEIR CLAUSES STAND.**

  What never changes while a block is open is its frame: its keyword and the
  level outside of it.  An instruction closes some of the frames, innermost
  first, and opens at most one:

      frames behind = frame opened ++ frames before without those closed

  A frame holds one level for all that closes its block, and that is the level
  at which the tag of the header began, not the one at which the header itself
  stands.  The two differ if the header is the last of several lines and is
  indented.

    • `emit_frames` — the frames and the level behind an instruction,
    • `emitAll_frames` — a program that closes none of the outer frames,
    • `clause_left_of_header` — where the clause of a block stands,
    • `plain_statement` — which statements leave the frames alone.
-/
import TagTemplate.Proofs.Code.Filled

namespace TagTemplate

open Text

namespace Emitter

/-! ## §1. Frames. -/

/-- What is fixed about a block when it opens. -/
structure Frame where
  /-- The first word of its header. -/
  keyword : String
  /-- The level outside the block. -/
  base : Int
  deriving DecidableEq, Repr

/-- The frames of the open blocks, innermost first. -/
def frames (e : Emitter) : List Frame := e.blocks.map fun b => ⟨b.keyword, b.base⟩

theorem frames_keywords (e : Emitter) : e.frames.map (·.keyword) = e.keywords := by
  unfold frames keywords
  rw [List.map_map]
  rfl

theorem length_frames (e : Emitter) : e.frames.length = e.keywords.length := by
  rw [← frames_keywords, List.length_map]

theorem Alike.frames {e e' : Emitter} (h : Alike e e') : e.frames = e'.frames := by
  unfold Emitter.frames
  rw [h.blocks]

@[simp] theorem frames_append (e : Emitter) (lines : List String) (n : Nat) :
    (e.append lines n).frames = e.frames := by
  unfold frames append countLines
  cases e.blocks <;> rfl

@[simp] theorem frames_put (e : Emitter) (texts : List String) : (e.put texts).frames = e.frames :=
  frames_append e _ _

theorem frames_pop (e : Emitter) : e.pop.frames = e.frames.tail := by
  obtain ⟨builder, blocks, unmatched, unclosed⟩ := e
  cases blocks <;> rfl

theorem frames_leave (n : Nat) (e : Emitter) : (leave n e).frames = e.frames.drop n := by
  induction n generalizing e with
  | zero => rfl
  | succ n ih =>
      show (leave n e.pop).frames = _
      rw [ih, frames_pop, List.drop_tail]

/-- Leaving a block leads to the level outside of it. -/
theorem level_pop {e : Emitter} {f : Frame} {outer : List Frame} (h : e.frames = f :: outer) :
    e.pop.builder.level = f.base := by
  obtain ⟨builder, blocks, unmatched, unclosed⟩ := e
  cases blocks with
  | nil => cases h
  | cons b rest =>
      obtain rfl := (List.cons.inj h).1
      rfl

/-- Leaving several blocks leads to the level outside of the last one. -/
theorem level_leave {n : Nat} {e : Emitter} {f : Frame} {outer : List Frame}
    (h : e.frames.drop n = f :: outer) : (leave (n + 1) e).builder.level = f.base := by
  induction n generalizing e with
  | zero => exact level_pop h
  | succ n ih =>
      show (leave (n + 1) e.pop).builder.level = _
      refine ih ?_
      rw [frames_pop, List.drop_tail, h]

/-! ## §2. One instruction. -/

section Instruction

variable (contextName : String)

/-- The frame that an instruction opens. -/
def frameOf (e : Emitter) (i : Instruction) : List Frame :=
  i.opens.toList.map fun block => ⟨block.1, levelAt e i⟩

/-- **The frames behind an instruction** are the one that it opens and those that it does not close. -/
theorem emit_frames (e : Emitter) (i : Instruction) :
    (emit contextName e i).frames = frameOf e i ++ e.frames.drop (i.closes e.keywords) := by
  have hput : ((e.leave (i.closes e.keywords)).put (i.texts contextName e.keywords)).frames
      = e.frames.drop (i.closes e.keywords) := by
    rw [frames_put, frames_leave]
  rw [(emit_alike contextName e i).frames]
  unfold carryOut frameOf
  cases i.opens with
  | none => exact hput
  | some block =>
      show _ :: ((e.leave (i.closes e.keywords)).put (i.texts contextName e.keywords)).frames = _
      rw [hput]
      rfl

/-- Behind an instruction that opens no block the level is that of its own lines. -/
theorem emit_level {e : Emitter} {i : Instruction} (h : i.opens = none) :
    (emit contextName e i).builder.level = levelAt e i := by
  rw [(emit_alike contextName e i).builder]
  unfold carryOut
  rw [h]
  rfl

/-! ## §3. Programs that stay inside. -/

/-- Whether a program never closes one of the `n` outermost blocks. -/
def StaysInside (n : Nat) (e : Emitter) (program : List Instruction) : Prop :=
  ∀ s ∈ stages contextName e program, s.2.closes s.1.keywords + n ≤ s.1.keywords.length

instance (n : Nat) (e : Emitter) (program : List Instruction) :
    Decidable (StaysInside contextName n e program) :=
  inferInstanceAs (Decidable (∀ s ∈ stages contextName e program, _))

/-- An instruction that does not close the outer frames leaves them where they are. -/
theorem emit_outer {outer : List Frame} {e : Emitter} {i : Instruction} (h : outer <:+ e.frames)
    (hstays : i.closes e.keywords + outer.length ≤ e.keywords.length) :
    outer <:+ (emit contextName e i).frames := by
  rw [← length_frames] at hstays
  have hkept : outer <:+ e.frames.drop (i.closes e.keywords) := by
    refine List.suffix_of_suffix_length_le h (List.drop_suffix _ _) ?_
    rw [List.length_drop]
    omega
  rw [emit_frames]
  exact hkept.trans (List.suffix_append _ _)

/-- **Frames that a program does not close are as they were**, whatever it opens and closes inside. -/
theorem emitAll_frames {outer : List Frame} (program : List Instruction) {e : Emitter}
    (h : outer <:+ e.frames) (hstays : StaysInside contextName outer.length e program) :
    outer <:+ (emitAll contextName e program).frames := by
  induction program generalizing e with
  | nil => exact h
  | cons i program ih =>
      have hfirst := hstays (e, i) List.mem_cons_self
      rw [emitAll_cons]
      exact ih (emit_outer contextName h hfirst) fun s hs => hstays s (List.mem_cons_of_mem _ hs)

/-! ## §4. Where a clause stands. -/

/-- What closes a block and none around it stands at the level outside of that block. -/
theorem levelAt_closing {e : Emitter} {i : Instruction} {f : Frame} {outer : List Frame}
    (h : f :: outer <:+ e.frames) (hcloses : i.closes e.keywords + outer.length = e.keywords.length) :
    levelAt e i = f.base := by
  obtain ⟨inner, hinner⟩ := h
  have hlength : i.closes e.keywords = inner.length + 1 := by
    rw [← length_frames, ← hinner, List.length_append, List.length_cons] at hcloses
    omega
  unfold levelAt
  rw [hlength]
  have hinside : e.frames.drop inner.length = f :: outer := by rw [← hinner, List.drop_left]
  exact level_leave hinside

/-- A line has the blanks of its level and those that its text starts with. -/
theorem indentOf_indented (level : Int) (text : String) :
    indentOf (Builder.indented level text).toList = level.toNat + indentOf text.toList := by
  unfold indentOf Builder.indented
  have hspaces : ∀ c ∈ List.replicate level.toNat ' ', isBlank c = true := by
    intro c hc
    rw [List.eq_of_mem_replicate hc]
    decide
  rw [String.toList_append, String.toList_ofList, List.takeWhile_append_of_pos hspaces,
    List.length_append, List.length_replicate]

/-- **A CLAUSE STANDS WHERE THE TAG OF ITS HEADER BEGAN**: behind an instruction that opens a block, in
whatever state, the last line is the block's header.  When, behind whatever program that does not close
the block, an instruction closes it and no block around it, the first of its lines stands as many columns
left of the header as the header is indented in its own tag; so it stands at the header's level exactly
if the header is not, as in a tag of one line. -/
theorem clause_left_of_header (e : Emitter) {i : Instruction} {keyword : String} {indent : Nat}
    (hopens : i.opens = some (keyword, indent)) (program : List Instruction) (next : Instruction) :
    let within := emit contextName e i
    let before := emitAll contextName within program
    StaysInside contextName within.keywords.length within program →
    next.closes before.keywords + within.keywords.length = before.keywords.length + 1 →
    levelAt before next = levelAt e i
      ∧ ∃ header fillers,
        within.builder.lines.getLast? = some header
          ∧ (∀ l ∈ fillers, IsFiller l)
          ∧ (emit contextName before next).builder.lines = before.builder.lines ++ (fillers
              ++ (next.texts contextName before.keywords).map (Builder.indented (levelAt e i)))
          ∧ ∀ clause ∈ (next.texts contextName before.keywords).head?,
              indentOf header.toList
                = indentOf (Builder.indented (levelAt e i) clause).toList + indent := by
  intro within before hstays hcloses
  have hframes : within.frames = ⟨keyword, levelAt e i⟩ :: e.frames.drop (i.closes e.keywords) := by
    show (emit contextName e i).frames = _
    rw [emit_frames]
    unfold frameOf
    rw [hopens]
    rfl
  have hdepth := length_frames within
  have hkept : within.frames <:+ before.frames := by
    refine emitAll_frames contextName program (List.suffix_refl _) ?_
    rw [hdepth]
    exact hstays
  have hlevel : levelAt before next = levelAt e i := by
    rw [hframes] at hkept hdepth
    refine levelAt_closing hkept ?_
    rw [List.length_cons] at hdepth
    omega
  obtain ⟨header, -, hlast, hindent, -⟩ := emit_header contextName e hopens
  obtain ⟨hlines, fillers, hadded, hfillers⟩ := emit_lines contextName before next
  refine ⟨hlevel, Builder.indented (levelAt e i) header, fillers, hlast, hfillers, ?_, ?_⟩
  · rw [hlines, hadded, hlevel]
  · intro clause hclause
    obtain ⟨c, cs, hchars, hblank, _⟩ := texts_head contextName before.keywords clause hclause
    have hclause : indentOf clause.toList = 0 := by
      unfold indentOf
      rw [hchars, List.takeWhile_cons_of_neg (by simp [hblank])]
      rfl
    rw [indentOf_indented, indentOf_indented, hindent, hclause]
    omega

/-- A clause behind a nested header belongs to the statement that the tag begins with. -/
example :
    (emitAll "it" {} [.executeStatement "for x in xs:\n    if x:", .appendLiteral "a",
      .executeStatement "else:", .appendLiteral "b"]).builder.lines
      = ["for x in xs:", "    if x:", "        __kiln_append('a')", "else:",
        "    __kiln_append('b')"] := by
  decide

/-! ## §5. Plain statements. -/

/-- **A PLAIN STATEMENT IS ONE LINE, UNLESS ITS FIRST WORD CONTINUES THE BLOCK AROUND IT**: a body of one
line that is no `end` and opens no block leaves the frames and the level alone and adds that line alone,
in every state in which its first word does not continue the innermost block; in the others it closes
that block, and its line is written outside of it.  A first word does so inside of any block if it is a
continuation, and inside of a `case` if it is `case`, whatever the statement does with that name. -/
theorem plain_statement (e : Emitter) {code : String} (hsingle : '\n' ∉ strip code.toList)
    (hne : strip code.toList ≠ []) (hend : strip code.toList ≠ "end".toList)
    (hplain : Block.opensBlock (strip code.toList) = false) :
    let after := emit contextName e (.executeStatement code)
    let word := firstWord (strip code.toList)
    (e.continues word = false →
        after.frames = e.frames ∧ after.builder.level = e.builder.level
          ∧ after.builder.lines
            = e.builder.lines ++ [Builder.indented e.builder.level (trimmed code)])
      ∧ (e.continues word = true → ∃ f outer fillers,
          e.frames = f :: outer ∧ after.frames = outer ∧ after.builder.level = f.base
            ∧ (∀ l ∈ fillers, IsFiller l)
            ∧ after.builder.lines
              = e.builder.lines ++ (fillers ++ [Builder.indented f.base (trimmed code)]))
      ∧ (e.continues word = true ↔ ∃ f ∈ e.frames.head?,
          word ∈ continuations ∨ word = "case" ∧ f.keyword = "case") := by
  intro after word
  have hafter : after = if e.continues word then e.pop.line (trimmed code)
      else e.line (trimmed code) := by
    show e.statement code = _
    rw [statement_single hsingle hne hend]
    dsimp only
    rw [hplain]
    show (if e.continues word then e.pop else e).line (trimmed code) = _
    split <;> rfl
  refine ⟨fun hnew => ?_, fun hcontinues => ?_, ?_⟩
  · rw [hafter, hnew, if_neg Bool.false_ne_true]
    exact ⟨frames_put e [trimmed code], rfl, put_lines e [trimmed code]⟩
  · rw [hafter, if_pos hcontinues]
    cases hframes : e.frames with
    | nil =>
        -- outside of all blocks nothing is continued
        have hnone : e.blocks = [] := List.map_eq_nil_iff.mp hframes
        unfold continues at hcontinues
        rw [hnone] at hcontinues
        cases hcontinues
    | cons f outer =>
        have hlevel := level_pop hframes
        obtain ⟨fillers, hpop, hfillers⟩ := pop_lines e
        refine ⟨f, outer, fillers, rfl, ?_, hlevel, hfillers, ?_⟩
        · show (e.pop.put [trimmed code]).frames = _
          rw [frames_put, frames_pop, hframes, List.tail_cons]
        · show (e.pop.put [trimmed code]).builder.lines = _
          rw [put_lines, hlevel, hpop, List.append_assoc]
          rfl
  · unfold continues frames
    cases e.blocks with
    | nil => simp
    | cons b rest =>
        show (continuations.contains word || (word == "case" && b.keyword == "case")) = true ↔ _
        simp

/-- A name that is assigned inside of a `case`, and is `case` itself. -/
example :
    (emitAll "it" {} [.executeStatement "match x:", .executeStatement "case 1:",
      .executeStatement "case = 5"]).builder.lines
      = ["match x:", "    case 1:", "        pass", "    case = 5"] := by
  decide

end Instruction

end Emitter

end TagTemplate
