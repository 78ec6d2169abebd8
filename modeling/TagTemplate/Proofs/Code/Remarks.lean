/-
  TagTemplate.Proofs.Code.Remarks
  ────────────────────────────────
  **REMARKS IN EXECUTE BODIES.**

  The emitter reads three things in a body: its first word, whether it is an
  `end`, and whether its last line ends in a colon.  A remark behind the last
  line is seen by none of them if the line is more than an `end`, so the blocks
  are what they are without it.  Two bodies are changed by a remark:

      end            — is compared as a text, so with a remark behind it, it is
                       a statement like others, and closes nothing
      a header       — opens a block if it is the last line, so with a remark
                       on a line below it, it opens none

    • `statementLines_behind`, `statementLines_below` — the lines of a body
      with a remark,
    • `remark_behind`, `remark_behind_end`, `remark_below` — its blocks.
-/
import TagTemplate.Proofs.Block.Remark
import TagTemplate.Proofs.Code.Frames

namespace TagTemplate

open Text

namespace Block

/-! ## §1. The lines below the first. -/

theorem Remark.mark_isSolid (r : Remark) : IsSolid ('#' :: r.text) := by
  refine ⟨List.cons_ne_nil _ _, fun c hc => ?_⟩
  cases htext : r.text with
  | nil =>
      rw [htext] at hc
      obtain rfl := Option.some.inj hc
      decide
  | cons d t =>
      rw [htext, List.getLast?_cons_cons, ← htext] at hc
      exact r.text_last c hc

theorem Remark.isSolid (r : Remark) : IsSolid r.chars := r.mark_isSolid.behind r.gap

/-- A remark without part of its margin is that remark. -/
theorem Remark.strip_drop (r : Remark) {n : Nat} (h : n ≤ (margin r.chars).length) :
    strip (r.chars.drop n) = '#' :: r.text := by
  rw [(r.isSolid.drop_margin h).strip_eq, stripStart_drop_margin h, stripStart, chars,
    List.dropWhile_append_of_pos r.gap_margin.isBlank, List.dropWhile_cons_of_neg (by decide)]

/-- Solid lines behind others are kept as they are. -/
theorem tailLines_append {rest : List Char} {init lines : List (List Char)}
    (h : splitLines rest = init ++ lines) (hsolid : ∀ l ∈ lines, IsSolid l) :
    tailLines rest = (init.filter (!allBlank ·)).map stripEnd ++ lines := by
  have hkept : lines.filter (!allBlank ·) = lines :=
    List.filter_eq_self.mpr fun l hl => by rw [(hsolid l hl).not_allBlank]; rfl
  have hsame : lines.map stripEnd = lines.map id :=
    List.map_congr_left fun l hl => stripEnd_eq_self (hsolid l hl).last
  unfold tailLines
  rw [h, List.filter_append, hkept, List.map_append, hsame, List.map_id]

/-- The lines of a solid text, with a remark behind the last or below it. -/
theorem tailLines_remark {rest : List Char} (h : IsSolid rest) :
    ∃ init l, tailLines rest = init ++ [l] ∧ IsSolid l
      ∧ ∀ r : Remark, tailLines (rest ++ r.chars) = init ++ [l ++ r.chars]
        ∧ tailLines (rest ++ '\n' :: r.chars) = init ++ [l, r.chars] := by
  obtain ⟨lines, l, hlines, hl, hremark⟩ := splitLines_append_inLine h
  refine ⟨_, l, tailLines_append hlines (by simpa using hl), hl, fun r => ?_⟩
  obtain ⟨hbehind, hbelow⟩ := hremark r.chars r.isSolid.ne_nil r.chars_inLine
  exact ⟨tailLines_append hbehind (by simpa using r.isSolid.behind l),
    tailLines_append hbelow (by simpa using ⟨hl, r.isSolid⟩)⟩

/-! ## §2. The lines of a body. -/

/-- The lines of a body of several lines. -/
theorem statementLines_several {code first rest : List Char} (h : strip code = first ++ '\n' :: rest)
    (hfirst : '\n' ∉ first) (htail : tailLines rest ≠ []) :
    statementLines code
      = strip first :: (if opensBlock (strip first) || (tailLines rest).any atMargin then tailLines rest
          else dedent (tailLines rest)) := by
  have hsome : ¬ (tailLines rest).isEmpty = true := by
    rw [List.isEmpty_iff]
    exact htail
  unfold statementLines
  rw [h, cutAt_behind hfirst]
  dsimp only
  rw [if_neg hsome]
  split <;> rfl

/-- What is below the first line of a solid text is solid. -/
theorem isSolid_rest {first rest : List Char} (h : IsSolid (first ++ '\n' :: rest)) : IsSolid rest := by
  have hlast : ∀ c ∈ ('\n' :: rest).getLast?, isBlank c = false := last_of_append h.last
  cases rest with
  | nil => exact absurd (hlast '\n' rfl) (by decide)
  | cons d rest => exact ⟨List.cons_ne_nil d rest, by rwa [List.getLast?_cons_cons] at hlast⟩

theorem any_atMargin_append {l : List Char} (h : IsSolid l) (init : List (List Char)) (z : List Char) :
    (init ++ [l ++ z]).any atMargin = (init ++ [l]).any atMargin := by
  have hlast : atMargin (l ++ z) = atMargin l := by
    cases l with
    | nil => exact absurd rfl h.ne_nil
    | cons c l => rfl
  rw [List.any_append, List.any_append, List.any_cons, List.any_cons, hlast]

/-- **The lines of a body with a remark behind it**: the last line goes on with the remark. -/
theorem statementLines_behind {code : List Char} (hne : strip code ≠ []) :
    ∃ init l, statementLines code = init ++ [l] ∧ IsSolid l ∧ (init = [] → l = strip code)
      ∧ ∀ (r : Remark) {remarked : List Char}, strip remarked = strip code ++ r.chars →
          statementLines remarked = init ++ [l ++ r.chars] := by
  have hcode : IsSolid (strip code) := (strip_isTrimmed code).isSolid hne
  by_cases hseveral : '\n' ∈ strip code
  · obtain ⟨first, rest, hcut, hfirst⟩ := List.eq_append_cons_of_mem hseveral
    obtain ⟨init, l, htail, hl, hremark⟩ := tailLines_remark (isSolid_rest (hcut ▸ hcode))
    have hlines := statementLines_several hcut hfirst (by rw [htail]; simp)
    have hbehind : ∀ (r : Remark) {remarked : List Char}, strip remarked = strip code ++ r.chars →
        statementLines remarked = strip first ::
          (if opensBlock (strip first) || (init ++ [l]).any atMargin then init ++ [l ++ r.chars]
            else dedent (init ++ [l ++ r.chars])) := by
      intro r remarked h
      have hcut' : strip remarked = first ++ '\n' :: (rest ++ r.chars) := by
        rw [h, hcut, List.append_assoc]
        rfl
      rw [statementLines_several hcut' hfirst (by rw [(hremark r).1]; simp), (hremark r).1,
        any_atMargin_append hl]
    rw [htail] at hlines
    -- whether the lines are freed of their margin is the same with the remark
    split at hlines
    next hkept =>
      refine ⟨strip first :: init, l, hlines, hl, nofun, fun r _ h => ?_⟩
      rw [hbehind r h, if_pos hkept]
      rfl
    next hfreed =>
      obtain ⟨init', n, hn, hdedent, hadded⟩ := dedent_append_last hl init
      refine ⟨strip first :: init', l.drop n, ?_, hl.drop_margin hn, nofun, fun r _ h => ?_⟩
      · rw [hlines, hdedent]
        rfl
      · rw [hbehind r h, if_neg hfreed, hadded]
        rfl
  · refine ⟨[], strip code, statementLines_single hseveral, hcode, fun _ => rfl, fun r remarked h => ?_⟩
    have hsingle : '\n' ∉ strip remarked := by
      rw [h, List.mem_append, not_or]
      exact ⟨hseveral, r.newline_not_mem⟩
    rw [statementLines_single hsingle, h]
    rfl

/-- **The lines of a body with a remark below it**: the first is the same, and the last is the remark. -/
theorem statementLines_below {code remarked : List Char} (hne : strip code ≠ []) (r : Remark)
    (h : strip remarked = strip code ++ '\n' :: r.chars) :
    ∃ first between l, statementLines remarked = first :: between ++ [l]
      ∧ (statementLines code).headD [] = first ∧ strip l = '#' :: r.text := by
  -- the remark is the last line below the first, and loses part of its margin at most
  have hbelow : ∀ {first rest : List Char} (init : List (List Char)),
      strip remarked = first ++ '\n' :: rest → '\n' ∉ first → tailLines rest = init ++ [r.chars] →
        ∃ between l, statementLines remarked = strip first :: between ++ [l]
          ∧ strip l = '#' :: r.text := by
    intro first rest init hcut hfirst htail
    rw [statementLines_several hcut hfirst (by rw [htail]; simp), htail]
    split
    · exact ⟨init, r.chars, rfl, r.strip_drop (Nat.zero_le _)⟩
    · obtain ⟨init', n, hn, hdedent, _⟩ := dedent_append_last r.isSolid init
      exact ⟨init', r.chars.drop n, by rw [hdedent]; rfl, r.strip_drop hn⟩
  by_cases hseveral : '\n' ∈ strip code
  · have hcode : IsSolid (strip code) := (strip_isTrimmed code).isSolid hne
    obtain ⟨first, rest, hcut, hfirst⟩ := List.eq_append_cons_of_mem hseveral
    obtain ⟨init, l, htail, _, hremark⟩ := tailLines_remark (isSolid_rest (hcut ▸ hcode))
    have hcut' : strip remarked = first ++ '\n' :: (rest ++ '\n' :: r.chars) := by
      rw [h, hcut, List.append_assoc]
      rfl
    obtain ⟨between, l', hlines, hlast⟩ := hbelow (init ++ [l]) hcut' hfirst (by
      rw [(hremark r).2, List.append_assoc]
      rfl)
    refine ⟨strip first, between, l', hlines, ?_, hlast⟩
    rw [statementLines_several hcut hfirst (by rw [htail]; simp)]
    rfl
  · have hline : splitLines r.chars = [] ++ [r.chars] :=
      splitLines_inLine r.isSolid.ne_nil r.chars_inLine
    have htail := tailLines_append hline (by simpa using r.isSolid)
    obtain ⟨between, l', hlines, hlast⟩ := hbelow _ h hseveral htail
    refine ⟨strip (strip code), between, l', hlines, ?_, hlast⟩
    rw [statementLines_single hseveral, strip_strip]
    rfl

end Block

namespace Emitter

open Block

/-! ## §3. The blocks of a body. -/

section Blocks

variable (contextName : String) (e : Emitter) (r : Remark)

/-- Instructions that close as many blocks, open the same block and have as many lines leave the same
blocks, at the same level. -/
theorem emit_congr {i j : Instruction} (hcloses : i.closes e.keywords = j.closes e.keywords)
    (hopens : i.opens = j.opens)
    (htexts : (i.texts contextName e.keywords).length = (j.texts contextName e.keywords).length) :
    (emit contextName e i).blocks = (emit contextName e j).blocks
      ∧ (emit contextName e i).builder.level = (emit contextName e j).builder.level := by
  have hi := emit_alike contextName e i
  have hj := emit_alike contextName e j
  rw [hi.blocks, hj.blocks, hi.builder, hj.builder]
  unfold carryOut put append
  rw [hcloses, hopens, htexts]
  cases j.opens <;> exact ⟨rfl, rfl⟩

/-- A remark does not go on with a word. -/
theorem firstWord_remark {s : List Char} (hne : s ≠ []) : firstWord (s ++ r.chars) = firstWord s := by
  cases s with
  | nil => exact absurd rfl hne
  | cons c rest =>
      obtain ⟨d, z, hchars, hd⟩ := r.chars_head
      have hnone : r.chars.takeWhile isWordChar = [] := by
        rw [hchars, List.takeWhile_cons_of_neg (by simp [hd.ne])]
      have hword : (rest ++ r.chars).takeWhile isWordChar = rest.takeWhile isWordChar := by
        rw [List.takeWhile_append, hnone, List.append_nil]
        split
        next hlength => exact ((List.takeWhile_prefix _).eq_of_length hlength).symm
        next => rfl
      unfold firstWord
      rw [List.cons_append]
      dsimp only
      rw [hword]

/-- A line with a remark behind it is no `end`. -/
theorem remark_ne_end (s : List Char) : (String.ofList (s ++ r.chars) == "end") = false := by
  rw [beq_eq_false_iff_ne]
  intro h
  have hend : s ++ r.chars = "end".toList := by rw [← h, String.toList_ofList]
  have hmem : '#' ∈ "end".toList := by
    rw [← hend, Remark.chars]
    simp
  revert hmem
  decide

/-- The block that a line opens is the same with a remark behind the line. -/
theorem blockBehind_remark (init : List (List Char)) {l : List Char} (hl : IsSolid l)
    (hwhole : IsWhole (strip l)) :
    Instruction.blockBehind (init ++ [l ++ r.chars]) = Instruction.blockBehind (init ++ [l]) := by
  have hstart : stripStart (l ++ r.chars) = stripStart l ++ r.chars := hl.stripStart_append _
  have hstrip : strip (l ++ r.chars) = strip l ++ r.chars := by
    rw [(r.isSolid.behind l).strip_eq, hstart, hl.strip_eq]
  have hindent : indentOf (l ++ r.chars) = indentOf l :=
    congrArg List.length (hl.takeWhile_append (fun _ hc => hc) _)
  unfold Instruction.blockBehind
  simp only [List.getLastD_concat]
  rw [hstrip, opensBlock_remark r hwhole, hindent]
  cases init with
  | nil =>
      show (if _ then some (firstWord (l ++ r.chars), _) else none)
        = if _ then some (firstWord l, _) else none
      rw [firstWord_remark r hl.ne_nil]
  | cons first init =>
      have hlong : ∀ z : List Char, (first :: init ++ [z]).length > 1 := by
        intro z
        rw [List.length_append, List.length_cons, List.length_singleton]
        omega
      rw [if_pos (hlong _), if_pos (hlong _), hstart, firstWord_remark r hl.stripStart.ne_nil]

variable {code remarked : String} (hne : strip code.toList ≠ [])

include hne

/-- **A REMARK BEHIND THE LAST LINE OF A BODY CHANGES NO BLOCK**, in whatever state: if the line is read to
its end and the body is no bare `end`, the open blocks are the same with the remark and without, with the
same number of lines in each, and so is the level. -/
theorem remark_behind (hend : strip code.toList ≠ "end".toList)
    (hwhole : IsWhole (strip ((statementLines code.toList).getLastD [])))
    (h : strip remarked.toList = strip code.toList ++ r.chars) :
    let plain := emit contextName e (.executeStatement code)
    let after := emit contextName e (.executeStatement remarked)
    after.blocks = plain.blocks ∧ after.builder.level = plain.builder.level := by
  obtain ⟨init, l, hlines, hl, hsingle, hbehind⟩ := statementLines_behind hne
  have hremarked := hbehind r h
  rw [hlines, List.getLastD_concat] at hwhole
  have hblock := blockBehind_remark r init hl hwhole
  -- the two first lines are read alike
  have hhead : let head := (init ++ [l]).headD []
      let head' := (init ++ [l ++ r.chars]).headD []
      head'.isEmpty = head.isEmpty
        ∧ (String.ofList head' == "end") = (String.ofList head == "end")
        ∧ firstWord head' = firstWord head := by
    cases init with
    | nil =>
        have hbare : (String.ofList l == "end") = false := by
          rw [beq_eq_false_iff_ne]
          intro hl
          refine hend ?_
          rw [← hsingle rfl, ← hl, String.toList_ofList]
        show (l ++ r.chars).isEmpty = l.isEmpty
          ∧ (String.ofList (l ++ r.chars) == "end") = (String.ofList l == "end")
          ∧ firstWord (l ++ r.chars) = firstWord l
        refine ⟨?_, ?_, firstWord_remark r hl.ne_nil⟩
        · rw [List.isEmpty_eq_false_iff.mpr hl.ne_nil, List.isEmpty_eq_false_iff.mpr (by simp [hl.ne_nil])]
        · rw [remark_ne_end, hbare]
    | cons first init => exact ⟨rfl, rfl, rfl⟩
  obtain ⟨hempty, hend, hword⟩ := hhead
  refine emit_congr contextName e ?_ ?_ ?_
  · unfold Instruction.closes
    dsimp only
    rw [hlines, hremarked, hempty, hend, hword]
  · unfold Instruction.opens
    dsimp only
    rw [hlines, hremarked, hempty, hend, hblock]
  · unfold Instruction.texts
    dsimp only
    rw [hlines, hremarked, hempty, hend]
    split
    · rfl
    split
    · rfl
    · simp

omit hne in
/-- **A REMARK BEHIND A BARE `end` KEEPS IT FROM CLOSING**, in whatever state: with the remark the body is
one line of the innermost block, and all blocks stay open; without, it closes one, or a choice with its
last case. -/
theorem remark_behind_end (hend : strip code.toList = "end".toList)
    (h : strip remarked.toList = strip code.toList ++ r.chars) :
    let plain := emit contextName e (.executeStatement code)
    let after := emit contextName e (.executeStatement remarked)
    plain.frames = e.frames.drop (Instruction.endCloses e.keywords)
      ∧ after.frames = e.frames
      ∧ after.builder.level = e.builder.level
      ∧ after.builder.lines
        = e.builder.lines ++ [Builder.indented e.builder.level (trimmed remarked)] := by
  rw [hend] at h
  have hsingle : '\n' ∉ strip remarked.toList := by
    rw [h, List.mem_append, not_or]
    exact ⟨by decide, r.newline_not_mem⟩
  have hbare : strip remarked.toList ≠ "end".toList := by
    intro hremarked
    have hnone := remark_ne_end r "end".toList
    rw [← h, hremarked] at hnone
    revert hnone
    decide
  have hcolon : opensBlock (strip remarked.toList) = false := by
    have hhead : ∀ c ∈ "end".toList.head?, isBlank c = false := hend ▸ (strip_isTrimmed code.toList).head
    have hwhole : IsWhole "end".toList := ⟨by decide, hhead, by decide, by decide⟩
    rw [h, opensBlock_remark r hwhole]
    decide
  have hword : firstWord (strip remarked.toList) = "end" := by
    rw [h, firstWord_remark r (by decide)]
    decide
  have hnew : e.continues (firstWord (strip remarked.toList)) = false := by
    rw [hword]
    exact continues_eq_false (by decide) (by decide) e
  have hlines : statementLines code.toList = ["end".toList] := by
    rw [statementLines_single (by rw [hend]; decide), hend]
  have hclosed : (emit contextName e (.executeStatement code)).frames
      = e.frames.drop (Instruction.endCloses e.keywords) := by
    rw [emit_frames, frameOf, Instruction.opens, Instruction.closes, hlines]
    rfl
  exact ⟨hclosed, (plain_statement contextName e hsingle (by rw [h]; nofun) hbare hcolon).1 hnew⟩

/-- **A REMARK BELOW THE LAST LINE KEEPS A BLOCK FROM OPENING**, in whatever state: what the body closes is
closed, and no block opens.  So the open blocks and the level are the same with the remark and without
exactly if the body opens no block. -/
theorem remark_below (h : strip remarked.toList = strip code.toList ++ '\n' :: r.chars) :
    let body := Instruction.executeStatement code
    let plain := emit contextName e body
    let after := emit contextName e (.executeStatement remarked)
    after.frames = e.frames.drop (body.closes e.keywords)
      ∧ after.builder.level = levelAt e body
      ∧ (after.frames = plain.frames ∧ after.builder.level = plain.builder.level
          ↔ body.opens = none) := by
  dsimp only
  generalize hbody : Instruction.executeStatement code = body
  generalize hlower : Instruction.executeStatement remarked = lower
  obtain ⟨first, between, l, hlines, hhead, hlast⟩ := statementLines_below hne r h
  have hopens : lower.opens = none := by
    have hmark : '\n' ∉ r.text := fun hmem => r.newline_not_mem (List.mem_append_right _
      (List.mem_cons_of_mem _ hmem))
    rw [← hlower, Instruction.opens]
    split
    · rfl
    split
    · rfl
    · unfold Instruction.blockBehind
      dsimp only
      rw [hlines, List.getLastD_concat, hlast, opensBlock_mark hmark]
      rfl
  have hcloses : ∀ around, lower.closes around = body.closes around := by
    intro around
    rw [← hbody, ← hlower, Instruction.closes, Instruction.closes, hhead, hlines, List.cons_append,
      List.headD_cons]
  have hlevels : levelAt e lower = levelAt e body := by
    unfold levelAt
    rw [hcloses]
  have hframes : (emit contextName e lower).frames = e.frames.drop (body.closes e.keywords) := by
    rw [emit_frames, hcloses, frameOf, hopens]
    rfl
  have hlevel : (emit contextName e lower).builder.level = levelAt e body := by
    rw [emit_level contextName hopens, hlevels]
  refine ⟨hframes, hlevel, fun hsame => ?_, fun hnone => ?_⟩
  · -- a block that opens is one more
    have hcount := congrArg List.length (hsame.1.symm.trans hframes)
    rw [emit_frames, List.length_append, Nat.add_eq_right, List.length_eq_zero_iff] at hcount
    unfold frameOf at hcount
    rw [List.map_eq_nil_iff, Option.toList_eq_nil_iff] at hcount
    exact hcount
  · rw [hframes, hlevel, emit_frames, frameOf, hnone, emit_level contextName hnone]
    exact ⟨rfl, rfl⟩

end Blocks

/-- A header with a remark below it. -/
example :
    (emitAll "it" {} [.executeStatement "if a:\n# b", .appendLiteral "x"]).builder.lines
      = ["if a:", "# b", "__kiln_append('x')"] := by
  decide

end Emitter

end TagTemplate
