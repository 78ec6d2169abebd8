/-
  TagTemplate.Proofs.Code.TrackedForest
  ────────────────────────────────
  **IN A NESTED TEMPLATE, MARKS STAND BETWEEN ITS PARTS.**

  A template may come with any line marks between its instructions.  If it is
  well nested, each mark is written where a part of a block could stand, as a
  line of that block: the mark of a clause stands in the block before it, the
  mark of an `end` in the block that it closes, and before the first `case`
  none is written.  So no mark stands between a block and its next clause, or
  between a choice and its cases.

    • `PrintsTracked` — lines of a forest, with marks among its parts,
    • `emitAll_tracked_forest` — a forest with marks is written like that,
    • `generate_nested` — the body of a nested template.

  A clause whose block was opened and closed by one line, as in `if x: pass`,
  is not nested like this, and a mark does stand in front of it.
-/
import TagTemplate.Proofs.Code.Forest
import TagTemplate.Proofs.Code.LineMarks

namespace TagTemplate

open Text
open Emitter (Line LineRole)

/-! ## §1. Lines with marks. -/

/-- The line of a mark. -/
def markLine (level lineno : Int) : String :=
  Builder.indented level ("__kiln.line = " ++ toString lineno)

mutual

/-- Lines of a part at a level, where marks may stand in its blocks. -/
inductive Item.PrintsTracked : Int → Item → List String → Prop where
  /-- A literal. -/
  | literal (level : Int) (value : String) :
    Item.PrintsTracked level (.literal value) (Item.print level (.literal value))
  /-- An expression. -/
  | expression (level : Int) (expr : String) (filtered escaped : Bool) :
    Item.PrintsTracked level (.expression expr filtered escaped)
      (Item.print level (.expression expr filtered escaped))
  /-- A statement. -/
  | statement (level : Int) (line : Line .simple) :
    Item.PrintsTracked level (.statement line) (Item.print level (.statement line))
  /-- A block with its clauses. -/
  | block {level : Int} {head : Line .header} {body : Forest} {more : Clauses .clause}
    {inside behind : List String}
    (hbody : Forest.PrintsTracked (level + Builder.step) body inside)
    (hmore : Clauses.PrintsTracked level more behind) :
    Item.PrintsTracked level (.block head body more)
      (Builder.indented level head.text :: (orPass (level + Builder.step) inside ++ behind))
  /-- A choice with its cases. -/
  | choice {level : Int} {head : Line .choice} {blanks : List BlankLiteral} {first : Line .case}
    {body : Forest} {more : Clauses .case} {inside behind : List String}
    (hbody : Forest.PrintsTracked (level + Builder.step + Builder.step) body inside)
    (hmore : Clauses.PrintsTracked (level + Builder.step) more behind) :
    Item.PrintsTracked level (.choice head blanks first body more)
      (Builder.indented level head.text :: Builder.indented (level + Builder.step) first.text
        :: (orPass (level + Builder.step + Builder.step) inside ++ behind))

/-- Lines of a forest at a level, where marks may stand between its parts. -/
inductive Forest.PrintsTracked : Int → Forest → List String → Prop where
  /-- No part. -/
  | nil (level : Int) : Forest.PrintsTracked level .nil []
  /-- A mark, and what stands behind it. -/
  | mark {level : Int} {forest : Forest} {lines : List String} (lineno : Int)
    (h : Forest.PrintsTracked level forest lines) :
    Forest.PrintsTracked level forest (markLine level lineno :: lines)
  /-- A part, and what stands behind it. -/
  | cons {level : Int} {item : Item} {rest : Forest} {lines more : List String}
    (hitem : Item.PrintsTracked level item lines) (hrest : Forest.PrintsTracked level rest more) :
    Forest.PrintsTracked level (.cons item rest) (lines ++ more)

/-- Lines of clauses at a level, where marks may stand in their blocks. -/
inductive Clauses.PrintsTracked : Int → {role : LineRole} → Clauses role → List String → Prop where
  /-- No clause. -/
  | nil (level : Int) (role : LineRole) :
    Clauses.PrintsTracked level (Clauses.nil : Clauses role) []
  /-- A clause, and those behind it. -/
  | cons {level : Int} {role : LineRole} {head : Line role} {body : Forest} {rest : Clauses role}
    {inside behind : List String}
    (hbody : Forest.PrintsTracked (level + Builder.step) body inside)
    (hrest : Clauses.PrintsTracked level rest behind) :
    Clauses.PrintsTracked level (.cons head body rest)
      (Builder.indented level head.text :: (orPass (level + Builder.step) inside ++ behind))

end

theorem Item.PrintsTracked.ne_nil {level : Int} {item : Item} {lines : List String}
    (h : item.PrintsTracked level lines) : lines ≠ [] := by
  cases h <;> exact List.cons_ne_nil _ _

theorem Forest.PrintsTracked.marks {level : Int} {forest : Forest} {lines : List String}
    (h : forest.PrintsTracked level lines) (linenos : List Int) :
    forest.PrintsTracked level (linenos.map (markLine level) ++ lines) := by
  induction linenos with
  | nil => exact h
  | cons lineno linenos ih => exact .mark lineno ih

/-! ## §2. Programs with marks. -/

/-- Line marks. -/
def marks (linenos : List Int) : List Instruction := linenos.map .setLine

section Marks

variable {program p p' : List Instruction} {i : Instruction}

theorem eq_marks_of_all (h : ∀ i ∈ program, i.isMark = true) :
    ∃ linenos, program = marks linenos := by
  induction program with
  | nil => exact ⟨[], rfl⟩
  | cons i program ih =>
      obtain ⟨hi, hprogram⟩ := List.forall_mem_cons.mp h
      obtain ⟨linenos, rfl⟩ := ih hprogram
      obtain ⟨lineno, rfl⟩ := i.eq_setLine hi
      exact ⟨lineno :: linenos, rfl⟩

/-- What is nothing without marks is marks. -/
theorem eq_marks_of_withoutMarks (h : withoutMarks program = []) :
    ∃ linenos, program = marks linenos := by
  apply eq_marks_of_all
  intro i hi
  simpa using List.filter_eq_nil_iff.mp h i hi

/-- Marks may stand in front of the first instruction. -/
theorem withoutMarks_eq_cons (h : withoutMarks program = i :: p) :
    ∃ linenos rest, program = marks linenos ++ i :: rest ∧ withoutMarks rest = p := by
  obtain ⟨front, rest, rfl, hfront, _, hrest⟩ := List.filter_eq_cons_iff.mp h
  have hmarks : ∀ i ∈ front, i.isMark = true := by simpa using hfront
  obtain ⟨linenos, rfl⟩ := eq_marks_of_all hmarks
  exact ⟨linenos, rest, rfl, hrest⟩

/-- Marks in front of an instruction belong to what stands before it. -/
theorem withoutMarks_eq_append_cons (h : withoutMarks program = p ++ i :: p') :
    ∃ before rest, program = before ++ i :: rest
      ∧ withoutMarks before = p ∧ withoutMarks rest = p' := by
  obtain ⟨before, after, rfl, hbefore, hafter⟩ := List.filter_eq_append_iff.mp h
  obtain ⟨linenos, rest, rfl, hrest⟩ := withoutMarks_eq_cons hafter
  refine ⟨before ++ marks linenos, rest, (List.append_assoc ..).symm, ?_, hrest⟩
  have hmarks : withoutMarks (marks linenos) = [] := by
    unfold withoutMarks marks
    rw [List.filter_eq_nil_iff]
    intro i hi
    obtain ⟨lineno, _, rfl⟩ := List.mem_map.mp hi
    exact Bool.false_ne_true
  unfold withoutMarks at hmarks ⊢
  rw [List.filter_append, hbefore, hmarks, List.append_nil]

end Marks

/-! ## §3. The emitter on a forest with marks. -/

namespace Emitter

/-- An emitter with the lines of marks. -/
def marked (e : Emitter) (linenos : List Int) : Emitter :=
  e.append (linenos.map (markLine e.builder.level)) linenos.length

theorem marked_inBareMatch (e : Emitter) (linenos : List Int) :
    (e.marked linenos).inBareMatch = e.inBareMatch := append_inBareMatch ..

section Tracked

variable (contextName : String)

theorem emitAll_marks {e : Emitter} (h : e.inBareMatch = false) (linenos : List Int) :
    emitAll contextName e (marks linenos) = e.marked linenos := by
  induction linenos generalizing e with
  | nil => exact (append_nil e).symm
  | cons lineno linenos ih =>
      have hmark : emit contextName e (.setLine lineno)
          = e.append [markLine e.builder.level lineno] 1 := by
        unfold emit
        simp only
        rw [h]
        rfl
      show emitAll contextName (emit contextName e (.setLine lineno)) (marks linenos) = _
      rw [hmark, ih (by rw [append_inBareMatch, h])]
      unfold marked
      rw [append_append, append_level, List.length_cons, Nat.add_comm 1]
      rfl

/-- What adds lines adds them between the marks in front of it and those behind. -/
theorem emitAll_between {e : Emitter} (h : e.inBareMatch = false) {before after : List Int}
    {program : List Instruction} {lines : List String} {n : Nat}
    (hlines : emitAll contextName (e.marked before) program
      = emitAll contextName ((e.marked before).append lines n) (marks after)) :
    emitAll contextName e (marks before ++ program)
      = e.append (before.map (markLine e.builder.level)
          ++ (lines ++ after.map (markLine e.builder.level)))
        (before.length + (n + after.length)) := by
  have hbare : ((e.marked before).append lines n).inBareMatch = false := by
    rw [append_inBareMatch, marked_inBareMatch, h]
  rw [emitAll_append, emitAll_marks contextName h, hlines, emitAll_marks contextName hbare]
  unfold marked
  rw [append_append, append_append]
  rfl

/-- Before the first case, marks and blanks are dropped. -/
theorem emitAll_dropped {e : Emitter} (h : e.inBareMatch = true) {program : List Instruction}
    {blanks : List BlankLiteral} (hblanks : withoutMarks program = blanks.map (.appendLiteral ·.value)) :
    emitAll contextName e program = e := by
  induction program generalizing blanks with
  | nil => rfl
  | cons i program ih =>
      cases hmark : i.isMark with
      | true =>
          obtain ⟨lineno, rfl⟩ := i.eq_setLine hmark
          have hdrop : emit contextName e (.setLine lineno) = e := by
            unfold emit
            simp only
            rw [h]
            rfl
          rw [emitAll_cons, hdrop]
          exact ih hblanks
      | false =>
          rw [withoutMarks_cons hmark] at hblanks
          obtain ⟨b, blanks', rfl, rfl, hrest⟩ := List.map_eq_cons_iff.mp hblanks.symm
          have hdrop := emitAll_blanks contextName h [b]
          rw [List.map_singleton] at hdrop
          rw [emitAll_cons]
          show emitAll contextName (emitAll contextName e [.appendLiteral b.value]) program = e
          rw [hdrop]
          exact ih hrest.symm

/-- Where a part is one instruction, marks stand in front of it and behind it. -/
theorem emitAll_tracked_single (item : Item) {i : Instruction} (hitem : item.program = [i])
    {e : Emitter} (h : e.inBareMatch = false) {program : List Instruction}
    (hprogram : withoutMarks program = item.program) :
    ∃ (before after : List Int) (n : Nat),
      emitAll contextName e program
        = e.append (before.map (markLine e.builder.level)
            ++ (item.print e.builder.level ++ after.map (markLine e.builder.level))) n
        ∧ n ≠ 0 := by
  obtain ⟨before, rest, rfl, hrest⟩ := withoutMarks_eq_cons (hprogram.trans hitem)
  obtain ⟨after, rfl⟩ := eq_marks_of_withoutMarks hrest
  have hwritten := emitAll_item contextName item (e.marked before) (by rw [marked_inBareMatch, h])
  have hheight := item.height_ne_zero
  refine ⟨before, after, before.length + (item.height + after.length),
    emitAll_between contextName h ?_, by omega⟩
  show emitAll contextName (e.marked before) ([i] ++ marks after) = _
  rw [emitAll_append, ← hitem, hwritten]
  rfl

end Tracked

end Emitter

/-- A forest is written with marks among its parts, whichever marks its program has.  Lines are
counted exactly if there are any, which is how a block is filled. -/
def Forest.WritesTracked (contextName : String) (forest : Forest) : Prop :=
  ∀ (e : Emitter) (program : List Instruction), e.inBareMatch = false →
    withoutMarks program = forest.program →
    ∃ lines n, Emitter.emitAll contextName e program = e.append lines n
      ∧ forest.PrintsTracked e.builder.level lines ∧ (n = 0 ↔ lines = [])

namespace Emitter

mutual

/-- A part is written with the marks in front of it and behind it. -/
theorem emitAll_tracked_item (contextName : String) :
    ∀ (item : Item) (e : Emitter) (program : List Instruction), e.inBareMatch = false →
      withoutMarks program = item.program →
      ∃ (before : List Int) (lines : List String) (after : List Int) (n : Nat),
        emitAll contextName e program
          = e.append (before.map (markLine e.builder.level)
              ++ (lines ++ after.map (markLine e.builder.level))) n
          ∧ item.PrintsTracked e.builder.level lines ∧ n ≠ 0
  | .literal value, e, program, h, hprogram => by
      obtain ⟨before, after, n, hwritten, hn⟩ :=
        emitAll_tracked_single contextName (.literal value) rfl h hprogram
      exact ⟨before, _, after, n, hwritten, .literal .., hn⟩
  | .expression expr filtered escaped, e, program, h, hprogram => by
      obtain ⟨before, after, n, hwritten, hn⟩ :=
        emitAll_tracked_single contextName (.expression expr filtered escaped) rfl h hprogram
      exact ⟨before, _, after, n, hwritten, .expression .., hn⟩
  | .statement line, e, program, h, hprogram => by
      obtain ⟨before, after, n, hwritten, hn⟩ :=
        emitAll_tracked_single contextName (.statement line) rfl h hprogram
      exact ⟨before, _, after, n, hwritten, .statement .., hn⟩
  | .block head body more, e, program, h, hprogram => by
      obtain ⟨hopens, hword, hcase, _⟩ := head.fits
      obtain ⟨before, rest, rfl, hrest⟩ := withoutMarks_eq_cons hprogram
      let e₁ := (e.marked before).append [Builder.indented e.builder.level head.text] 1
      obtain ⟨e', keyword, lines, n, inside, behind, after, hmore, hkeyword, _, hpop, hinside,
          hbehind⟩ :=
        emitAll_tracked_clauses contextName (.inl rfl) more body
          (emitAll_tracked_forest contextName body) e₁ head.word rest head.header_follows hrest
      have hprinted : (Item.block head body more).PrintsTracked e.builder.level _ :=
        .block hinside hbehind
      refine ⟨before, _, after, before.length + (1 + more.length + after.length),
        emitAll_between contextName h ?_, hprinted, by omega⟩
      rw [emitAll_cons, emit_statement,
        head.statement_new hopens (continues_eq_false hword hcase _)]
      show emitAll contextName (e₁.push head.word) rest = _
      rw [hmore, inside_closeEnd_clause hkeyword, hpop, append_append]
      rfl
  | .choice head blanks first body more, e, program, h, hprogram => by
      have hword : head.word = "match" := head.fits.2
      have hfollows : LineRole.Follows .case first.word := first.word_follows (.inr rfl)
      have hheadNew : ∀ e : Emitter, e.continues head.word = false := by
        rw [hword]
        exact continues_eq_false (by decide) (by decide)
      obtain ⟨before, rest, rfl, hrest⟩ := withoutMarks_eq_cons hprogram
      obtain ⟨dropped, rest, rfl, hdropped, hrest⟩ := withoutMarks_eq_append_cons hrest
      let e₁ := (e.marked before).append [Builder.indented e.builder.level head.text] 1
      have hbare : (e₁.push head.word).inBareMatch = true := by
        rw [push_inBareMatch, hword]
        rfl
      have hfirstNew : (e₁.push head.word).continues first.word = false := by
        rw [push_continues, hword, show first.word = "case" from first.fits.2]
        decide
      -- in front of the first case: inside the `match`, with the line of that case
      let e₂ := e₁.inside head.word
        [Builder.indented (e₁.builder.level + Builder.step) first.text] 1
      obtain ⟨e', keyword, lines, n, inside, behind, after, hmore, hkeyword, hbare', hpop, hinside,
          hbehind⟩ :=
        emitAll_tracked_clauses contextName (.inr rfl) more body
          (emitAll_tracked_forest contextName body) e₂ first.word rest hfollows hrest
      have hmatch : e'.inBareMatch = true := by
        rw [hbare']
        show ((e₁.push head.word).append _ 1).inBareMatch = true
        rw [append_inBareMatch, hbare]
      have hprinted : (Item.choice head blanks first body more).PrintsTracked e.builder.level _ :=
        .choice hinside hbehind
      refine ⟨before, _, after, before.length + (1 + after.length),
        emitAll_between contextName h ?_, hprinted, by omega⟩
      rw [emitAll_cons, emit_statement, head.statement_new head.fits.1 (hheadNew _), emitAll_append]
      show emitAll contextName (emitAll contextName (e₁.push head.word) dropped) _ = _
      rw [emitAll_dropped contextName hbare hdropped, emitAll_cons, emit_statement,
        first.statement_new first.fits.1 hfirstNew]
      show emitAll contextName (e₂.push first.word) rest = _
      rw [hmore, inside_closeEnd_case hkeyword hmatch, hpop]
      show emitAll contextName (((e₁.push head.word).append _ 1).append _ _).pop _ = _
      rw [append_append]
      show emitAll contextName (e₁.inside head.word _ _).pop _ = _
      -- the cases are counted in the block of the `match`, so it gets no `pass`
      rw [inside_pop, filled, if_neg (by omega), append_append]
      rfl

/-- A forest is written with marks among its parts. -/
theorem emitAll_tracked_forest (contextName : String) :
    ∀ forest : Forest, forest.WritesTracked contextName
  | .nil => by
      intro e program h hprogram
      obtain ⟨linenos, rfl⟩ := eq_marks_of_withoutMarks hprogram
      refine ⟨_, _, emitAll_marks contextName h linenos, ?_, ?_⟩
      · have hmarks := (Forest.PrintsTracked.nil e.builder.level).marks linenos
        rwa [List.append_nil] at hmarks
      · rw [List.map_eq_nil_iff, List.length_eq_zero_iff]
  | .cons item rest => by
      intro e program h hprogram
      obtain ⟨front, back, rfl, hfront, hback⟩ := List.filter_eq_append_iff.mp hprogram
      obtain ⟨before, lines, after, m, hitem, hprinted, hm⟩ :=
        emitAll_tracked_item contextName item e front h hfront
      obtain ⟨more, n, hrest, hprintedRest, _⟩ :=
        emitAll_tracked_forest contextName rest (emitAll contextName e front) back
          (by rw [hitem, append_inBareMatch, h]) hback
      rw [hitem, append_level] at hprintedRest
      refine ⟨_, m + n, ?_, ((Forest.PrintsTracked.cons hprinted
        (hprintedRest.marks after)).marks before), ?_⟩
      · rw [emitAll_append, hrest, hitem, append_append]
        simp only [List.append_assoc]
      · have hne := hprinted.ne_nil
        simp [hne, hm]

/-- A block, its clauses and its `end`: before the `end` the last of them is open, and when it is
closed all are written. -/
theorem emitAll_tracked_clauses (contextName : String) {role : LineRole}
    (hrole : role = .clause ∨ role = .case) :
    ∀ (clauses : Clauses role) (body : Forest) (_ : body.WritesTracked contextName) (e : Emitter)
      (keyword : String) (program : List Instruction),
      role.Follows keyword →
      withoutMarks program = body.program ++ (clauses.program ++ [.executeStatement "end"]) →
      ∃ (e' : Emitter) (keyword' : String) (lines' : List String) (n' : Nat)
        (inside behind : List String) (after : List Int),
        emitAll contextName (e.push keyword) program
            = emitAll contextName (e'.inside keyword' lines' n').closeEnd (marks after)
          ∧ role.Follows keyword' ∧ e'.inBareMatch = e.inBareMatch
          ∧ (e'.inside keyword' lines' n').pop
            = e.append (orPass (e.builder.level + Builder.step) inside ++ behind) clauses.length
          ∧ body.PrintsTracked (e.builder.level + Builder.step) inside
          ∧ clauses.PrintsTracked e.builder.level behind
  | .nil, body, hbody, e, keyword, program, hkeyword, hprogram => by
      obtain ⟨front, back, rfl, hfront, hback⟩ := withoutMarks_eq_append_cons hprogram
      obtain ⟨after, rfl⟩ := eq_marks_of_withoutMarks hback
      obtain ⟨inside, n, hinside, hprinted, hn⟩ :=
        hbody (e.push keyword) front (beq_eq_false_iff_ne.mpr hkeyword.1) hfront
      refine ⟨e, keyword, inside, n, inside, [], after, ?_, hkeyword, rfl, ?_, hprinted, .nil ..⟩
      · rw [emitAll_append, hinside, emitAll_cons, emit_statement, statement_end]
        rfl
      · rw [inside_pop, filled_eq_orPass _ hn, List.append_nil]
        rfl
  | .cons head next rest, body, hbody, e, keyword, program, hkeyword, hprogram => by
      have hfollows := head.word_follows hrole
      obtain ⟨front, back, rfl, hfront, hback⟩ := withoutMarks_eq_append_cons hprogram
      obtain ⟨inside, n, hinside, hprinted, hn⟩ :=
        hbody (e.push keyword) front (beq_eq_false_iff_ne.mpr hkeyword.1) hfront
      -- in front of the next block: the one before it is closed, and the line is written
      let e₁ := ((e.inside keyword inside n).pop).append
        [Builder.indented e.builder.level head.text] 1
      have hlevel : e₁.builder.level = e.builder.level := by
        show ((e.inside keyword inside n).pop).builder.level = _
        rw [inside_pop, append_level]
      have hbare : e₁.inBareMatch = e.inBareMatch := by
        show (((e.inside keyword inside n).pop).append _ 1).inBareMatch = _
        rw [append_inBareMatch, inside_pop, append_inBareMatch]
      have hrest : withoutMarks back = next.program ++ (rest.program ++ [.executeStatement "end"]) :=
        hback.trans (List.append_assoc ..)
      obtain ⟨e', keyword', lines', n', insideNext, behind, after, hmore, hkeyword', hbare', hpop,
          hprintedNext, hbehind⟩ :=
        emitAll_tracked_clauses contextName hrole rest next
          (emitAll_tracked_forest contextName next) e₁ head.word back hfollows hrest
      rw [hlevel] at hpop hprintedNext hbehind
      refine ⟨e', keyword', lines', n', inside, _, after, ?_, hkeyword', hbare'.trans hbare, ?_,
        hprinted, .cons hprintedNext hbehind⟩
      · rw [emitAll_append, hinside, emitAll_cons, emit_statement]
        show emitAll contextName ((e.inside keyword inside n).statement head.code) back = _
        rw [head.statement_next hrole hkeyword]
        exact hmore
      · rw [hpop]
        show (((e.inside keyword inside n).pop).append _ 1).append _ _ = _
        rw [inside_pop, filled_eq_orPass _ hn, append_append, append_append, Nat.zero_add]
        rfl

end

/-! ## §4. THE THEOREM. -/

open Traced (Returns)

theorem append_lines (e : Emitter) (lines : List String) (n : Nat) :
    (e.append lines n).builder.lines = e.builder.lines ++ lines := by
  show (lines.reverse ++ e.builder.rev).reverse = e.builder.rev.reverse ++ lines
  rw [List.reverse_append, List.reverse_reverse]

variable {settings : CodeSettings} {nodes : List Node} {program : List Instruction} {forest : Forest}

/-- The lines of a nested program are those of its forest, with marks among its parts. -/
theorem programLines_nested (h : lower settings nodes = .ok program)
    (hforest : withoutMarks program = forest.program ++ [.checkLayout settings.asyncMode])
    (source : String) :
    ∃ lines, forest.PrintsTracked (entryLevel settings) lines
      ∧ programLines settings source program
        = lines ++ (layoutLines settings.contextName settings.asyncMode).map
            (Builder.indented (entryLevel settings)) := by
  obtain ⟨steps, rfl⟩ := lower_eq h
  have hsteps : withoutMarks steps = forest.program := by
    unfold withoutMarks at hforest ⊢
    rw [List.filter_append] at hforest
    exact List.append_cancel_right hforest
  let e := entry settings source
  obtain ⟨lines, n, hwritten, hprinted, _⟩ :=
    emitAll_tracked_forest settings.contextName forest e steps rfl hsteps
  have hclose : (e.append lines n).closeAll = e.append lines n := closeAll_of_no_blocks rfl
  have hstacked : Stacked (entryLevel settings) (e.append lines n).blocks
      (e.append lines n).builder.level := by
    rw [append_level]
    exact entry_stacked settings source
  obtain ⟨_, _, hlayout⟩ :=
    emit_checkLayout hstacked settings.contextName settings.asyncMode
  rw [hclose, append_lines] at hlayout
  have hlines := emitAll_lines settings.contextName (steps ++ [.checkLayout settings.asyncMode]) e
  rw [emitAll_append, hwritten] at hlines
  refine ⟨lines, entry_level settings source ▸ hprinted, ?_⟩
  have hcancel : e.builder.lines
        ++ programLines settings source (steps ++ [.checkLayout settings.asyncMode])
      = e.builder.lines ++ (lines ++ (layoutLines settings.contextName settings.asyncMode).map
          (Builder.indented (entryLevel settings))) := by
    rw [← List.append_assoc, ← hlayout]
    exact hlines.symm
  exact List.append_cancel_left hcancel

/-- **IN A NESTED TEMPLATE, MARKS STAND BETWEEN ITS PARTS**: without plugins and without looking up
names, the body for a program that is a forest apart from its marks holds the lines of that forest,
with marks among its parts and nowhere else, and then asks for the layout. -/
theorem generate_nested (hwith : settings.useWith = false) (hplugins : settings.plugins = [])
    (h : lower settings nodes = .ok program)
    (hforest : withoutMarks program = forest.program ++ [.checkLayout settings.asyncMode])
    (source : String) :
    ∃ lines, forest.PrintsTracked (entryLevel settings) lines
      ∧ Returns (generate settings nodes source)
        (codeOf (preamble settings source ++ (if settings.debug then ["try:"] else [])
          ++ (lines ++ (layoutLines settings.contextName settings.asyncMode).map
            (Builder.indented (entryLevel settings)))
          ++ (if settings.debug then reportLines else []) ++ [returnLine])) := by
  obtain ⟨lines, hprinted, hlines⟩ := programLines_nested h hforest source
  refine ⟨lines, hprinted, ?_⟩
  rw [← hlines]
  exact generate_written source hwith hplugins h

/-- A block that one line opens and closes is a statement, and its clause opens a block for itself: the
mark stands between the two. -/
example :
    (emitAll "it" {} [.setLine 1, .executeStatement "if it: pass", .setLine 2,
        .executeStatement "else:", .appendLiteral "x", .setLine 3, .executeStatement "end"]).builder.lines
      = ["__kiln.line = 1", "if it: pass", "__kiln.line = 2", "else:", "    __kiln_append('x')",
          "    __kiln.line = 3"] := by
  decide +kernel

end Emitter

end TagTemplate
