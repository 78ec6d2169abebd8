/-
  TagTemplate.Proofs.Code.Forest
  ────────────────────────────────
  **NESTED BLOCKS ARE WRITTEN AS INDENTED CODE.**

  A well nested template is a forest: literals, expressions and statements
  beside blocks with clauses and choices with cases, which hold forests
  again.  It has two readings, defined here side by side:

      Forest.program — the flat sequence of instructions, with its `end` tags
      Forest.print   — the lines of code, indented by structure alone

  `emitAll_program_eq_print` says that the emitter turns the first into the second, from
  any state that is not waiting for a `case`, and leaves the open blocks as
  they were.
-/
import TagTemplate.Proofs.Code.Line

namespace TagTemplate

open Text
open Emitter (Line LineRole)

/-! ## §1. Forests. -/

/-- A literal that stands for blanks only. -/
structure BlankLiteral where
  /-- The escaped value. -/
  value : String
  /-- It stands for blanks. -/
  blank : allBlank (Literal.unescape value.toList) = true

mutual

/-- A part of a well nested template. -/
inductive Item where
  /-- Text. -/
  | literal (value : String)
  /-- An expression that is appended. -/
  | expression (expr : String) (filtered escaped : Bool)
  /-- A statement that leaves the blocks alone. -/
  | statement (line : Line .simple)
  /-- A block with further clauses. -/
  | block (head : Line .header) (body : Forest) (more : Clauses .clause)
  /-- A choice between at least one case and others; only blanks may stand before the first. -/
  | choice (head : Line .choice) (blanks : List BlankLiteral) (first : Line .case)
      (body : Forest) (more : Clauses .case)

/-- A sequence of parts. -/
inductive Forest where
  /-- No part. -/
  | nil
  /-- A part and those behind it. -/
  | cons (item : Item) (rest : Forest)

/-- Clauses or cases, each with its lines. -/
inductive Clauses : LineRole → Type where
  /-- No clause. -/
  | nil {role : LineRole} : Clauses role
  /-- A clause and those behind it. -/
  | cons {role : LineRole} (head : Line role) (body : Forest) (rest : Clauses role) : Clauses role

end

/-! ## §2. The two readings. -/

mutual

/-- The instructions of a part. -/
def Item.program : Item → List Instruction
  | .literal value => [.appendLiteral value]
  | .expression expr filtered escaped => [.appendExpression expr filtered escaped]
  | .statement line => [.executeStatement line.code]
  | .block head body more =>
    .executeStatement head.code :: (body.program ++ (more.program ++ [.executeStatement "end"]))
  | .choice head blanks first body more =>
    .executeStatement head.code :: (blanks.map (.appendLiteral ·.value) ++
      (.executeStatement first.code :: (body.program
        ++ (more.program ++ [.executeStatement "end"]))))

/-- The instructions of a forest. -/
def Forest.program : Forest → List Instruction
  | .nil => []
  | .cons item rest => item.program ++ rest.program

/-- The instructions of clauses. -/
def Clauses.program {role : LineRole} : Clauses role → List Instruction
  | .nil => []
  | .cons head body rest => .executeStatement head.code :: (body.program ++ rest.program)

end

/-- The lines inside a block: those of its forest, or a `pass`. -/
def orPass (level : Int) : List String → List String
  | [] => [Builder.indented level "pass"]
  | lines => lines

mutual

/-- The lines of a part at a level. -/
def Item.print (level : Int) : Item → List String
  | .literal value => [Builder.indented level ("__kiln_append('" ++ value ++ "')")]
  | .expression expr filtered escaped =>
    [Builder.indented level (Emitter.expressionLine expr filtered escaped)]
  | .statement line => [Builder.indented level line.text]
  | .block head body more =>
    Builder.indented level head.text
      :: (orPass (level + Builder.step) (body.print (level + Builder.step)) ++ more.print level)
  | .choice head _ first body more =>
    let inner := level + Builder.step
    Builder.indented level head.text :: Builder.indented inner first.text
      :: (orPass (inner + Builder.step) (body.print (inner + Builder.step)) ++ more.print inner)

/-- The lines of a forest at a level. -/
def Forest.print (level : Int) : Forest → List String
  | .nil => []
  | .cons item rest => item.print level ++ rest.print level

/-- The lines of clauses at a level. -/
def Clauses.print (level : Int) {role : LineRole} : Clauses role → List String
  | .nil => []
  | .cons head body rest =>
    Builder.indented level head.text
      :: (orPass (level + Builder.step) (body.print (level + Builder.step)) ++ rest.print level)

end

/-- How many clauses there are. -/
def Clauses.length {role : LineRole} : Clauses role → Nat
  | .nil => 0
  | .cons _ _ rest => 1 + rest.length

/-- How many lines of a part stand in the block around it. -/
def Item.height : Item → Nat
  | .literal _ | .expression _ _ _ | .statement _ | .choice _ _ _ _ _ => 1
  | .block _ _ more => 1 + more.length

/-- How many lines of a forest stand in the block around it. -/
def Forest.height : Forest → Nat
  | .nil => 0
  | .cons item rest => item.height + rest.height

theorem Item.height_ne_zero (item : Item) : item.height ≠ 0 := by
  cases item <;> simp [Item.height]

/-- A block is filled exactly if nothing stands in it. -/
theorem Emitter.filled_eq_orPass (level : Int) {lines : List String} {n : Nat}
    (h : n = 0 ↔ lines = []) : filled level lines n = orPass level lines := by
  unfold filled
  cases lines with
  | nil =>
      rw [if_pos (h.mpr rfl)]
      rfl
  | cons l lines =>
      rw [if_neg (fun hn => List.cons_ne_nil _ _ (h.mp hn))]
      rfl

theorem Forest.height_eq_zero_iff (level : Int) (forest : Forest) :
    forest.height = 0 ↔ forest.print level = [] := by
  cases forest with
  | nil => exact ⟨fun _ => rfl, fun _ => rfl⟩
  | cons item rest =>
      have hheight := item.height_ne_zero
      refine ⟨fun h => ?_, fun h => ?_⟩
      · unfold Forest.height at h
        omega
      · cases item <;> cases h

/-- A block is filled exactly if its forest prints no line. -/
theorem Forest.filled_print (level : Int) (forest : Forest) :
    Emitter.filled level (forest.print level) forest.height = orPass level (forest.print level) :=
  Emitter.filled_eq_orPass level (forest.height_eq_zero_iff level)

/-! ## §3. The emitter on forests. -/

namespace Emitter

theorem emitAll_cons (contextName : String) (e : Emitter) (i : Instruction)
    (program : List Instruction) :
    emitAll contextName e (i :: program)
      = emitAll contextName (emit contextName e i) program := rfl

theorem emitAll_append (contextName : String) (e : Emitter) (p q : List Instruction) :
    emitAll contextName e (p ++ q) = emitAll contextName (emitAll contextName e p) q :=
  List.foldl_append

theorem emit_statement (contextName : String) (e : Emitter) (code : String) :
    emit contextName e (.executeStatement code) = e.statement code := rfl

theorem emitAll_end (contextName : String) (e : Emitter) :
    emitAll contextName e [.executeStatement "end"] = e.closeEnd := by
  rw [emitAll_cons, emit_statement, statement_end]
  rfl

/-- Blanks before the first case are dropped. -/
theorem emitAll_blanks (contextName : String) {e : Emitter} (h : e.inBareMatch = true) :
    ∀ (blanks : List BlankLiteral),
      emitAll contextName e (blanks.map (.appendLiteral ·.value)) = e
  | [] => rfl
  | b :: blanks => by
      have hdrop : emit contextName e (.appendLiteral b.value) = e := by
        unfold emit
        simp only
        rw [h, b.blank]
        rfl
      rw [List.map_cons, emitAll_cons, hdrop]
      exact emitAll_blanks contextName h blanks

mutual

/-- A part is written as it is printed. -/
theorem emitAll_item (contextName : String) :
    ∀ (item : Item) (e : Emitter), e.inBareMatch = false →
      emitAll contextName e item.program = e.append (item.print e.builder.level) item.height
  | .literal value, e, h => by
      show emit contextName e (.appendLiteral value) = _
      unfold emit
      simp only
      rw [h]
      rfl
  | .expression expr filtered escaped, e, _ => rfl
  | .statement line, e, _ => by
      unfold Item.program
      rw [emitAll_cons, emit_statement, line.statement_simple]
      rfl
  | .block head body more, e, _ => by
      obtain ⟨hopens, hword, hcase, hmatch⟩ := head.fits
      let e₁ := e.append [Builder.indented e.builder.level head.text] 1
      obtain ⟨e', keyword, lines, n, hmore, hkeyword, _, hpop⟩ :=
        emitAll_clauses contextName (.inl rfl) more e₁ head.word
          (body.print (e₁.builder.level + Builder.step)) body.height head.header_follows
      unfold Item.program
      rw [emitAll_cons, emit_statement, head.statement_new hopens (continues_eq_false hword hcase e),
          emitAll_append, emitAll_body contextName body e₁ head.word hmatch, emitAll_append, hmore,
          emitAll_end, inside_closeEnd_clause hkeyword, hpop, inside_pop, Forest.filled_print,
          append_append, append_append, Nat.zero_add]
      rfl
  | .choice head blanks first body more, e, _ => by
      have hword : head.word = "match" := head.fits.2
      have hfollows : LineRole.Follows .case first.word := first.word_follows (.inr rfl)
      have hheadNew : e.continues head.word = false := by
        rw [hword]
        exact continues_eq_false (by decide) (by decide) e
      let e₁ := e.append [Builder.indented e.builder.level head.text] 1
      have hbare : (e₁.push head.word).inBareMatch = true := by
        rw [push_inBareMatch, hword]
        rfl
      have hfirstNew : (e₁.push head.word).continues first.word = false := by
        rw [push_continues, hword, show first.word = "case" from first.fits.2]
        decide
      -- in front of the first case: inside the `match`, with the line of that case
      let e₂ := e₁.inside head.word
        [Builder.indented (e₁.builder.level + Builder.step) first.text] 1
      obtain ⟨e', keyword, lines, n, hmore, hkeyword, hbare', hpop⟩ :=
        emitAll_clauses contextName (.inr rfl) more e₂ first.word
          (body.print (e₂.builder.level + Builder.step)) body.height hfollows
      have hmatch : e'.inBareMatch = true := by
        rw [hbare']
        show ((e₁.push head.word).append _ 1).inBareMatch = true
        rw [append_inBareMatch, hbare]
      unfold Item.program
      rw [emitAll_cons, emit_statement, head.statement_new head.fits.1 hheadNew, emitAll_append,
          emitAll_blanks contextName hbare, emitAll_cons, emit_statement,
          first.statement_new first.fits.1 hfirstNew, emitAll_append]
      show emitAll contextName (emitAll contextName (e₂.push first.word) body.program) _ = _
      rw [emitAll_body contextName body e₂ first.word hfollows.1, emitAll_append, hmore,
          emitAll_end, inside_closeEnd_case hkeyword hmatch, hpop, inside_pop e₂,
          Forest.filled_print, append_append]
      show (((e₁.push head.word).append _ 1).append _ _).pop = _
      rw [append_append]
      show (e₁.inside head.word _ _).pop = _
      -- the cases are counted in the block of the `match`, so it gets no `pass`
      rw [inside_pop, filled, if_neg (by omega), append_append]
      rfl

/-- A forest is written as it is printed. -/
theorem emitAll_forest (contextName : String) :
    ∀ (forest : Forest) (e : Emitter), e.inBareMatch = false →
      emitAll contextName e forest.program = e.append (forest.print e.builder.level) forest.height
  | .nil, e, _ => (append_nil e).symm
  | .cons item rest, e, h => by
      unfold Forest.program
      rw [emitAll_append, emitAll_item contextName item e h,
          emitAll_forest contextName rest _ (by rw [append_inBareMatch, h]), append_append]
      rfl

/-- The forest of a block is written inside it. -/
theorem emitAll_body (contextName : String) (body : Forest) (e : Emitter) (keyword : String)
    (h : keyword ≠ "match") :
    emitAll contextName (e.push keyword) body.program
      = e.inside keyword (body.print (e.builder.level + Builder.step)) body.height :=
  emitAll_forest contextName body (e.push keyword) (beq_eq_false_iff_ne.mpr h)

/-- Clauses behind an open block: the last one stays open, and when it is closed all are written
as they are printed. -/
theorem emitAll_clauses (contextName : String) {role : LineRole}
    (hrole : role = .clause ∨ role = .case) :
    ∀ (clauses : Clauses role) (e : Emitter) (keyword : String) (lines : List String) (n : Nat),
      role.Follows keyword →
      ∃ (e' : Emitter) (keyword' : String) (lines' : List String) (n' : Nat),
        emitAll contextName (e.inside keyword lines n) clauses.program
            = e'.inside keyword' lines' n'
          ∧ role.Follows keyword' ∧ e'.inBareMatch = e.inBareMatch
          ∧ (e'.inside keyword' lines' n').pop
            = ((e.inside keyword lines n).pop).append (clauses.print e.builder.level)
                clauses.length
  | .nil, e, keyword, lines, n, h => ⟨e, keyword, lines, n, rfl, h, rfl, (append_nil _).symm⟩
  | .cons head body rest, e, keyword, lines, n, h => by
      have hfollows := head.word_follows hrole
      -- in front of the next block: the one before it is closed, and the line is written
      let e₁ := ((e.inside keyword lines n).pop).append
        [Builder.indented e.builder.level head.text] 1
      have hlevel : e₁.builder.level = e.builder.level := by
        show ((e.inside keyword lines n).pop).builder.level = _
        rw [inside_pop, append_level]
      have hbare : e₁.inBareMatch = e.inBareMatch := by
        show (((e.inside keyword lines n).pop).append _ 1).inBareMatch = _
        rw [append_inBareMatch, inside_pop, append_inBareMatch]
      obtain ⟨e', keyword', lines', n', hrest, hkeyword', hbare', hpop⟩ :=
        emitAll_clauses contextName hrole rest e₁ head.word
          (body.print (e.builder.level + Builder.step)) body.height hfollows
      refine ⟨e', keyword', lines', n', ?_, hkeyword', hbare'.trans hbare, ?_⟩
      · unfold Clauses.program
        rw [emitAll_cons, emit_statement, head.statement_next hrole h, emitAll_append,
            emitAll_body contextName body e₁ head.word hfollows.1, hlevel, hrest]
      · rw [hpop, inside_pop e₁, hlevel, Forest.filled_print, append_append, append_append,
            Nat.zero_add]
        rfl

end

/-- Where no block is open, none is closed. -/
theorem closeAll_of_no_blocks {e : Emitter} (h : e.blocks = []) : e.closeAll = e := by
  obtain ⟨builder, blocks, unmatched, unclosed⟩ := e
  cases h
  rfl

/-! ## §4. THE THEOREM. -/

/-- **A FOREST IS WRITTEN AS IT IS PRINTED**: from any state that does not wait for a `case`, the
instructions of a forest append exactly the lines of the forest at the current level.  The level
and the open blocks stay, the innermost one counts the lines that stand in itself, no `end` is left
over, and where no block was open none is open afterwards. -/
theorem emitAll_program_eq_print (contextName : String) (forest : Forest) (e : Emitter)
    (h : e.inBareMatch = false) :
    let after := e.emitAll contextName forest.program
    after.builder.lines = e.builder.lines ++ forest.print e.builder.level
      ∧ after.builder.level = e.builder.level
      ∧ after.blocks = countLines forest.height e.blocks
      ∧ after.unmatched = e.unmatched ∧ after.unclosed = e.unclosed
      ∧ (e.blocks = [] → after.closeAll = after) := by
  rw [emitAll_forest contextName forest e h]
  refine ⟨?_, rfl, rfl, rfl, rfl, fun hnone => ?_⟩
  · show ((forest.print e.builder.level).reverse ++ e.builder.rev).reverse = _
    rw [List.reverse_append, List.reverse_reverse]
    rfl
  · apply closeAll_of_no_blocks
    show countLines forest.height e.blocks = []
    rw [hnone]
    rfl

/-- A loop body with an empty clause, a continued one, and a choice, inside an open `for`. -/
theorem emitAll_program_eq_print_nested :
    let forest : Forest :=
      .cons (.block ⟨"if x:", by decide, by decide⟩ .nil
          (.cons ⟨"else:  # none", by decide, by decide⟩
            (.cons (.expression "x" false true) (.cons (.statement ⟨"n += 1", by decide, by decide⟩)
              .nil)) .nil))
        (.cons (.choice ⟨"match x:", by decide, by decide⟩ [⟨" \\n", by decide⟩]
          ⟨"case 1:", by decide, by decide⟩ (.cons (.literal "one") .nil)
          (.cons ⟨"case _:", by decide, by decide⟩ .nil .nil)) .nil)
    let e : Emitter := { builder := ⟨["for x in xs:"], 4⟩, blocks := [⟨"for", 0, 0⟩] }
    e.inBareMatch = false
      ∧ (e.emitAll "it" forest.program).builder.lines
        = ["for x in xs:", "    if x:", "        pass", "    else:  # none",
          "        __kiln_append(__kiln.e(x))", "        n += 1", "    match x:",
          "        case 1:", "            __kiln_append('one')", "        case _:",
          "            pass"]
      ∧ (e.emitAll "it" forest.program).blocks = [⟨"for", 0, 3⟩] := by
  intro forest e
  obtain ⟨hlines, _, hblocks, _⟩ := emitAll_program_eq_print "it" forest e rfl
  refine ⟨rfl, hlines.trans ?_, hblocks⟩
  decide

end Emitter

end TagTemplate
