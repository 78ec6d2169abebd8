/-
  TagTemplate.Proofs.Script.Statement
  ────────────────────────────────
  **THE RULES FOR STATEMENTS, ONE LEMMA EACH.**

  A statement is compound or simple by its first token.  A compound one may go
  on behind its block, with another branch, a handler or a last block, so what
  follows must not begin with the word of one (`Seen.continues`).
-/
import TagTemplate.Proofs.Script.Grammar

namespace TagTemplate.Script

/-! ## §1. First tokens. -/

namespace Seen

/-- Whether a token starts a statement without a block. -/
def startsSimple (x : Seen) : Bool := x.startsPhrase || x.isWord "return" || x.isWord "raise"

/-- The words that go on with a statement behind its block. -/
def continuingWords : List String := ["elif", "else", "except", "finally"]

/-- Whether a token goes on with a statement behind its block. -/
def continues (x : Seen) : Bool := x.kind == .keyword && continuingWords.contains x.text

variable {x : Seen}

theorem continues_word (h : x.continues = false) {w : String} (hw : w ∈ continuingWords) :
    x.isWord w = false := by
  refine Bool.eq_false_iff.mpr fun hx => ?_
  obtain ⟨hkind, htext⟩ := isWord_iff.mp hx
  simp [continues, hkind, htext, hw] at h

/-- Neither does a token without characters. -/
theorem continues_layout (h : x.kind.isLayout = true) : x.continues = false := by
  refine Bool.eq_false_iff.mpr fun hx => ?_
  unfold continues at hx
  rw [Bool.and_eq_true, beq_iff_eq] at hx
  rw [hx.1] at h
  cases h

theorem startsSimple_kind (h : x.startsSimple = true) : x.kind.isLayout = false := by
  obtain ⟨kind, text, line⟩ := x
  cases kind <;> first | rfl | cases h

theorem startsSimple_continues (h : x.startsSimple = true) : x.continues = false := by
  refine Bool.eq_false_iff.mpr fun hx => ?_
  obtain ⟨kind, text, line⟩ := x
  cases kind <;> first | cases hx | skip
  have htext : text = "None" ∨ text = "await" ∨ text = "return" ∨ text = "raise" := by
    simpa [startsSimple, startsPhrase, startsPrimary, isWord, or_assoc] using h
  rcases htext with rfl | rfl | rfl | rfl <;> exact absurd hx (by simp [continues, continuingWords])

theorem startsPhrase.startsSimple (h : x.startsPhrase = true) : x.startsSimple = true := by
  rw [Seen.startsSimple, h, Bool.true_or, Bool.true_or]

end Seen

namespace Parse

variable {r : Rules} {x t : Seen} {ts us vs : List Seen} {e : Expr} {s : Stmt}

theorem compoundStatement_rejects (hx : x.startsSimple = true) :
    (compoundStatement r).Rejects (x :: us) := by
  obtain ⟨kind, text, line⟩ := x
  refine Rejects.peek_bind fun t ht => ?_
  rw [Token.kind_of_seen ht, Token.text_of_seen ht]
  dsimp only
  cases kind with
  | keyword =>
      have htext : text = "None" ∨ text = "await" ∨ text = "return" ∨ text = "raise" := by
        simpa [Seen.startsSimple, Seen.startsPhrase, Seen.startsPrimary, Seen.isWord, or_assoc]
          using hx
      rcases htext with rfl | rfl | rfl | rfl <;> exact Rejects.reject
  | name =>
      have htext : (text == "match") = false := by
        simpa [Seen.startsSimple, Seen.startsPhrase, Seen.startsPrimary, Seen.isWord] using hx
      dsimp only
      rw [htext]
      exact Rejects.reject
  | mark =>
      have htext : text = "[" ∨ text = "\x7b" := by
        simpa [Seen.startsSimple, Seen.startsPhrase, Seen.startsPrimary, Seen.isWord] using hx
      rcases htext with rfl | rfl <;> exact Rejects.reject
  | _ => exact Rejects.reject

/-- A statement without a block has a line to itself. -/
theorem statement_simple (hx : x.startsSimple = true)
    (h : (simpleStatement r).Yields (x :: us) s (.layout .newline :: vs)) :
    (statement r).Yields (x :: us) [.mk x.line s] vs := by
  have hcompound : (do return [← numbered (compoundStatement r)] : Parse (List Line)).Rejects
      (x :: us) :=
    Rejects.bind (Rejects.anyLine_bind fun _ => (compoundStatement_rejects hx).bind)
  have hfirst : (numbered (simpleStatement r)).Yields (x :: us) (.mk x.line s)
      (.layout .newline :: vs) :=
    Yields.lineHere_bind (Seen.startsSimple_kind hx) (h.bind Yields.pure)
  have hrest : (many (do mark ";"; numbered (simpleStatement r))).Yields
      (.layout .newline :: vs) [] (.layout .newline :: vs) :=
    (Repeats.stop (mark_rejects rfl).bind).many
  unfold statement
  refine Yields.orElse_right hcompound (hfirst.bind (hrest.bind ?_))
  exact (tryMark_passes rfl).bind ((layout_yields .newline).bind Yields.pure)

/-- A statement with a block ends where its last block ends. -/
theorem statement_compound (hx : x.kind.isLayout = false)
    (h : (compoundStatement r).Yields (x :: us) s vs) :
    (statement r).Yields (x :: us) [.mk x.line s] vs := by
  have hnumbered : (numbered (compoundStatement r)).Yields (x :: us) (.mk x.line s) vs :=
    Yields.lineHere_bind hx (h.bind Yields.pure)
  unfold statement
  exact Yields.orElse_left (hnumbered.bind Yields.pure)

/-- No statement starts where the indentation changes or the text ends. -/
theorem statement_rejects (hx : x.kind.isLayout = true) (hr : r.expression.Rejects (x :: us)) :
    (statement r).Rejects (x :: us) := by
  have hnothing : x.startsNothing = true := by rw [Seen.startsNothing, hx, Bool.true_or]
  have hmark : ∀ m, x.isMark m = false := by
    refine fun m => Bool.eq_false_iff.mpr fun h => ?_
    rw [(Seen.isMark_iff.mp h).1] at hx
    cases hx
  have hcompound : (compoundStatement r).Rejects (x :: us) := by
    refine Rejects.peek_bind fun t ht => ?_
    rw [Token.kind_of_seen ht]
    cases hk : x.kind <;> rw [hk] at hx <;> first | exact Rejects.reject | cases hx
  have hstar : (starExpression r).Rejects (x :: us) := by
    refine (nextIs_yields "*").bind_rejects ?_
    rw [hmark]
    exact hr
  have hsimple : (simpleStatement r).Rejects (x :: us) := by
    refine Rejects.peek_bind fun t ht => ?_
    rw [Token.kind_of_seen ht]
    have hword : (x.kind == .keyword) = false := by
      cases hk : x.kind <;> rw [hk] at hx <;> first | rfl | cases hx
    rw [hword]
    exact Rejects.peek_bind fun _ _ => Rejects.place_bind fun _ => Rejects.bind
      (Rejects.bind hstar.bind)
  unfold statement
  refine Rejects.orElse (Rejects.bind (Rejects.anyLine_bind fun _ => hcompound.bind)) ?_
  exact Rejects.bind (Rejects.anyLine_bind fun _ => hsimple.bind)

/-! ## §2. Statements without a block. -/

theorem simpleStatement_expression (ht : t.startsPhrase = true)
    (h : (expressionStatement r).Yields (t :: ts) s us) :
    (simpleStatement r).Yields (t :: ts) s us := by
  obtain ⟨kind, text, line⟩ := t
  refine Yields.peek_bind fun u hu => ?_
  rw [Token.kind_of_seen hu, Token.text_of_seen hu]
  dsimp only
  cases kind with
  | keyword =>
      have htext : text = "None" ∨ text = "await" := by
        simpa [Seen.startsPhrase, Seen.startsPrimary, Seen.isWord] using ht
      rcases htext with rfl | rfl <;> exact h
  | _ => exact h

/-- An expression whose value is not used. -/
theorem simpleStatement_expr (ht : t.startsPhrase = true)
    (h : r.expression.Yields (t :: ts) e (.layout .newline :: us)) :
    (simpleStatement r).Yields (t :: ts) (.expr e) (.layout .newline :: us) := by
  refine simpleStatement_expression ht ?_
  refine Yields.peek_bind fun _ _ => Yields.place_bind fun _ => ?_
  refine (starExpressions_yields ht h rfl).bind (Yields.peek_bind fun t ht => ?_)
  rw [Token.kind_of_seen ht]
  exact Yields.pure

/-- A value for a single target. -/
theorem simpleStatement_assign {line : Nat} {goal e' : Expr} (ht : t.startsPhrase = true)
    (h : r.expression.Yields (t :: ts) e (⟨.mark, "=", line⟩ :: x :: us))
    (hgoal : asTarget .store e = some goal) (hx : x.startsPhrase = true)
    (h' : r.expression.Yields (x :: us) e' (.layout .newline :: vs)) :
    (simpleStatement r).Yields (t :: ts) (.assign [goal] e') (.layout .newline :: vs) := by
  have hassigned : ∀ start, (assigned start e (glance r e)).Yields
      (⟨.mark, "=", line⟩ :: x :: us) goal (⟨.mark, "=", line⟩ :: x :: us) := by
    intro start
    unfold assigned
    rw [hgoal]
    exact Yields.pure
  have hvalue : ∀ n, (assignment r (n + 1) [goal]).Yields (⟨.mark, "=", line⟩ :: x :: us)
      (.assign [goal] e') (.layout .newline :: vs) := by
    intro n
    refine (mark_yields "=" line).bind (Yields.place_bind fun _ => ?_)
    refine Yields.unlessWord (Seen.startsPhrase_word hx (by decide) (by decide)) ?_
    exact (starExpressions_yields hx h' rfl).bind (Yields.unlessMark rfl Yields.pure)
  refine simpleStatement_expression ht ?_
  refine Yields.peek_bind fun _ _ => Yields.place_bind fun start => ?_
  refine (starExpressions_yields ht h rfl).bind (Yields.peek_bind fun t ht => ?_)
  rw [Token.kind_of_seen ht, Token.text_of_seen ht]
  exact Yields.room_bind ((hassigned start).bind (hvalue _))

theorem simpleStatement_return {line : Nat} (ht : t.startsPhrase = true)
    (h : r.expression.Yields (t :: ts) e (.layout .newline :: us)) :
    (simpleStatement r).Yields (⟨.keyword, "return", line⟩ :: t :: ts) (.ret (some e))
      (.layout .newline :: us) := by
  refine Yields.peek_bind fun t ht => ?_
  rw [Token.kind_of_seen ht, Token.text_of_seen ht]
  exact advance_yields.bind ((starExpressions_yields ‹_› h rfl).optional.bind Yields.pure)

/-- The error that is being handled is raised once more. -/
theorem simpleStatement_raise {line : Nat}
    (h : r.expression.Rejects (.layout .newline :: us)) :
    (simpleStatement r).Yields (⟨.keyword, "raise", line⟩ :: .layout .newline :: us)
      (.raiseError none none) (.layout .newline :: us) := by
  refine Yields.peek_bind fun t ht => ?_
  rw [Token.kind_of_seen ht, Token.text_of_seen ht]
  exact (word_yields "raise" line).bind (h.optional.bind Yields.pure)

/-- An error is raised because of another one. -/
theorem simpleStatement_raiseFrom {line line' : Nat} {e' : Expr}
    (h : r.expression.Yields ts e (⟨.keyword, "from", line'⟩ :: us))
    (h' : r.expression.Yields us e' vs) :
    (simpleStatement r).Yields (⟨.keyword, "raise", line⟩ :: ts)
      (.raiseError (some e) (some e')) vs := by
  refine Yields.peek_bind fun t ht => ?_
  rw [Token.kind_of_seen ht, Token.text_of_seen ht]
  exact (word_yields "raise" line).bind (h.optional.bind (Yields.overWord
    (h'.map.bind Yields.pure)))

/-! ## §3. Blocks. -/

/-- An indented block. -/
theorem block_yields {body : List (List Line)}
    (h : Repeats (statement r) ts body (.layout .dedent :: us)) (hne : body.flatten ≠ []) :
    (block r).Yields (.layout .newline :: .layout .indent :: ts) body.flatten us := by
  have hbody : (statements r).Yields ts body.flatten (.layout .dedent :: us) :=
    h.many.bind Yields.pure
  refine Yields.peek_bind fun t ht => ?_
  rw [Token.kind_of_seen ht]
  refine advance_yields.bind (Yields.peek_bind fun t ht => ?_)
  rw [Token.kind_of_seen ht]
  refine advance_yields.bind (hbody.bind ?_)
  rw [List.isEmpty_eq_false_iff.mpr hne]
  exact (layout_yields .dedent).bind Yields.pure

/-! ## §4. Functions. -/

/-- A parameter without a default value. -/
theorem param_plain {w : String} {line : Nat} (hw : w.toList.all (·.toNat < 128) = true)
    (done : List Param) (hcolon : x.isMark ":" = false) (hequals : x.isMark "=" = false) :
    (param r true { done }).Yields (⟨.name, w, line⟩ :: x :: us)
      { done := .mk .ordinary w none none :: done } (x :: us) := by
  have hnote : (typeNote r true false).Yields (x :: us) none (x :: us) :=
    Yields.pastMark hcolon Yields.pure
  refine Yields.pastMark rfl (Yields.pastMark rfl (Yields.pastMark rfl ?_))
  refine (name_yields hw line).bind (hnote.bind ?_)
  exact Yields.pastMark hequals (Yields.pure.bind Yields.pure)

/-- A parameter with a default value. -/
theorem param_default {w : String} {line line' : Nat} (hw : w.toList.all (·.toNat < 128) = true)
    (done : List Param) (h : r.expression.Yields ts e us) :
    (param r true { done }).Yields (⟨.name, w, line⟩ :: ⟨.mark, "=", line'⟩ :: ts)
      { done := .mk .ordinary w none (some e) :: done, defaulted := true } us := by
  have hnote : (typeNote r true false).Yields (⟨.mark, "=", line'⟩ :: ts) none
      (⟨.mark, "=", line'⟩ :: ts) := Yields.pastMark rfl Yields.pure
  refine Yields.pastMark rfl (Yields.pastMark rfl (Yields.pastMark rfl ?_))
  refine (name_yields hw line).bind (hnote.bind ?_)
  exact Yields.overMark (h.map.bind Yields.pure)

/-- Two parameters. -/
theorem params_two {a b : String} {line : Nat} {state : ParamState}
    (ha : a.toList.all (·.toNat < 128) = true)
    (hb : (param r true { done := [.mk .ordinary a none none] }).Yields
      (⟨.name, b, line⟩ :: ts) state (⟨.mark, ")", line⟩ :: us))
    (hlt : us.length < ts.length) (hstate : state.bare = false) :
    (params r true ")").Yields (⟨.name, a, line⟩ :: ⟨.mark, ",", line⟩ :: ⟨.name, b, line⟩ :: ts)
      state.done.reverse (⟨.mark, ")", line⟩ :: us) := by
  have hfirst : (param r true {}).Yields
      (⟨.name, a, line⟩ :: ⟨.mark, ",", line⟩ :: ⟨.name, b, line⟩ :: ts)
      { done := [.mk .ordinary a none none] } (⟨.mark, ",", line⟩ :: ⟨.name, b, line⟩ :: ts) :=
    param_plain ha [] rfl rfl
  have hsecond : (do
      mark ","
      if ← nextIs ")" then reject
      else param r true { done := [.mk .ordinary a none none] }).Yields
      (⟨.mark, ",", line⟩ :: ⟨.name, b, line⟩ :: ts) state (⟨.mark, ")", line⟩ :: us) :=
    (mark_yields "," line).bind (Yields.unlessMark rfl hb)
  have hlength : (⟨.mark, ")", line⟩ :: us : List Seen).length
      < (⟨.mark, ",", line⟩ :: ⟨.name, b, line⟩ :: ts : List Seen).length := by
    simp only [List.length_cons]
    omega
  refine Yields.unlessMark rfl (hfirst.bind ?_)
  refine (Loops.next hsecond hlength (Loops.stop (mark_rejects rfl).bind)).loop.bind ?_
  refine (tryMark_passes rfl).bind ?_
  rw [hstate]
  exact (nextIs_yields ")").bind Yields.pure

/-- A function behind its words, up to its block. -/
theorem function_yields {w : String} {line : Nat} {ps : List Param} {body : List Line}
    (hw : w.toList.all (·.toNat < 128) = true)
    (hparams : (params r true ")").Yields ts ps
      (⟨.mark, ")", line⟩ :: ⟨.mark, ":", line⟩ :: us))
    (hbody : r.block.Yields us body vs) :
    (function r []).Yields (⟨.keyword, "def", line⟩ :: ⟨.name, w, line⟩ :: ⟨.mark, "(", line⟩ :: ts)
      (.funcDef false w ps body [] none) vs := by
  refine (tryWord_passes rfl).bind ((word_yields "def" line).bind ?_)
  refine (name_yields hw line).bind ((mark_yields "(" line).bind (hparams.bind ?_))
  refine (mark_yields ")" line).bind (Yields.pastMark rfl (Yields.pure.bind ?_))
  exact (mark_yields ":" line).bind (hbody.bind Yields.pure)

theorem function_async {w : String} {line : Nat} {ps : List Param} {body : List Line}
    (hw : w.toList.all (·.toNat < 128) = true)
    (hparams : (params r true ")").Yields ts ps
      (⟨.mark, ")", line⟩ :: ⟨.mark, ":", line⟩ :: us))
    (hbody : r.block.Yields us body vs) :
    (function r []).Yields
      (⟨.keyword, "async", line⟩ :: ⟨.keyword, "def", line⟩ :: ⟨.name, w, line⟩ ::
        ⟨.mark, "(", line⟩ :: ts)
      (.funcDef true w ps body [] none) vs := by
  refine (tryWord_yields "async" line).bind ((word_yields "def" line).bind ?_)
  refine (name_yields hw line).bind ((mark_yields "(" line).bind (hparams.bind ?_))
  refine (mark_yields ")" line).bind (Yields.pastMark rfl (Yields.pure.bind ?_))
  exact (mark_yields ":" line).bind (hbody.bind Yields.pure)

/-! ## §5. Choices and handlers. -/

/-- A choice without another branch. -/
theorem ifStatement_yields {line : Nat} {body : List Line} (hopen : Opens ts)
    (h : r.expression.Yields ts e (⟨.mark, ":", line⟩ :: us))
    (hbody : r.block.Yields us body (x :: vs)) (hx : x.continues = false) :
    (ifStatement r).Yields (⟨.keyword, "if", line⟩ :: ts) (.ifElse e body []) (x :: vs) := by
  have hotherwise : ∀ n, (branches r (n + 1)).Yields (x :: vs) [] (x :: vs) := fun n =>
    Yields.anyLine_bind fun _ => Yields.pastWord (Seen.continues_word hx (by decide))
      (Yields.pastWord (Seen.continues_word hx (by decide)) Yields.pure)
  refine (word_yields "if" line).bind ((namedExpression_yields hopen h rfl).bind ?_)
  refine (mark_yields ":" line).bind (hbody.bind ?_)
  exact Yields.room_bind ((hotherwise _).bind Yields.pure)

/-- A handler that binds no name. -/
theorem handler_plain {line : Nat} {body : List Line} (ht : t.startsPhrase = true)
    (h : r.expression.Yields (t :: ts) e (⟨.mark, ":", line⟩ :: us))
    (hbody : r.block.Yields us body vs) :
    (handler r false).Yields (⟨.keyword, "except", line⟩ :: t :: ts)
      (.mk (some e) none body line) vs := by
  refine Yields.lineHere_bind rfl ((word_yields "except" line).bind ?_)
  refine Yields.unlessMark (Seen.startsPhrase_mark ht (by decide) (by decide)) ?_
  refine Yields.pastMark (Seen.startsPhrase_mark ht (by decide) (by decide)) (h.bind ?_)
  refine Yields.pastWord rfl (Yields.pure.bind ((mark_yields ":" line).bind ?_))
  exact hbody.bind Yields.pure

/-- A handler that binds the error to a name. -/
theorem handler_named {line : Nat} {w : String} {body : List Line} (ht : t.startsPhrase = true)
    (hw : w.toList.all (·.toNat < 128) = true)
    (h : r.expression.Yields (t :: ts) e
      (⟨.keyword, "as", line⟩ :: ⟨.name, w, line⟩ :: ⟨.mark, ":", line⟩ :: us))
    (hbody : r.block.Yields us body vs) :
    (handler r false).Yields (⟨.keyword, "except", line⟩ :: t :: ts)
      (.mk (some e) (some w) body line) vs := by
  refine Yields.lineHere_bind rfl ((word_yields "except" line).bind ?_)
  refine Yields.unlessMark (Seen.startsPhrase_mark ht (by decide) (by decide)) ?_
  refine Yields.pastMark (Seen.startsPhrase_mark ht (by decide) (by decide)) (h.bind ?_)
  refine Yields.overWord ((name_yields hw line).map.bind ((mark_yields ":" line).bind ?_))
  exact hbody.bind Yields.pure

/-- No handler comes. -/
theorem handler_rejects {groups : Bool} (hx : x.isWord "except" = false) :
    (handler r groups).Rejects (x :: us) :=
  Rejects.anyLine_bind fun _ => (word_rejects hx).bind

/-- A block with handlers, the first of which names the errors it takes. -/
theorem tryStatement_yields {line line' : Nat} {body : List Line} {handlers : List Handler}
    (ht : t.text ≠ "*")
    (hbody : r.block.Yields ts body (⟨.keyword, "except", line'⟩ :: t :: us))
    (hhandlers : Repeats (handler r false) (⟨.keyword, "except", line'⟩ :: t :: us) handlers
      (x :: vs))
    (hne : handlers ≠ []) (hx : x.continues = false) :
    (tryStatement r).Yields (⟨.keyword, "try", line⟩ :: ⟨.mark, ":", line⟩ :: ts)
      (.tryBlock body handlers [] [] false) (x :: vs) := by
  have hotherwise : (otherwise r).Yields (x :: vs) [] (x :: vs) :=
    Yields.pastWord (Seen.continues_word hx (by decide)) Yields.pure
  have hfinally : (finally? r).Yields (x :: vs) none (x :: vs) :=
    Yields.pastWord (Seen.continues_word hx (by decide)) Yields.pure
  refine (word_yields "try" line).bind ((mark_yields ":" line).bind (hbody.bind ?_))
  refine Yields.unlessWord rfl (Yields.whenWord rfl (Yields.peekAt_one_bind fun u hu => ?_))
  rw [Token.text_of_seen hu, beq_eq_false_iff_ne.mpr ht]
  refine hhandlers.many.bind ?_
  rw [List.isEmpty_eq_false_iff.mpr hne]
  exact hotherwise.bind (hfinally.bind Yields.pure)

end Parse

end TagTemplate.Script
