/-
  TagTemplate.Proofs.Script.Suite
  ────────────────────────────────
  **GENERATED CODE IS READ BACK.**

  The statements that code is made of by rule: values that are computed,
  assigned, handed back and raised, functions of two parameters, choices
  without another branch, and blocks with handlers (`Sentence`, `Suite`).
  Each is written as lines and stands for a tree with the numbers of its
  lines.

    • `Sentence.reads`: a statement is read as its tree, one case for each
      kind of statement.
    • `parseTree_suite`: the text of a suite has the tree of the suite.
-/
import TagTemplate.Proofs.Script.Layout
import TagTemplate.Proofs.Script.Phrase
import TagTemplate.Proofs.Script.Statement

namespace TagTemplate.Script

/-! ## §1. Syntax. -/

/-- What a value is assigned to. -/
inductive Goal where
  /-- A name. -/
  | name (w : Ident)
  /-- A member. -/
  | member (e : Primary) (w : Ident)
  /-- All elements. -/
  | whole (e : Primary)

/-- Two parameters of a function. -/
structure Parameters where
  /-- The first one. -/
  first : Ident
  /-- The second one. -/
  second : Ident
  /-- The second one may be left out. -/
  spare : Bool
  /-- They are not the same. -/
  distinct : (first.text == second.text) = false

mutual

/-- A statement. -/
inductive Sentence where
  /-- Compute a value. -/
  | expr (e : Phrase)
  /-- Assign a value. -/
  | assign (goal : Goal) (e : Phrase)
  /-- Hand a value back. -/
  | ret (e : Phrase)
  /-- Raise the error that is being handled. -/
  | raise
  /-- Raise an error because of another one. -/
  | raiseFrom (e cause : Phrase)
  /-- A function. -/
  | define (isAsync : Bool) (name : Ident) (ps : Parameters) (body : Suite)
  /-- Statements under a condition. -/
  | when (test : Phrase) (body : Suite)
  /-- Statements with handlers of their errors. -/
  | guard (body : Suite) (handlers : Handlers)

/-- Some statements, one at least. -/
inductive Suite where
  /-- The last one. -/
  | one (s : Sentence)
  /-- One before others. -/
  | cons (s : Sentence) (rest : Suite)

/-- Some handlers, one at least. -/
inductive Handlers where
  /-- The last one. -/
  | one (type : Phrase) (name : Option Ident) (body : Suite)
  /-- One before others. -/
  | cons (type : Phrase) (name : Option Ident) (body : Suite) (rest : Handlers)

end

/-! ## §2. How it is written. -/

/-- A target as an operand. -/
def Goal.primary : Goal → Primary
  | .name w => .name w
  | .member e w => .member e w
  | .whole e => .whole e

/-- The parameters of a function. -/
def Parameters.row (ps : Parameters) : List Lexeme :=
  .name ps.first.text :: .mark "," :: .gap :: .name ps.second.text ::
    (if ps.spare then [.mark "=", .word "None"] else [])

/-- The first line of a function. -/
def definitionRow (isAsync : Bool) (name : Ident) (ps : Parameters) : List Lexeme :=
  (if isAsync then [.word "async", .gap] else []) ++
    .word "def" :: .gap :: .name name.text :: .mark "(" ::
      (ps.row ++ [.mark ")", .mark ":"])

/-- The first line of a handler. -/
def handlerRow (type : Phrase) (name : Option Ident) : List Lexeme :=
  .word "except" :: .gap :: (type.row ++
    match name with
    | some w => [.gap, .word "as", .gap, .name w.text, .mark ":"]
    | none => [.mark ":"])

mutual

/-- The lines of a statement. -/
def Sentence.codes : Sentence → List Code
  | .expr e => [.line e.row]
  | .assign goal e => [.line (goal.primary.row ++ .gap :: .mark "=" :: .gap :: e.row)]
  | .ret e => [.line (.word "return" :: .gap :: e.row)]
  | .raise => [.line [.word "raise"]]
  | .raiseFrom e cause =>
    [.line (.word "raise" :: .gap :: (e.row ++ .gap :: .word "from" :: .gap :: cause.row))]
  | .define isAsync name ps body => [.block (definitionRow isAsync name ps) body.codes]
  | .when test body => [.block (.word "if" :: .gap :: (test.row ++ [.mark ":"])) body.codes]
  | .guard body handlers => .block [.word "try", .mark ":"] body.codes :: handlers.codes

/-- The lines of some statements. -/
def Suite.codes : Suite → List Code
  | .one s => s.codes
  | .cons s rest => s.codes ++ rest.codes

/-- The lines of some handlers. -/
def Handlers.codes : Handlers → List Code
  | .one type name body => [.block (handlerRow type name) body.codes]
  | .cons type name body rest => .block (handlerRow type name) body.codes :: rest.codes

end

/-! ## §3. What it stands for. -/

/-- A target on a line. -/
def Goal.tree (line : Nat) : Goal → Expr
  | .name w => .name w.text .store
  | .member e w => .attribute (e.tree line) w.text
  | .whole e => .subscript (e.tree line) (.slice none none none)

/-- The parameters of a function. -/
def Parameters.trees (ps : Parameters) : List Param :=
  [.mk .ordinary ps.first.text none none,
    .mk .ordinary ps.second.text none (if ps.spare then some (.constant .none) else none)]

mutual

/-- The tree of a statement from a line on. -/
def Sentence.stmt (line : Nat) : Sentence → Stmt
  | .expr e => .expr (e.tree line)
  | .assign goal e => .assign [goal.tree line] (e.tree line)
  | .ret e => .ret (some (e.tree line))
  | .raise => .raiseError none none
  | .raiseFrom e cause => .raiseError (some (e.tree line)) (some (cause.tree line))
  | .define isAsync name ps body =>
    .funcDef isAsync name.text ps.trees (body.lines (line + 1)) [] none
  | .when test body => .ifElse (test.tree line) (body.lines (line + 1)) []
  | .guard body handlers =>
    .tryBlock (body.lines (line + 1)) (handlers.trees (line + (1 + Code.heights body.codes))) [] []
      false

/-- The trees of some statements, each with its line. -/
def Suite.lines (line : Nat) : Suite → List Line
  | .one s => [.mk line (s.stmt line)]
  | .cons s rest => .mk line (s.stmt line) :: rest.lines (line + Code.heights s.codes)

/-- The trees of some handlers. -/
def Handlers.trees (line : Nat) : Handlers → List Handler
  | .one type name body =>
    [.mk (some (type.tree line)) (name.map Ident.text) (body.lines (line + 1)) line]
  | .cons type name body rest =>
    .mk (some (type.tree line)) (name.map Ident.text) (body.lines (line + 1)) line ::
      rest.trees (line + (1 + Code.heights body.codes))

end

mutual

/-- The depth of rules that reads a statement. -/
def Sentence.depth : Sentence → Nat
  | .expr e | .ret e => e.depth
  | .assign goal e => max (goal.primary.depth + 2) e.depth
  | .raise => 0
  | .raiseFrom e cause => max e.depth cause.depth
  | .define _ _ _ body => max 2 (body.depth + 1)
  | .when test body => max test.depth (body.depth + 1)
  | .guard body handlers => max (body.depth + 1) handlers.depth

/-- The depth of rules that reads some statements. -/
def Suite.depth : Suite → Nat
  | .one s => s.depth
  | .cons s rest => max s.depth rest.depth

/-- The depth of rules that reads some handlers. -/
def Handlers.depth : Handlers → Nat
  | .one type _ body => max type.depth (body.depth + 1)
  | .cons type _ body rest => max (max type.depth (body.depth + 1)) rest.depth

end

/-! ## §4. Tokens of lines. -/

open Lexeme (tokens)
open Code (tokensAll)
open Parse

section Lines

variable {line : Nat} {row header : List Lexeme} {body cs ds : List Code} {us : List Seen}

theorem tokensAll_line :
    tokensAll line [.line row] ++ us = tokens line row ++ .layout .newline :: us := by
  simp [tokensAll, Code.tokens, rowTokens]

/-- The tokens of a block below its header, with what follows. -/
def below (line : Nat) (body : List Code) (us : List Seen) : List Seen :=
  .layout .newline :: .layout .indent :: (tokensAll line body ++ .layout .dedent :: us)

theorem tokensAll_block :
    tokensAll line (.block header body :: cs) ++ us
      = tokens line header
          ++ below (line + 1) body (tokensAll (line + (1 + Code.heights body)) cs ++ us) := by
  simp [tokensAll, Code.tokens, rowTokens, Code.height, below]

theorem tokens_mark (m : String) :
    tokens line (row ++ [Lexeme.mark m]) ++ us = tokens line row ++ ⟨.mark, m, line⟩ :: us := by
  rw [tokens_append, List.append_assoc]
  rfl

theorem tokensAll_append : tokensAll line (cs ++ ds)
    = tokensAll line cs ++ tokensAll (line + Code.heights cs) ds := by
  induction cs generalizing line with
  | nil => simp [tokensAll, Code.heights]
  | cons c cs ih =>
      rw [List.cons_append, tokensAll, ih, tokensAll, List.append_assoc, Code.heights,
        Nat.add_assoc]

end Lines

/-! ## §5. How it is read. -/

/-- A statement is read as its tree, whatever does not go on with it follows. -/
def Sentence.Reads (s : Sentence) : Prop :=
  ∀ (n line : Nat) (x : Seen) (us : List Seen), s.depth ≤ n → x.continues = false →
    (statement (rules n)).Yields (tokensAll line s.codes ++ x :: us) [.mk line (s.stmt line)]
      (x :: us)

/-- The statements of a block are read one after the other. -/
def Suite.Reads (b : Suite) : Prop :=
  ∀ (n line : Nat) (x : Seen) (us : List Seen), b.depth ≤ n → x.kind.isLayout = true →
    Repeats (statement (rules n)) (tokensAll line b.codes ++ x :: us)
      ((b.lines line).map fun l => [l]) (x :: us)

/-- Handlers are read one after the other. -/
def Handlers.Reads (hs : Handlers) : Prop :=
  ∀ (n line : Nat) (x : Seen) (us : List Seen), hs.depth ≤ n → x.continues = false →
    Repeats (handler (rules n) false) (tokensAll line hs.codes ++ x :: us) (hs.trees line) (x :: us)

section Simple

variable {n line : Nat} {ts us : List Seen} {s : Stmt}

/-- A statement that starts with an expression. -/
theorem statement_of_begins (hbegin : Begins line ts)
    (h : ∀ t us', ts = t :: us' → t.startsPhrase = true →
      (simpleStatement (rules n)).Yields ts s (.layout .newline :: us)) :
    (statement (rules n)).Yields ts [.mk line s] us := by
  obtain ⟨t, us', rfl, ht, rfl, _⟩ := hbegin
  exact statement_simple (Seen.startsPhrase.startsSimple ht) (h t us' rfl ht)

theorem Sentence.expr_reads (e : Phrase) : (Sentence.expr e).Reads := by
  intro n line x us hn _
  have hvalue := e.reads n line (.layout .newline) (x :: us) hn rfl
  rw [Sentence.codes, tokensAll_line]
  refine statement_of_begins (e.begins line _ _) fun t ts heq ht => ?_
  rw [heq] at hvalue ⊢
  exact simpleStatement_expr ht hvalue

theorem Goal.asTarget_tree (goal : Goal) (line : Nat) :
    asTarget .store (goal.primary.tree line) = some (goal.tree line) := by
  cases goal <;> rfl

theorem Sentence.assign_reads (goal : Goal) (e : Phrase) : (Sentence.assign goal e).Reads := by
  intro n line x us hn _
  rw [Sentence.depth, Nat.max_le] at hn
  have hvalue := e.reads n line (.layout .newline) (x :: us) hn.2 rfl
  obtain ⟨u, us', hstart, hu, _⟩ := e.begins line (.layout .newline) (x :: us)
  have hgoal := goal.primary.reads.plain n line ⟨.mark, "=", line⟩ (u :: us') hn.1 rfl
  have hrow : tokens line (goal.primary.row ++ .gap :: .mark "=" :: .gap :: e.row)
        ++ .layout .newline :: x :: us
      = tokens line goal.primary.row ++ ⟨.mark, "=", line⟩ :: u :: us' := by
    rw [tokens_append, List.append_assoc, ← hstart]
    rfl
  rw [hstart] at hvalue
  rw [Sentence.codes, tokensAll_line, hrow]
  refine statement_of_begins (goal.primary.starts line _ _).begins fun t ts heq ht => ?_
  rw [Phrase.row, heq] at hgoal
  rw [heq]
  exact simpleStatement_assign ht hgoal (goal.asTarget_tree line) hu hvalue

theorem Sentence.ret_reads (e : Phrase) : (Sentence.ret e).Reads := by
  intro n line x us hn _
  have hvalue := e.reads n line (.layout .newline) (x :: us) hn rfl
  obtain ⟨t, ts, hstart, ht, _⟩ := e.begins line (.layout .newline) (x :: us)
  rw [hstart] at hvalue
  rw [Sentence.codes, tokensAll_line]
  show Parse.Yields _ (⟨.keyword, "return", line⟩ :: (tokens line e.row ++ _)) _ _
  rw [hstart]
  exact statement_simple rfl (simpleStatement_return ht hvalue)

theorem Sentence.raise_reads : Sentence.raise.Reads := by
  intro n line x us _ _
  rw [Sentence.codes, tokensAll_line]
  exact statement_simple rfl (simpleStatement_raise (expression_rejects rfl n))

theorem Sentence.raiseFrom_reads (e cause : Phrase) : (Sentence.raiseFrom e cause).Reads := by
  intro n line x us hn _
  rw [Sentence.depth, Nat.max_le] at hn
  have hcause := cause.reads n line (.layout .newline) (x :: us) hn.2 rfl
  have herror := e.reads n line ⟨.keyword, "from", line⟩
    (tokens line cause.row ++ .layout .newline :: x :: us) hn.1 rfl
  have hrow : tokens line (e.row ++ .gap :: .word "from" :: .gap :: cause.row)
        ++ .layout .newline :: x :: us
      = tokens line e.row ++ ⟨.keyword, "from", line⟩ ::
          (tokens line cause.row ++ .layout .newline :: x :: us) := by
    rw [tokens_append, List.append_assoc]
    rfl
  rw [Sentence.codes, tokensAll_line]
  show Parse.Yields _ (⟨.keyword, "raise", line⟩ :: (tokens line (e.row ++ _) ++ _)) _ _
  rw [hrow]
  exact statement_simple rfl (simpleStatement_raiseFrom herror hcause)

end Simple

section Compound

variable {n line : Nat} {ts us : List Seen} {x : Seen}

/-- The block below a header. -/
theorem Suite.Reads.block {body : Suite} (h : body.Reads) (hn : body.depth + 1 ≤ n) :
    (rules n).block.Yields (below line body.codes us) (body.lines line) us := by
  obtain ⟨n, rfl⟩ : ∃ m, n = m + 1 := ⟨n - 1, by omega⟩
  have hbody := h n line (.layout .dedent) us (by omega) rfl
  have hflat : ((body.lines line).map fun l => [l]).flatten = body.lines line := by
    rw [← List.flatMap_def, List.flatMap_singleton']
  have hne : body.lines line ≠ [] := by
    cases body <;> rw [Suite.lines] <;> simp
  have hall := block_yields hbody (by rwa [hflat])
  rwa [hflat] at hall

/-- The parameters of a function. -/
theorem Parameters.yields (ps : Parameters) (hn : 2 ≤ n) :
    (params (rules n) true ")").Yields (tokens line ps.row ++ ⟨.mark, ")", line⟩ :: us) ps.trees
      (⟨.mark, ")", line⟩ :: us) := by
  obtain ⟨first, second, spare, _⟩ := ps
  cases spare with
  | false =>
      exact params_two first.ascii (param_plain second.ascii _ rfl rfl)
        (Nat.lt_succ_self _) rfl
  | true =>
      have hnone : (rules n).expression.Yields
          (⟨.keyword, "None", line⟩ :: ⟨.mark, ")", line⟩ :: us) (.constant .none)
          (⟨.mark, ")", line⟩ :: us) :=
        Primary.none_reads.plain n line ⟨.mark, ")", line⟩ us hn rfl
      exact params_two first.ascii (param_default second.ascii _ hnone)
        (length_lt _ [_, _] us) rfl

theorem Suite.Reads.define {body : Suite} (h : body.Reads) (isAsync : Bool) (name : Ident)
    (ps : Parameters) : (Sentence.define isAsync name ps body).Reads := by
  intro n line x us hn _
  rw [Sentence.depth, Nat.max_le] at hn
  have hbody : (rules n).block.Yields (below (line + 1) body.codes (x :: us))
      (body.lines (line + 1)) (x :: us) := h.block hn.2
  have hparams : (params (rules n) true ")").Yields
      (tokens line (ps.row ++ [Lexeme.mark ")", .mark ":"])
        ++ below (line + 1) body.codes (x :: us)) ps.trees
      (⟨.mark, ")", line⟩ :: ⟨.mark, ":", line⟩ :: below (line + 1) body.codes (x :: us)) := by
    rw [tokens_append, List.append_assoc]
    exact ps.yields hn.1
  rw [Sentence.codes, tokensAll_block]
  cases isAsync with
  | false =>
      refine statement_compound rfl (Yields.peek_bind fun t ht => ?_)
      rw [Token.kind_of_seen ht, Token.text_of_seen ht]
      exact function_yields name.ascii hparams hbody
  | true =>
      refine statement_compound rfl (Yields.peek_bind fun t ht => ?_)
      rw [Token.kind_of_seen ht, Token.text_of_seen ht]
      refine Yields.peekAt_one_bind fun t ht => ?_
      rw [Token.text_of_seen ht]
      exact function_async name.ascii hparams hbody

theorem Suite.Reads.when {body : Suite} (h : body.Reads) (test : Phrase) :
    (Sentence.when test body).Reads := by
  intro n line x us hn hx
  rw [Sentence.depth, Nat.max_le] at hn
  have hbody : (rules n).block.Yields (below (line + 1) body.codes (x :: us))
      (body.lines (line + 1)) (x :: us) := h.block hn.2
  have htest := test.reads n line ⟨.mark, ":", line⟩ (below (line + 1) body.codes (x :: us)) hn.1 rfl
  have hopen : Opens (tokens line test.row ++ ⟨.mark, ":", line⟩ ::
      below (line + 1) body.codes (x :: us)) := test.opens line _ rfl
  rw [← tokens_mark] at htest hopen
  rw [Sentence.codes, tokensAll_block]
  refine statement_compound rfl (Yields.peek_bind fun t ht => ?_)
  rw [Token.kind_of_seen ht, Token.text_of_seen ht]
  exact ifStatement_yields hopen htest hbody hx

/-- The tokens of a handler's first line. -/
theorem handlerRow_tokens (type : Phrase) (name : Option Ident) (line : Nat) (us : List Seen) :
    ∃ x ts, tokens line (handlerRow type name) ++ us
        = ⟨.keyword, "except", line⟩ :: (tokens line type.row ++ x :: ts) ∧ x.endsPhrase = true
      ∧ x :: ts = match name with
        | some w => ⟨.keyword, "as", line⟩ :: ⟨.name, w.text, line⟩ :: ⟨.mark, ":", line⟩ :: us
        | none => ⟨.mark, ":", line⟩ :: us := by
  cases name with
  | none =>
      refine ⟨⟨.mark, ":", line⟩, us, ?_, rfl, rfl⟩
      show _ :: (tokens line (type.row ++ [Lexeme.mark ":"]) ++ us) = _
      rw [tokens_mark]
  | some w =>
      refine ⟨⟨.keyword, "as", line⟩, ⟨.name, w.text, line⟩ :: ⟨.mark, ":", line⟩ :: us, ?_, rfl, rfl⟩
      show _ :: (tokens line (type.row ++ _) ++ us) = _
      rw [tokens_append, List.append_assoc]
      rfl

/-- A handler starts with its word and the class of errors. -/
theorem handlerRow_starts (type : Phrase) (name : Option Ident) (line : Nat) (us : List Seen) :
    ∃ t ts, tokens line (handlerRow type name) ++ us = ⟨.keyword, "except", line⟩ :: t :: ts
      ∧ t.text ≠ "*" := by
  obtain ⟨x, ts, hrow, _⟩ := handlerRow_tokens type name line us
  obtain ⟨t, ts, hstart, _, _, hstar⟩ := type.begins line x ts
  exact ⟨t, ts, by rw [hrow, hstart], hstar⟩

/-- One handler. -/
theorem Suite.Reads.handler {body : Suite} (h : body.Reads) (type : Phrase) (name : Option Ident)
    (hn : type.depth ≤ n) (hn' : body.depth + 1 ≤ n) :
    (handler (rules n) false).Yields
      (tokens line (handlerRow type name) ++ below (line + 1) body.codes us)
      (.mk (some (type.tree line)) (name.map Ident.text) (body.lines (line + 1)) line) us := by
  have hbody : (rules n).block.Yields (below (line + 1) body.codes us) (body.lines (line + 1)) us :=
    h.block hn'
  obtain ⟨x, ts, hrow, hx, hname⟩ := handlerRow_tokens type name line (below (line + 1) body.codes us)
  have htype := type.reads n line x ts hn hx
  obtain ⟨t, ts', hstart, ht, _⟩ := type.begins line x ts
  rw [hstart, hname] at htype
  rw [hrow, hstart]
  cases name with
  | none => exact handler_plain ht htype hbody
  | some w => exact handler_named ht w.ascii htype hbody

theorem length_below (front : List Seen) (body : List Code) :
    us.length < (front ++ below line body us).length := by
  unfold below
  simp only [List.length_cons, List.length_append]
  omega

/-- The last handler. -/
theorem Suite.Reads.one_handler {body : Suite} (h : body.Reads) (type : Phrase)
    (name : Option Ident) : (Handlers.one type name body).Reads := by
  intro n line x us hn hx
  rw [Handlers.depth, Nat.max_le] at hn
  have hstop : (Parse.handler (rules n) false).Rejects (x :: us) :=
    handler_rejects (Seen.continues_word hx (by decide))
  rw [Handlers.codes, tokensAll_block]
  exact .next (h.handler type name hn.1 hn.2) (length_below _ _) (.stop hstop)

/-- A handler before others. -/
theorem Suite.Reads.cons_handler {body : Suite} {rest : Handlers} (h : body.Reads)
    (hrest : rest.Reads) (type : Phrase) (name : Option Ident) :
    (Handlers.cons type name body rest).Reads := by
  intro n line x us hn hx
  rw [Handlers.depth, Nat.max_le, Nat.max_le] at hn
  have hmore := hrest n (line + (1 + Code.heights body.codes)) x us hn.2 hx
  rw [Handlers.codes, tokensAll_block]
  exact .next (h.handler type name hn.1.1 hn.1.2) (length_below _ _) hmore

theorem Handlers.starts (hs : Handlers) (line : Nat) (us : List Seen) :
    ∃ t ts, tokensAll line hs.codes ++ us = ⟨.keyword, "except", line⟩ :: t :: ts ∧ t.text ≠ "*" := by
  cases hs with
  | one type name body =>
      rw [Handlers.codes, tokensAll_block]
      exact handlerRow_starts type name line _
  | cons type name body rest =>
      rw [Handlers.codes, tokensAll_block]
      exact handlerRow_starts type name line _

theorem Suite.Reads.guard {body : Suite} {handlers : Handlers} (h : body.Reads)
    (hhandlers : handlers.Reads) : (Sentence.guard body handlers).Reads := by
  intro n line x us hn hx
  rw [Sentence.depth, Nat.max_le] at hn
  have hmore := hhandlers n (line + (1 + Code.heights body.codes)) x us hn.2 hx
  have hne : handlers.trees (line + (1 + Code.heights body.codes)) ≠ [] := by
    cases handlers <;> rw [Handlers.trees] <;> simp
  obtain ⟨t, ts, hstart, ht⟩ := handlers.starts (line + (1 + Code.heights body.codes)) (x :: us)
  have hbody : (rules n).block.Yields _ (body.lines (line + 1))
      (⟨.keyword, "except", line + (1 + Code.heights body.codes)⟩ :: t :: ts) := h.block hn.1
  rw [hstart] at hmore
  rw [Sentence.codes, tokensAll_block, hstart]
  refine statement_compound rfl (Yields.peek_bind fun u hu => ?_)
  rw [Token.kind_of_seen hu, Token.text_of_seen hu]
  exact tryStatement_yields ht hbody hmore hne hx

/-- No statement starts with a word that goes on with another one. -/
theorem Sentence.starts (s : Sentence) (line : Nat) (us : List Seen) :
    ∃ t ts, tokensAll line s.codes ++ us = t :: ts ∧ t.continues = false := by
  have hbegin : ∀ {ts : List Seen}, Begins line ts → ∃ t ts', ts = t :: ts' ∧ t.continues = false := by
    rintro ts ⟨t, ts', heq, ht, _⟩
    exact ⟨t, ts', heq, Seen.startsSimple_continues (Seen.startsPhrase.startsSimple ht)⟩
  cases s with
  | expr e =>
      rw [Sentence.codes, tokensAll_line]
      exact hbegin (e.begins line _ us)
  | assign goal e =>
      rw [Sentence.codes, tokensAll_line, tokens_append, List.append_assoc]
      exact hbegin (goal.primary.starts line ⟨.mark, "=", line⟩ _).begins
  | define isAsync name ps body =>
      rw [Sentence.codes, tokensAll_block]
      cases isAsync <;> exact ⟨_, _, rfl, rfl⟩
  | ret e | raise | raiseFrom e cause | when test body | guard body handlers =>
      exact ⟨_, _, rfl, rfl⟩

theorem Suite.starts (b : Suite) (line : Nat) (us : List Seen) :
    ∃ t ts, tokensAll line b.codes ++ us = t :: ts ∧ t.continues = false := by
  cases b with
  | one s => exact s.starts line us
  | cons s rest =>
      rw [Suite.codes, tokensAll_append, List.append_assoc]
      exact s.starts line _

theorem Sentence.length_lt (s : Sentence) (line : Nat) (us : List Seen) :
    us.length < (tokensAll line s.codes ++ us).length := by
  obtain ⟨t, ts, heq, _⟩ := s.starts line []
  rw [List.append_nil] at heq
  rw [heq, List.length_append, List.length_cons]
  omega

theorem Sentence.Reads.one {s : Sentence} (h : s.Reads) : (Suite.one s).Reads := by
  intro n line x us hn hx
  have hnothing : x.startsNothing = true := by rw [Seen.startsNothing, hx, Bool.true_or]
  have hstop : (statement (rules n)).Rejects (x :: us) :=
    statement_rejects hx (expression_rejects hnothing n)
  exact .next (h n line x us hn (Seen.continues_layout hx)) (s.length_lt line _) (.stop hstop)

theorem Sentence.Reads.cons {s : Sentence} {rest : Suite} (h : s.Reads) (hrest : rest.Reads) :
    (Suite.cons s rest).Reads := by
  intro n line x us hn hx
  rw [Suite.depth, Nat.max_le] at hn
  have hmore := hrest n (line + Code.heights s.codes) x us hn.2 hx
  obtain ⟨t, ts, hstart, ht⟩ := rest.starts (line + Code.heights s.codes) (x :: us)
  rw [hstart] at hmore
  rw [Suite.codes, tokensAll_append, List.append_assoc, hstart]
  exact .next (h n line t ts hn.1 ht) (s.length_lt line _) hmore

end Compound

mutual

/-- **A statement is read as its tree.** -/
theorem Sentence.reads : ∀ (s : Sentence), s.Reads
  | .expr e => Sentence.expr_reads e
  | .assign goal e => Sentence.assign_reads goal e
  | .ret e => Sentence.ret_reads e
  | .raise => Sentence.raise_reads
  | .raiseFrom e cause => Sentence.raiseFrom_reads e cause
  | .define isAsync name ps body => body.reads.define isAsync name ps
  | .when test body => body.reads.when test
  | .guard body handlers => body.reads.guard handlers.reads

theorem Suite.reads : ∀ (b : Suite), b.Reads
  | .one s => s.reads.one
  | .cons s rest => s.reads.cons rest.reads

theorem Handlers.reads : ∀ (hs : Handlers), hs.Reads
  | .one type name body => body.reads.one_handler type name
  | .cons type name body rest => body.reads.cons_handler rest.reads type name

end

/-! ## §6. Whole texts. -/

theorem Suite.codes_ne_nil (b : Suite) : b.codes ≠ [] := by
  intro h
  obtain ⟨t, ts, heq, _⟩ := b.starts 1 []
  rw [h] at heq
  cases heq

theorem program_yields (b : Suite) {depth : Nat} (hdepth : b.depth ≤ depth) :
    (program depth).Yields (tokensAll 1 b.codes ++ [Seen.layout .finish]) (b.lines 1) [] := by
  have hbody := b.reads depth 1 (.layout .finish) [] hdepth rfl
  have hflat : ((b.lines 1).map fun l => [l]).flatten = b.lines 1 := by
    rw [← List.flatMap_def, List.flatMap_singleton']
  have hall : (statements (rules depth)).Yields (tokensAll 1 b.codes ++ [Seen.layout .finish])
      ((b.lines 1).map fun l => [l]).flatten [.layout .finish] := hbody.many.bind Yields.pure
  rw [hflat] at hall
  exact hall.bind ((layout_yields .finish).bind Yields.pure)

/-- A text with the tokens of a program has its tree. -/
theorem parseTree_of_tokens {text : List Char} {ts : List Seen} {tree : Tree}
    (htokens : (tokensOf (preparedText text) 1).1.toList.map Token.seen = ts)
    (hprogram : ∀ depth, 16 ≤ depth → (program depth).Yields ts tree [])
    (hnull : '\x00' ∉ text) : parseTree (String.ofList text) = .ok tree := by
  obtain ⟨next, hrun, _⟩ := hprogram _ (Nat.le_add_left 16 (2 * (String.ofList text).length))
    (Source.ofText (preparedText text) 1) {} rfl htokens
  have hcontains : text.contains '\x00' = false :=
    Bool.eq_false_iff.mpr fun h => hnull (List.contains_iff_mem.mp h)
  unfold parseTree
  rw [String.toList_ofList, hcontains]
  show Source.run _ _ = _
  unfold Source.run
  rw [hrun]

/-- A text that is read as the lines of some statements has their tree. -/
theorem parseTree_of_prepared (b : Suite) {text : List Char} (hfine : Code.allFine 0 b.codes = true)
    (hdepth : b.depth ≤ 16) (hprepared : preparedText text = Code.texts 0 b.codes)
    (hnull : '\x00' ∉ text) : parseTree (String.ofList text) = .ok (b.lines 1) := by
  have htokens := tokensOf_texts hfine b.codes_ne_nil 1
  rw [← hprepared] at htokens
  exact parseTree_of_tokens htokens
    (fun depth hd => program_yields b (Nat.le_trans hdepth hd)) hnull

/-- **The text of generated code has its tree.** -/
theorem parseTree_suite (b : Suite) (hfine : Code.allFine 0 b.codes = true)
    (hdepth : b.depth ≤ 16) :
    parseTree (String.ofList (Code.texts 0 b.codes)) = .ok (b.lines 1) :=
  parseTree_of_prepared b hfine hdepth (preparedText_texts hfine b.codes_ne_nil)
    fun h => (texts_clean b.codes 0 hfine _ h).2 rfl

/-- **A single line needs no line end.** -/
theorem parseTree_line (s : Sentence) {row : List Lexeme} (hcodes : s.codes = [.line row])
    (hrow : isRow row = true) (hdepth : s.depth ≤ 16) :
    parseTree (String.ofList (Lexeme.spell row)) = .ok [.mk 1 (s.stmt 1)] := by
  have hcloses : Lexeme.closes [] row = true := by
    unfold isRow at hrow
    exact (Bool.and_eq_true _ _ ▸ hrow).2
  have hclean := closes_clean hcloses
  have hprepared : preparedText (Lexeme.spell row) = Code.texts 0 (Suite.one s).codes := by
    rw [Suite.codes, hcodes, preparedText_line fun a ha => ⟨(hclean a ha).1, (hclean a ha).2.1⟩]
    simp [Code.texts, Code.text, rowText]
  refine parseTree_of_prepared (.one s) ?_ hdepth hprepared fun h => (hclean _ h).2.2 rfl
  rw [Suite.codes, hcodes]
  simp [Code.allFine, Code.fine, hrow]

end TagTemplate.Script
