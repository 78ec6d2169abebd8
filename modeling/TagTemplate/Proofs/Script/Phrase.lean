/-
  TagTemplate.Proofs.Script.Phrase
  ────────────────────────────────
  **THE EXPRESSIONS OF GENERATED CODE ARE READ BACK.**

  Code that is written by rule holds few kinds of expressions: names, strings
  and displays with members and calls behind them (`Primary`), and those with
  one operator (`Phrase`).  Each is written as a row of lexemes and stands for
  a tree.

    • `Primary.reads`: the parser goes on with its suffixes from the tree of a
      primary.  That is what the induction needs, as a suffix is read by the
      loop that has already read what it is behind.
    • `Phrase.reads`: an expression is read as its tree.

  Both hold for every depth of rules from that of the expression on, and
  before every token that goes on with no expression.
-/
import TagTemplate.Proofs.Script.Grammar

namespace TagTemplate.Script

/-! ## §1. Syntax. -/

/-- A name of ASCII characters that starts no statement of its own. -/
structure Ident where
  /-- The characters. -/
  text : String
  /-- They are those of a name. -/
  isWord : Lexeme.isWord text.toList = true
  /-- It is not the word of a choice by pattern. -/
  plain : (text == "match") = false

namespace Ident

variable (w : Ident)

theorem ascii : w.text.toList.all (·.toNat < 128) = true := by
  have hword := w.isWord
  unfold Lexeme.isWord at hword
  rw [Bool.and_eq_true, List.all_eq_true] at hword
  rw [List.all_eq_true]
  intro c hc
  exact (Bool.and_eq_true _ _ ▸ hword.2 c hc).2

theorem ne_star : w.text ≠ "*" := by
  intro h
  have hword := w.isWord
  rw [h] at hword
  exact absurd hword (by decide)

end Ident

/-- A whole number as it is written in code. -/
structure Numeral where
  /-- The digits. -/
  text : String
  /-- They are those of a number. -/
  isNumeral : Lexeme.isNumeral text.toList = true

theorem Numeral.ne_star (w : Numeral) : w.text ≠ "*" := by
  intro h
  have hnumeral := w.isNumeral
  rw [h] at hnumeral
  exact absurd hnumeral (by decide)

theorem Quotation.ne_star (q : Quotation) : String.ofList q.chars ≠ "*" := by
  intro h
  have hlength := congrArg (fun s => s.toList.length) h
  simp [Quotation.chars] at hlength

mutual

/-- An operand. -/
inductive Primary where
  /-- A name. -/
  | name (w : Ident)
  /-- The absent value. -/
  | none
  /-- A string. -/
  | text (q : Quotation)
  /-- A number. -/
  | number (w : Numeral)
  /-- A member. -/
  | member (e : Primary) (w : Ident)
  /-- An element. -/
  | item (e : Primary) (key : Phrase)
  /-- A call. -/
  | call (f : Primary) (args : Phrases)
  /-- All elements. -/
  | whole (e : Primary)
  /-- A list of one element. -/
  | list (e : Phrase)
  /-- An empty mapping. -/
  | empty
  /-- The entries of a mapping and more behind them. -/
  | extended (base : Primary) (es : Entries)

/-- An expression. -/
inductive Phrase where
  /-- An operand. -/
  | plain (e : Primary)
  /-- Wait for a value. -/
  | await (e : Primary)
  /-- The value is there. -/
  | present (e : Primary)
  /-- The first value that holds. -/
  | either (a b : Primary)

/-- Arguments. -/
inductive Phrases where
  /-- No argument. -/
  | nil
  /-- One more. -/
  | cons (e : Phrase) (es : Phrases)

/-- Entries of a mapping. -/
inductive Entries where
  /-- No entry. -/
  | nil
  /-- The entries of a mapping. -/
  | spread (e : Primary) (es : Entries)
  /-- A key and its value. -/
  | item (key value : Phrase) (es : Entries)

end

/-! ## §2. How it is written. -/

mutual

/-- The lexemes of an operand. -/
def Primary.row : Primary → List Lexeme
  | .name w => [.name w.text]
  | .none => [.word "None"]
  | .text q => [.text q]
  | .number w => [.number w.text]
  | .member e w => e.row ++ [.mark ".", .name w.text]
  | .item e key => e.row ++ (.mark "[" :: (key.row ++ [.mark "]"]))
  | .call f args => f.row ++ (.mark "(" :: (args.row ++ [.mark ")"]))
  | .whole e => e.row ++ [.mark "[", .mark ":", .mark "]"]
  | .list e => .mark "[" :: (e.row ++ [.mark "]"])
  | .empty => [.mark "\x7b", .mark "\x7d"]
  | .extended base es => .mark "\x7b" :: .mark "**" :: (base.row ++ (es.tail ++ [.mark "\x7d"]))

/-- The lexemes of an expression. -/
def Phrase.row : Phrase → List Lexeme
  | .plain e => e.row
  | .await e => .word "await" :: .gap :: e.row
  | .present e => e.row ++ [.gap, .word "is", .gap, .word "not", .gap, .word "None"]
  | .either a b => a.row ++ (.gap :: .word "or" :: .gap :: b.row)

/-- The lexemes of arguments. -/
def Phrases.row : Phrases → List Lexeme
  | .nil => []
  | .cons e es => e.row ++ es.tail

/-- The lexemes of arguments behind others. -/
def Phrases.tail : Phrases → List Lexeme
  | .nil => []
  | .cons e es => .mark "," :: .gap :: (e.row ++ es.tail)

/-- The lexemes of entries behind others. -/
def Entries.tail : Entries → List Lexeme
  | .nil => []
  | .spread e es => .mark "," :: .gap :: .mark "**" :: (e.row ++ es.tail)
  | .item key value es => .mark "," :: .gap :: (key.row ++ (.mark ":" :: .gap :: (value.row ++ es.tail)))

end

/-! ## §3. What it stands for. -/

mutual

/-- The tree of an operand on a line. -/
def Primary.tree (line : Nat) : Primary → Expr
  | .name w => .name w.text .load
  | .none => .constant .none
  | .text q => .constant (.str (String.ofList q.value) false)
  | .number w => .constant (numberValue w.text)
  | .member e w => .attribute (e.tree line) w.text
  | .item e key => .subscript (e.tree line) (key.tree line)
  | .call f args => .call (f.tree line) (args.trees line) []
  | .whole e => .subscript (e.tree line) (.slice Option.none Option.none Option.none)
  | .list e => .list [e.tree line]
  | .empty => .dict []
  | .extended base es => .dict (.spread (base.tree line) :: es.trees line)

/-- The tree of an expression on a line. -/
def Phrase.tree (line : Nat) : Phrase → Expr
  | .plain e => e.tree line
  | .await e => .await (e.tree line) line
  | .present e => .compare (e.tree line) [.mk .notSame (.constant .none)]
  | .either a b => .boolOp .disj [a.tree line, b.tree line]

/-- The trees of arguments. -/
def Phrases.trees (line : Nat) : Phrases → List Expr
  | .nil => []
  | .cons e es => e.tree line :: es.trees line

/-- The trees of entries. -/
def Entries.trees (line : Nat) : Entries → List Entry
  | .nil => []
  | .spread e es => .spread (e.tree line) :: es.trees line
  | .item key value es => .item (key.tree line) (value.tree line) :: es.trees line

end

mutual

/-- The depth of rules that reads an operand. -/
def Primary.depth : Primary → Nat
  | .name _ | .none | .text _ | .number _ | .empty => 0
  | .member e _ | .whole e => e.depth
  | .item e key => max e.depth key.depth
  | .call f args => max f.depth args.depth
  | .list e => e.depth
  | .extended base es => max (base.depth + 1) es.depth

/-- The depth of rules that reads an expression. -/
def Phrase.depth : Phrase → Nat
  | .plain e | .await e | .present e => e.depth + 2
  | .either a b => max a.depth b.depth + 2

/-- The depth of rules that reads arguments. -/
def Phrases.depth : Phrases → Nat
  | .nil => 0
  | .cons e es => max e.depth es.depth

/-- The depth of rules that reads entries. -/
def Entries.depth : Entries → Nat
  | .nil => 0
  | .spread e es => max (e.depth + 1) es.depth
  | .item key value es => max (max key.depth value.depth) es.depth

end

/-! ## §4. How it starts. -/

open Lexeme (tokens)
open Parse

theorem tokens_append (line : Nat) (a b : List Lexeme) :
    tokens line (a ++ b) = tokens line a ++ tokens line b := List.filterMap_append

/-- An operand starts here; the token behind its first one is its own or the given one. -/
def Starts (line : Nat) (x : Seen) (ts : List Seen) : Prop :=
  ∃ t u vs, ts = t :: u :: vs ∧ t.startsPrimary = true ∧ (t.line = line ∧ t.text ≠ "*")
    ∧ (t.kind = .name → u = x ∨ u.assigns = false)

/-- An expression starts here. -/
def Begins (line : Nat) (ts : List Seen) : Prop :=
  ∃ t us, ts = t :: us ∧ t.startsPhrase = true ∧ t.line = line ∧ t.text ≠ "*"

section Starts

variable {line : Nat} {x y : Seen} {ts : List Seen}

/-- What is behind a token that assigns nothing does not matter. -/
theorem Starts.before (h : Starts line y ts) (hy : y.assigns = false) : Starts line x ts := by
  obtain ⟨t, u, vs, heq, ht, hline, hname⟩ := h
  refine ⟨t, u, vs, heq, ht, hline, fun hk => .inr ?_⟩
  rcases hname hk with rfl | hu
  · exact hy
  · exact hu

theorem Starts.begins (h : Starts line x ts) : Begins line ts := by
  obtain ⟨t, u, vs, heq, ht, hline, _⟩ := h
  exact ⟨t, u :: vs, heq, by rw [Seen.startsPhrase, ht, Bool.true_or], hline⟩

theorem Starts.opens (h : Starts line x ts) (hx : x.assigns = false) : Opens ts := by
  obtain ⟨t, u, vs, heq, ht, _, hname⟩ := h
  refine ⟨t, u, vs, heq, by rw [Seen.startsPhrase, ht, Bool.true_or], fun hk => ?_⟩
  rcases hname hk with rfl | hu
  · exact hx
  · exact hu

end Starts

theorem Primary.starts : ∀ (e : Primary) (line : Nat) (x : Seen) (us : List Seen),
    Starts line x (tokens line e.row ++ x :: us)
  | .name w, _, x, us => by
      have hw : w.text ≠ "match" := by simpa using w.plain
      exact ⟨_, x, us, rfl, by simpa [Seen.startsPrimary] using hw, ⟨rfl, w.ne_star⟩,
        fun _ => .inl rfl⟩
  | .none, _, x, us => ⟨_, x, us, rfl, rfl, ⟨rfl, by simp⟩, fun _ => .inl rfl⟩
  | .text q, _, x, us => ⟨_, x, us, rfl, rfl, ⟨rfl, q.ne_star⟩, fun _ => .inl rfl⟩
  | .number w, _, x, us => ⟨_, x, us, rfl, rfl, ⟨rfl, w.ne_star⟩, fun _ => .inl rfl⟩
  | .empty, _, x, us => ⟨_, _, x :: us, rfl, rfl, ⟨rfl, by simp⟩, by simp⟩
  | .extended _ _, _, _, _ => ⟨_, _, _, rfl, rfl, ⟨rfl, by simp⟩, by simp⟩
  | .list e, line, x, us => by
      have hne : tokens line (e.row ++ [Lexeme.mark "]"]) ++ x :: us ≠ [] := by simp
      obtain ⟨u, vs, hu⟩ := List.exists_cons_of_ne_nil hne
      exact ⟨⟨.mark, "[", line⟩, u, vs, congrArg _ hu, rfl, ⟨rfl, by simp⟩, by simp⟩
  | .member e w, line, x, us => by
      rw [Primary.row, tokens_append, List.append_assoc]
      exact (e.starts line ⟨.mark, ".", line⟩ _).before rfl
  | .call f args, line, x, us => by
      rw [Primary.row, tokens_append, List.append_assoc]
      exact (f.starts line ⟨.mark, "(", line⟩ _).before rfl
  | .whole e, line, x, us => by
      rw [Primary.row, tokens_append, List.append_assoc]
      exact (e.starts line ⟨.mark, "[", line⟩ _).before rfl
  | .item e key, line, x, us => by
      rw [Primary.row, tokens_append, List.append_assoc]
      exact (e.starts line ⟨.mark, "[", line⟩ _).before rfl

/-- An expression starts with a token that starts one. -/
theorem Phrase.opens (e : Phrase) (line : Nat) {x : Seen} (us : List Seen) (hx : x.assigns = false) :
    Opens (tokens line e.row ++ x :: us) := by
  cases e with
  | plain e => exact (e.starts line x us).opens hx
  | await e =>
      obtain ⟨t, u, ws, heq, _⟩ := e.starts line x us
      exact ⟨⟨.keyword, "await", line⟩, t, u :: ws, congrArg _ heq, rfl, fun h => nomatch h⟩
  | present e =>
      rw [Phrase.row, tokens_append, List.append_assoc]
      exact (e.starts line ⟨.keyword, "is", line⟩ _).opens rfl
  | either a b =>
      rw [Phrase.row, tokens_append, List.append_assoc]
      exact (a.starts line ⟨.keyword, "or", line⟩ _).opens rfl

theorem Phrase.begins (e : Phrase) (line : Nat) (x : Seen) (us : List Seen) :
    Begins line (tokens line e.row ++ x :: us) := by
  cases e with
  | plain e => exact (e.starts line x us).begins
  | await e => exact ⟨⟨.keyword, "await", line⟩, _, rfl, rfl, rfl, by simp⟩
  | present e =>
      rw [Phrase.row, tokens_append, List.append_assoc]
      exact (e.starts line ⟨.keyword, "is", line⟩ _).begins
  | either a b =>
      rw [Phrase.row, tokens_append, List.append_assoc]
      exact (a.starts line ⟨.keyword, "or", line⟩ _).begins

/-! ## §5. How it is read. -/

/-- From the tree of an operand on the parser goes on as the tokens behind it say. -/
def Primary.Reads (e : Primary) : Prop :=
  ∀ (n line : Nat) (x : Seen) (us vs : List Seen) (e' : Expr), e.depth ≤ n → x.kind ≠ .string →
    Loops (suffix (rules n)) (e.tree line) (x :: us) e' vs →
      (primary (rules n)).Yields (tokens line e.row ++ x :: us) e' vs

/-- An expression is read as its tree. -/
def Phrase.Reads (e : Phrase) : Prop :=
  ∀ (n line : Nat) (x : Seen) (us : List Seen), e.depth ≤ n → x.endsPhrase = true →
    (rules n).expression.Yields (tokens line e.row ++ x :: us) (e.tree line) (x :: us)

/-- Arguments behind others are read one after the other. -/
def Phrases.Reads (es : Phrases) : Prop :=
  ∀ (n line first : Nat) (args : List Expr) (us : List Seen), es.depth ≤ n →
    Loops (fun a => do mark ","; if ← nextIs ")" then reject else argument (rules n) first a)
      { args } (tokens line es.tail ++ ⟨.mark, ")", line⟩ :: us)
      { args := (es.trees line).reverse ++ args } (⟨.mark, ")", line⟩ :: us)

/-- Entries behind others are read one after the other. -/
def Entries.Reads (es : Entries) : Prop :=
  ∀ (n line : Nat) (us : List Seen), es.depth ≤ n →
    Parse.Separated (entry (rules n)) (tokens line es.tail ++ ⟨.mark, "\x7d", line⟩ :: us)
      (es.trees line) (⟨.mark, "\x7d", line⟩ :: us)

section Operands

variable {n line : Nat} {x : Seen} {us vs : List Seen} {e f : Primary}

/-- An operand that nothing goes on with is read as its tree. -/
theorem Primary.Reads.yields (h : e.Reads) (hn : e.depth ≤ n) (hx : x.endsOperand = true) :
    (primary (rules n)).Yields (tokens line e.row ++ x :: us) (e.tree line) (x :: us) :=
  h n line x us _ _ hn (Seen.avoids_iff.mp hx).1 (Loops.stop (suffix_rejects hx))

/-- The rules of the next depth read it as an operand of operators. -/
theorem Primary.Reads.factor (h : e.Reads) (hn : e.depth + 1 ≤ n) (hx : x.endsOperand = true) :
    (rules n).factor.Yields (tokens line e.row ++ x :: us) (e.tree line) (x :: us) := by
  obtain ⟨n, rfl⟩ : ∃ m, n = m + 1 := ⟨n - 1, by omega⟩
  have hyields : (primary (rules n)).Yields (tokens line e.row ++ x :: us) (e.tree line) (x :: us) :=
    h.yields (by omega) hx
  obtain ⟨t, u, vs, heq, ht, _⟩ := e.starts line x us
  rw [heq] at hyields ⊢
  exact factor_yields (by rw [Seen.startsPhrase, ht, Bool.true_or]) (awaited_yields ht hyields) hx

/-- What is left behind a token and some others is shorter. -/
theorem length_lt (a : Seen) (pre rest : List Seen) : rest.length < (a :: (pre ++ rest)).length := by
  rw [List.length_cons, List.length_append]
  omega

theorem Primary.Reads.member (h : e.Reads) (w : Ident) : (Primary.member e w).Reads := by
  intro n line x us vs e' hn _ hloop
  rw [Primary.row, tokens_append, List.append_assoc]
  refine h n line ⟨.mark, ".", line⟩ _ vs e' hn nofun ?_
  exact Loops.next (suffix_member w.ascii) (length_lt _ [_] _) hloop

theorem Primary.Reads.whole (h : e.Reads) : (Primary.whole e).Reads := by
  intro n line x us vs e' hn _ hloop
  rw [Primary.row, tokens_append, List.append_assoc]
  refine h n line ⟨.mark, "[", line⟩ _ vs e' hn nofun ?_
  refine Loops.next (suffix_whole fun _ _ hx => expression_rejects hx n) ?_ hloop
  exact length_lt _ [_, _] _

theorem Phrase.isStarred_tree (e : Phrase) (line : Nat) : isStarred (e.tree line) = false := by
  cases e with
  | plain e => cases e <;> rfl
  | _ => rfl

theorem Primary.Reads.item {key : Phrase} (h : e.Reads) (hkey : key.Reads) :
    (Primary.item e key).Reads := by
  intro n line x us vs e' hn _ hloop
  rw [Primary.depth, Nat.max_le] at hn
  have hrow : tokens line (Primary.item e key).row ++ x :: us
      = tokens line e.row ++ ⟨.mark, "[", line⟩ ::
          (tokens line key.row ++ ⟨.mark, "]", line⟩ :: x :: us) := by
    rw [Primary.row, tokens_append, List.append_assoc]
    show _ ++ _ :: (tokens line (key.row ++ [Lexeme.mark "]"]) ++ x :: us) = _
    rw [tokens_append, List.append_assoc]
    rfl
  rw [hrow]
  refine h n line ⟨.mark, "[", line⟩ _ vs e' hn.1 nofun ?_
  have hkey := hkey n line ⟨.mark, "]", line⟩ (x :: us) hn.2 rfl
  refine Loops.next (suffix_item (key.opens line _ rfl) hkey (key.isStarred_tree line)) ?_ hloop
  simp only [List.length_cons, List.length_append]
  omega

/-- A call is read if its arguments are. -/
theorem Primary.Reads.call {args : Phrases} (h : f.Reads)
    (hargs : ∀ (n line : Nat) (us : List Seen), args.depth ≤ n →
      (arguments (rules n)).Yields (tokens line args.row ++ ⟨.mark, ")", line⟩ :: us)
        (args.trees line, []) (⟨.mark, ")", line⟩ :: us)) :
    (Primary.call f args).Reads := by
  intro n line x us vs e' hn _ hloop
  rw [Primary.depth, Nat.max_le] at hn
  have hrow : tokens line (Primary.call f args).row ++ x :: us
      = tokens line f.row ++ ⟨.mark, "(", line⟩ ::
          (tokens line (args.row ++ [Lexeme.mark ")"]) ++ x :: us) := by
    rw [Primary.row, tokens_append, List.append_assoc]
    rfl
  have hclose : tokens line (args.row ++ [Lexeme.mark ")"]) ++ x :: us
      = tokens line args.row ++ ⟨.mark, ")", line⟩ :: x :: us := by
    rw [tokens_append, List.append_assoc]
    rfl
  have hargs := hargs n line (x :: us) hn.2
  rw [← hclose] at hargs
  rw [hrow]
  refine h n line ⟨.mark, "(", line⟩ _ vs e' hn.1 nofun ?_
  exact Loops.next (suffix_call hargs) (length_lt _ _ _) hloop

theorem Phrase.Reads.list {e : Phrase} (h : e.Reads) : (Primary.list e).Reads := by
  intro n line x us vs e' hn _ hloop
  have hrow : tokens line (Primary.list e).row ++ x :: us
      = ⟨.mark, "[", line⟩ :: (tokens line e.row ++ ⟨.mark, "]", line⟩ :: x :: us) := by
    show ⟨.mark, "[", line⟩ :: (tokens line (e.row ++ [Lexeme.mark "]"]) ++ x :: us) = _
    rw [tokens_append, List.append_assoc]
    rfl
  rw [hrow]
  exact primary_yields (atom_list (e.opens line _ rfl) (h n line _ _ hn rfl)) hloop

end Operands

section Lists

variable {n : Nat}

/-- What comes behind an argument. -/
theorem Phrases.tail_ends (es : Phrases) (line : Nat) (us : List Seen) :
    ∃ y ys, tokens line es.tail ++ ⟨.mark, ")", line⟩ :: us = y :: ys ∧ y.endsPhrase = true
      ∧ y.assigns = false := by
  cases es with
  | nil => exact ⟨_, _, rfl, rfl, rfl⟩
  | cons e es => exact ⟨_, _, rfl, rfl, rfl⟩

/-- What comes behind an entry. -/
theorem Entries.tail_ends (es : Entries) (line : Nat) (us : List Seen) :
    ∃ y ys, tokens line es.tail ++ ⟨.mark, "\x7d", line⟩ :: us = y :: ys ∧ y.endsPhrase = true
      ∧ y.assigns = false := by
  cases es with
  | nil => exact ⟨_, _, rfl, rfl, rfl⟩
  | spread e es => exact ⟨_, _, rfl, rfl, rfl⟩
  | item key value es => exact ⟨_, _, rfl, rfl, rfl⟩

/-- All arguments of a call. -/
theorem Phrases.Reads.arguments {e : Phrase} {es : Phrases} (he : e.Reads) (hes : es.Reads)
    (line : Nat) (us : List Seen) (hn : (Phrases.cons e es).depth ≤ n) :
    (arguments (rules n)).Yields
      (tokens line (Phrases.cons e es).row ++ ⟨.mark, ")", line⟩ :: us)
      ((Phrases.cons e es).trees line, []) (⟨.mark, ")", line⟩ :: us) := by
  rw [Phrases.depth, Nat.max_le] at hn
  have hmore := fun first => hes n line first [e.tree line] us hn.2
  obtain ⟨y, ys, htail, hy, hassign⟩ := es.tail_ends line us
  rw [htail] at hmore
  rw [Phrases.row, tokens_append, List.append_assoc, htail]
  have hall := arguments_cons (e.opens line ys hassign) (he n line y ys hn.1 hy) hy
    (Bool.or_eq_false_iff.mp hassign).1 hmore
  rwa [List.reverse_append, List.reverse_reverse] at hall

theorem Phrases.Reads.cons {e : Phrase} {es : Phrases} (he : e.Reads) (hes : es.Reads) :
    (Phrases.cons e es).Reads := by
  intro n line first args us hn
  rw [Phrases.depth, Nat.max_le] at hn
  have hmore := hes n line first (e.tree line :: args) us hn.2
  obtain ⟨y, ys, htail, hy, hassign⟩ := es.tail_ends line us
  have hrow : tokens line (Phrases.cons e es).tail ++ ⟨.mark, ")", line⟩ :: us
      = ⟨.mark, ",", line⟩ :: (tokens line e.row ++ y :: ys) := by
    show _ :: (tokens line (e.row ++ es.tail) ++ _) = _
    rw [tokens_append, List.append_assoc, htail]
  rw [htail] at hmore
  rw [hrow, Phrases.trees, List.reverse_cons, List.append_assoc]
  refine Loops.next ?_ (length_lt _ _ _) hmore
  exact nextArgument_yields first args (e.opens line ys hassign) (he n line y ys hn.1 hy) hy
    (Bool.or_eq_false_iff.mp hassign).1

theorem Entries.Reads.spread {e : Primary} {es : Entries} (he : e.Reads) (hes : es.Reads) :
    (Entries.spread e es).Reads := by
  intro n line us hn
  rw [Entries.depth, Nat.max_le] at hn
  have hmore := hes n line us hn.2
  obtain ⟨y, ys, htail, hy, _⟩ := es.tail_ends line us
  have hy := Seen.endsComparison.endsOperand (Seen.endsPhrase.endsComparison hy)
  have hrow : tokens line (Entries.spread e es).tail ++ ⟨.mark, "\x7d", line⟩ :: us
      = ⟨.mark, ",", line⟩ :: ⟨.mark, "**", line⟩ :: (tokens line e.row ++ y :: ys) := by
    show _ :: _ :: (tokens line (e.row ++ es.tail) ++ _) = _
    rw [tokens_append, List.append_assoc, htail]
  rw [htail] at hmore
  rw [hrow, Entries.trees]
  exact .cons (entry_spread (he.factor hn.1 hy) hy) (Nat.le_of_lt (length_lt _ _ _)) hmore

theorem Entries.Reads.item {key value : Phrase} {es : Entries} (hkey : key.Reads)
    (hvalue : value.Reads) (hes : es.Reads) : (Entries.item key value es).Reads := by
  intro n line us hn
  rw [Entries.depth, Nat.max_le, Nat.max_le] at hn
  have hmore := hes n line us hn.2
  obtain ⟨y, ys, htail, hy, hassign⟩ := es.tail_ends line us
  have hrow : tokens line (Entries.item key value es).tail ++ ⟨.mark, "\x7d", line⟩ :: us
      = ⟨.mark, ",", line⟩ :: (tokens line key.row ++ ⟨.mark, ":", line⟩ ::
          (tokens line value.row ++ y :: ys)) := by
    show _ :: (tokens line (key.row ++ (Lexeme.mark ":" :: .gap :: (value.row ++ es.tail))) ++ _) = _
    rw [tokens_append, List.append_assoc]
    show _ :: (_ ++ _ :: (tokens line (value.row ++ es.tail) ++ _)) = _
    rw [tokens_append, List.append_assoc, htail]
  have hlength : (y :: ys).length
      ≤ (tokens line key.row ++ ⟨.mark, ":", line⟩ :: (tokens line value.row ++ y :: ys)).length := by
    rw [List.length_append]
    exact Nat.le_add_left_of_le (Nat.le_of_lt (length_lt _ _ _))
  have hvalue := hvalue n line y ys hn.1.2 hy
  rw [htail] at hmore
  rw [hrow, Entries.trees]
  obtain ⟨t, u, ws, hstart, ht, _⟩ := value.opens line ys hassign
  rw [hstart] at hvalue hlength ⊢
  exact .cons (entry_item (key.opens line _ rfl) (hkey n line _ _ hn.1.1 rfl) ht hvalue) hlength hmore

/-- A mapping is read if its entries are. -/
theorem Entries.Reads.extended {base : Primary} {es : Entries} (hbase : base.Reads)
    (hes : es.Reads) : (Primary.extended base es).Reads := by
  intro n line x us vs e' hn _ hloop
  rw [Primary.depth, Nat.max_le] at hn
  have hmore := hes n line (x :: us) hn.2
  obtain ⟨y, ys, htail, hy, _⟩ := es.tail_ends line (x :: us)
  have hy := Seen.endsComparison.endsOperand (Seen.endsPhrase.endsComparison hy)
  have hrow : tokens line (Primary.extended base es).row ++ x :: us
      = ⟨.mark, "\x7b", line⟩ :: ⟨.mark, "**", line⟩ :: (tokens line base.row ++ y :: ys) := by
    show _ :: _ :: (tokens line (base.row ++ (es.tail ++ [Lexeme.mark "\x7d"])) ++ x :: us) = _
    rw [tokens_append, tokens_append, List.append_assoc, List.append_assoc, ← htail]
    rfl
  rw [htail] at hmore
  rw [hrow]
  exact primary_yields (atom_extended (hbase.factor hn.1 hy) hy hmore) hloop

end Lists

section Operators

variable {n line : Nat} {x : Seen} {us vs ts : List Seen} {e a b : Primary}

/-- A comparison that no word goes on with is read as an expression. -/
theorem expression_of_comparisons {e : Expr} (hbegin : Begins line ts)
    (h : (comparisons (rules n)).Yields ts e (x :: us)) (hx : x.endsPhrase = true) :
    (rules (n + 1)).expression.Yields ts e (x :: us) := by
  obtain ⟨t, ts, rfl, ht, _⟩ := hbegin
  exact expression_yields ht (disjunction_yields ht h hx) hx

theorem Primary.none_reads : Primary.none.Reads :=
  fun _ _ _ _ _ _ _ _ hloop => primary_yields atom_none hloop

theorem Primary.Reads.plain (h : e.Reads) : (Phrase.plain e).Reads := by
  intro n line x us hn hx
  rw [Phrase.depth] at hn
  obtain ⟨n, rfl⟩ : ∃ m, n = m + 1 := ⟨n - 1, by omega⟩
  have hcompare := Seen.endsPhrase.endsComparison hx
  have hoperand := Seen.endsComparison.endsOperand hcompare
  exact expression_of_comparisons (e.starts line x us).begins
    (comparisons_yields (h.factor (by omega) hoperand) hcompare) hx

theorem Primary.Reads.await (h : e.Reads) : (Phrase.await e).Reads := by
  intro n line x us hn hx
  rw [Phrase.depth] at hn
  obtain ⟨n, rfl⟩ : ∃ m, n = m + 2 := ⟨n - 2, by omega⟩
  have hcompare := Seen.endsPhrase.endsComparison hx
  have hoperand := Seen.endsComparison.endsOperand hcompare
  have hfactor : (rules (n + 1)).factor.Yields
      (⟨.keyword, "await", line⟩ :: (tokens line e.row ++ x :: us)) (.await (e.tree line) line)
      (x :: us) :=
    factor_yields rfl (awaited_await (h.yields (by omega) hoperand)) hoperand
  exact expression_of_comparisons ⟨_, _, rfl, rfl, rfl, by simp⟩ (comparisons_yields hfactor hcompare) hx

theorem Primary.Reads.present (h : e.Reads) : (Phrase.present e).Reads := by
  intro n line x us hn hx
  rw [Phrase.depth] at hn
  obtain ⟨n, rfl⟩ : ∃ m, n = m + 1 := ⟨n - 1, by omega⟩
  have hcompare := Seen.endsPhrase.endsComparison hx
  have hoperand := Seen.endsComparison.endsOperand hcompare
  have hnone : (rules n).factor.Yields (⟨.keyword, "None", line⟩ :: x :: us)
      (.constant .none) (x :: us) :=
    Primary.none_reads.factor (by rw [Primary.depth]; omega) hoperand
  rw [Phrase.row, tokens_append, List.append_assoc]
  exact expression_of_comparisons (e.starts line ⟨.keyword, "is", line⟩ _).begins
    (comparisons_notSame (h.factor (by omega) rfl) hnone hcompare (length_lt _ [x] us)) hx

/-- Each side of `or` is an operand of it. -/
theorem Primary.Reads.conjunction (h : e.Reads) (hn : e.depth + 1 ≤ n)
    (hx : x.endsComparison = true) (hand : x.isWord "and" = false) :
    (wordChain "and" .conj (inversion (rules n))).Yields (tokens line e.row ++ x :: us)
      (e.tree line) (x :: us) := by
  have hcompare : (comparisons (rules n)).Yields (tokens line e.row ++ x :: us) (e.tree line) (x :: us) :=
    comparisons_yields (h.factor hn (Seen.endsComparison.endsOperand hx)) hx
  obtain ⟨t, ts, heq, ht, _⟩ := (e.starts line x us).begins
  rw [heq] at hcompare ⊢
  exact conjunction_yields ht hcompare hand

theorem Primary.Reads.either (ha : a.Reads) (hb : b.Reads) : (Phrase.either a b).Reads := by
  intro n line x us hn hx
  rw [Phrase.depth] at hn
  obtain ⟨n, rfl⟩ : ∃ m, n = m + 1 := ⟨n - 1, by omega⟩
  have hleft : (wordChain "and" .conj (inversion (rules n))).Yields
      (tokens line a.row ++ ⟨.keyword, "or", line⟩ :: (tokens line b.row ++ x :: us))
      (a.tree line) _ := ha.conjunction (by omega) rfl rfl
  have hright : (wordChain "and" .conj (inversion (rules n))).Yields
      (tokens line b.row ++ x :: us) (b.tree line) (x :: us) :=
    hb.conjunction (by omega) (Seen.endsPhrase.endsComparison hx) (Seen.avoids_word hx (by decide))
  have hlength : us.length < (tokens line b.row ++ x :: us).length := by
    rw [List.length_append, List.length_cons]
    omega
  have hboth : (disjunction (rules n)).Yields
      (tokens line a.row ++ ⟨.keyword, "or", line⟩ :: (tokens line b.row ++ x :: us))
      (.boolOp .disj [a.tree line, b.tree line]) (x :: us) :=
    wordChain_two hleft hright (Seen.avoids_word hx (by decide)) hlength
  obtain ⟨t, ts, heq, ht, _⟩ :=
    (a.starts line ⟨.keyword, "or", line⟩ (tokens line b.row ++ x :: us)).begins
  rw [Phrase.row, tokens_append, List.append_assoc]
  show Parse.Yields _
    (tokens line a.row ++ ⟨.keyword, "or", line⟩ :: (tokens line b.row ++ x :: us)) _ _
  rw [heq] at hboth ⊢
  exact expression_yields ht hboth hx

end Operators

mutual

/-- **An operand is read as its tree.** -/
theorem Primary.reads : ∀ (e : Primary), e.Reads
  | .name w => fun _ _ _ _ _ _ _ _ hloop => primary_yields (atom_name w.ascii) hloop
  | .none => Primary.none_reads
  | .text q => fun _ _ _ _ _ _ _ hx hloop => primary_yields (atom_text q hx) hloop
  | .number _ => fun _ _ _ _ _ _ _ _ hloop => primary_yields atom_number hloop
  | .empty => fun _ _ _ _ _ _ _ _ hloop => primary_yields atom_empty hloop
  | .member e w => e.reads.member w
  | .whole e => e.reads.whole
  | .item e key => e.reads.item key.reads
  | .call f .nil => f.reads.call fun _ _ _ _ => arguments_nil
  | .call f (.cons e es) => f.reads.call fun _ line us hn =>
      Phrases.Reads.arguments e.reads es.reads line us hn
  | .list e => e.reads.list
  | .extended base es => es.reads.extended base.reads

/-- **An expression is read as its tree.** -/
theorem Phrase.reads : ∀ (e : Phrase), e.Reads
  | .plain e => e.reads.plain
  | .await e => e.reads.await
  | .present e => e.reads.present
  | .either a b => a.reads.either b.reads

theorem Phrases.reads : ∀ (es : Phrases), es.Reads
  | .nil => fun _ _ _ _ _ _ => Loops.stop (mark_rejects rfl).bind
  | .cons e es => es.reads.cons e.reads

theorem Entries.reads : ∀ (es : Entries), es.Reads
  | .nil => fun _ _ _ _ => .nil rfl
  | .spread e es => es.reads.spread e.reads
  | .item key value es => es.reads.item key.reads value.reads

end

end TagTemplate.Script
