/-
  TagTemplate.Proofs.Code.Pasted
  ────────────────────────────────
  **WHAT AN EXPRESSION BECOMES BETWEEN THE BRACKETS OF A CALL.**

  The body of a tag that shows a value is put between the brackets of the
  innermost call as it is written:

      __kiln_append(__kiln.e(__kiln.f( body )))

  An expression is the only argument of that call.  Two bodies are an
  expression on their own and something else there:

      a, b        — is taken apart: each part is an argument
      a  # note   — hides the brackets behind it: the line has no tree

    • `codes_pasted` — the line as a row of lexemes around those of the body,
    • `parseTree_pasted` — the arguments of the innermost call,
    • `expressionLine_only` — a single expression, with and without a remark.
-/
import TagTemplate.Proofs.Code.Straight
import TagTemplate.Proofs.Script.RemarkedLine

namespace TagTemplate

open Text Script

namespace RenderFunction

open Script.Code (rowsAll)

/-! ## §1. The line around a body. -/

/-- The filter. -/
def filterName : Ident := ⟨"f", rfl, rfl⟩

/-- The call around the arguments. -/
def shownCall (filtered escaped : Bool) (es : Phrases) : Primary :=
  .call (ofState (writer escaped))
    (if filtered then .cons (.plain (.call (ofState filterName) es)) .nil else es)

/-- The line that appends what the calls make of some arguments. -/
def pastedSentence (filtered escaped : Bool) (es : Phrases) : Sentence :=
  .expr (.plain (.call (.name appendName) (.cons (.plain (shownCall filtered escaped es)) .nil)))

/-- The lexemes in front of the body. -/
def lead (filtered escaped : Bool) : List Lexeme :=
  .name "__kiln_append" :: .mark "(" :: .name "__kiln" :: .mark "." :: .name (writer escaped).text
    :: .mark "(" :: (if filtered then [.name "__kiln", .mark ".", .name "f", .mark "("] else [])

/-- The lexemes behind the body. -/
def closers (filtered : Bool) : List Lexeme :=
  if filtered then [.mark ")", .mark ")", .mark ")"] else [.mark ")", .mark ")"]

/-- Behind the body there are brackets to close. -/
theorem closers_open (filtered : Bool) : Lexeme.closes [] (closers filtered) = false := by
  cases filtered <;> decide

/-- **The line is the body between the brackets**, whatever the body is. -/
theorem expressionLine_chars (body : List Char) (filtered escaped : Bool) :
    Emitter.expressionLine (String.ofList body) filtered escaped
      = String.ofList (Lexeme.spell (lead filtered escaped)
          ++ (body ++ Lexeme.spell (closers filtered))) := by
  rw [← String.toList_inj]
  cases filtered <;> cases escaped <;>
    simp [Emitter.expressionLine, lead, closers, writer, Lexeme.spell, Lexeme.chars]

/-- The line that appends some arguments is a row around the row of these. -/
theorem codes_pasted (filtered escaped : Bool) (es : Phrases) :
    (pastedSentence filtered escaped es).codes
      = [.line (lead filtered escaped ++ (es.row ++ closers filtered))] := by
  cases filtered <;> cases escaped <;>
    simp [pastedSentence, shownCall, Sentence.codes, Phrase.row, Primary.row, Phrases.row, Phrases.tail,
      ofState, stateName, appendName, filterName, writer, lead, closers]

/-- The depth of the calls adds to that of the arguments. -/
theorem depth_pasted (filtered escaped : Bool) {es : Phrases} (h : es.depth ≤ 10) :
    (pastedSentence filtered escaped es).depth ≤ 16 := by
  cases filtered <;>
    simp [pastedSentence, shownCall, Sentence.depth, Phrase.depth, Primary.depth, Phrases.depth,
      ofState] <;>
    omega

/-! ## §2. The arguments of the innermost call. -/

/-- The tree of the line that appends what the calls make of some arguments. -/
def pastedTree (filtered escaped : Bool) (args : List Expr) : Tree :=
  let state (method : String) : Expr := .attribute (.name "__kiln" .load) method
  let inner : List Expr := if filtered then [.call (state "f") args []] else args
  [.mk 1 (.expr (.call (.name "__kiln_append" .load)
    [.call (state (if escaped then "e" else "s")) inner []] []))]

theorem stmt_pasted (filtered escaped : Bool) (es : Phrases) :
    [Line.mk 1 ((pastedSentence filtered escaped es).stmt 1)]
      = pastedTree filtered escaped (es.trees 1) := by
  cases filtered <;> cases escaped <;> rfl

/-- **What stands between the brackets is the arguments of the innermost call**, one for each of the
expressions with commas between them. -/
theorem parseTree_pasted (es : Phrases) (filtered escaped : Bool)
    (hrow : isRow (lead filtered escaped ++ (es.row ++ closers filtered)) = true)
    (hdepth : es.depth ≤ 10) :
    parseTree (Emitter.expressionLine (String.ofList (Lexeme.spell es.row)) filtered escaped)
      = .ok (pastedTree filtered escaped (es.trees 1)) := by
  have hspell : Lexeme.spell (lead filtered escaped ++ (es.row ++ closers filtered))
      = Lexeme.spell (lead filtered escaped)
        ++ (Lexeme.spell es.row ++ Lexeme.spell (closers filtered)) := by
    simp [Lexeme.spell]
  rw [expressionLine_chars, ← hspell, ← stmt_pasted]
  exact parseTree_line (pastedSentence filtered escaped es) (codes_pasted filtered escaped es) hrow
    (depth_pasted filtered escaped hdepth)

/-- Two names with a comma are two arguments. -/
example : parseTree (Emitter.expressionLine
      (String.ofList (Lexeme.spell [.name "a", .mark ",", .gap, .name "b"])) false true)
    = .ok (pastedTree false true [.name "a" .load, .name "b" .load]) :=
  parseTree_pasted (.cons (.plain (.name ⟨"a", by decide, by decide⟩))
    (.cons (.plain (.name ⟨"b", by decide, by decide⟩)) .nil)) false true rfl (by decide)

/-! ## §3. A remark in the body. -/

/-- **A body that ends in a remark leaves its line without a tree.** -/
theorem expressionLine_remark {row : List Lexeme} {filtered escaped : Bool}
    (hrow : isRow (lead filtered escaped ++ (row ++ closers filtered)) = true) (r : Block.Remark) :
    ∃ f, parseTree (Emitter.expressionLine (String.ofList (Lexeme.spell row ++ r.chars)) filtered escaped)
      = .error f := by
  -- the remark hides the closers, and with them the end of the call
  rw [← List.append_assoc] at hrow
  obtain ⟨f, hf⟩ := parseTree_open hrow (closers_open filtered) r
  refine ⟨f, ?_⟩
  rw [expressionLine_chars, ← hf]
  simp [Lexeme.spell]

/-! ## §4. THE THEOREM. -/

/-- **A single expression is the only argument of the innermost call; with a remark behind it, it is the
same expression on its own, and nothing between the brackets.** -/
theorem expressionLine_only (e : Phrase) (filtered escaped : Bool) (hbody : isRow e.row = true)
    (hrow : isRow (lead filtered escaped ++ (e.row ++ closers filtered)) = true)
    (hdepth : e.depth ≤ 10) :
    parseTree (Emitter.expressionLine (codeOf e) filtered escaped)
        = .ok (pastedTree filtered escaped [e.tree 1])
      ∧ ∀ r : Block.Remark, '\x00' ∉ r.text →
        parseTree (String.ofList (Lexeme.spell e.row ++ r.chars)) = .ok [.mk 1 (.expr (e.tree 1))]
          ∧ ∃ f, parseTree (Emitter.expressionLine
              (String.ofList (Lexeme.spell e.row ++ r.chars)) filtered escaped) = .error f := by
  have hone : (Phrases.cons e .nil).row = e.row := by
    rw [Phrases.row, Phrases.tail, List.append_nil]
  refine ⟨?_, fun r hnull => ⟨?_, expressionLine_remark hrow r⟩⟩
  · have hread := parseTree_pasted (.cons e .nil) filtered escaped (by rw [hone]; exact hrow)
      (by rw [Phrases.depth, Phrases.depth]; omega)
    rw [hone] at hread
    exact hread
  · exact parseTree_remark (.expr e) rfl hbody (Nat.le_trans hdepth (by decide)) r hnull

end RenderFunction

end TagTemplate
