/-
  TagTemplate.Proofs.Render.Steps
  ────────────────────────────────
  **WHAT STEPS DO.**

  A step appends texts to the output, or records a line.  What it appends may
  depend on what was there when the render began, and on nothing else.

    • `writes_literal`, `writes_mark`, `writes_value`: the steps.
    • `proceeds_steps`: steps in a row.
-/
import TagTemplate.Proofs.Code.Straight
import TagTemplate.Proofs.Render.Start

namespace TagTemplate

open Script Machine

namespace Machine

/-! ## §1. Primitives. -/

section Primitives

variable (m : Machine) (v : Value)

theorem callPrimitive_plain : Ends (callPrimitive .plain [v] []) m (.str (shown m v)) m := by
  show Ends (toText [v] []) m _ m
  unfold toText
  simp [textParams, Ends]
  rfl

theorem argumentsFor_one (path name : String) :
    Ends (argumentsFor path [name] 1 [v] []) m [v] m := by
  unfold argumentsFor bindArguments Closure.paramsOf
  simp [Ends, paramKind, paramName, bindKeywords]
  rfl

/-- What escapes makes a value its escaped form. -/
theorem callPrimitive_html : Ends (callPrimitive .html [v] []) m (.str (escapedText m v)) m := by
  have happly : Ends (applyPrimitive .html v) m (.str (escapedText m v)) m := by
    unfold applyPrimitive escapedText
    cases v with
    | ref id =>
        have hcell : Ends (cellOf? (.ref id)) m (some (m.heap.getD id default)) m := rfl
        refine Ends.bind .get (Ends.bind hcell ?_)
        dsimp only
        cases m.heap.getD id default <;> rfl
    | _ => exact Ends.bind .get (Ends.bind .pure .pure)
  exact Ends.bind (argumentsFor_one m v _ _) happly

end Primitives

end Machine

namespace RenderFunction

/-! ## §2. Steps. -/

/-- The books of a render are open with an output of texts, and everything that was there before is
still there. -/
structure Writing (s : Stage) (b : Books) (base : Machine) (texts : List String) (m : Machine) :
    Prop where
  books : ∃ line, Underway s { b with line } (texts.map .str).toArray m
  keeps : Keeps base m

/-- The books are younger than a machine. -/
structure Younger (s : Stage) (b : Books) (base : Machine) : Prop where
  state : base.heap.size ≤ s.state
  output : base.heap.size ≤ b.output

/-- **A step writes texts**, whatever has been written before. -/
def Writes (s : Stage) (b : Books) (base : Machine) (p : Powers) (step : Step)
    (news : List String) : Prop :=
  ∀ texts m, Writing s b base texts m →
    Performs p s.here step.sentence m .next (Writing s b base (texts ++ news))

section Writes

variable {s : Stage} {b : Books} {base m m' : Machine} {texts : List String} {p : Powers} {n : Nat}

/-- One more text in the output. -/
theorem Writing.append (h : Writing s b base texts m) (hyounger : Younger s b base)
    (hkeeps : Keeps m m') (text : String) :
    ∃ out, m'.heap[b.output]? = some (.list out)
      ∧ Writing s b base (texts ++ [text])
          (m'.withContent b.output (.list (out.push (.str text)))) := by
  obtain ⟨line, hunderway⟩ := h.books
  have hunderway' := hunderway.keeps hkeeps
  refine ⟨_, hunderway'.output, ⟨line, ?_⟩, (h.keeps.trans hkeeps).withContent hyounger.output _⟩
  have hnews := hunderway'.withOutput ((texts.map Value.str).toArray.push (.str text))
  rw [List.push_toArray, ← List.map_singleton, ← List.map_append] at hnews ⊢
  exact hnews

/-- The function that appends does append. -/
theorem append_ends {out : Nat} {items : Array Value} (h : m.heap[out]? = some (.list items))
    (v : Value) : Ends ((powers (n + 1)).call (.method (.ref out) "append") [v] []) m .none
      (m.withContent out (.list (items.push v))) := by
  show Ends (callMethod (powers n) (.ref out) "append" [v] []) m _ _
  unfold callMethod
  dsimp only [text?]
  refine Ends.bind (Ends.cell h) ?_
  unfold listMethod
  exact Ends.bind (Ends.cell h) (Ends.bind .pure (Ends.bind (Ends.setCell h _) .pure))

theorem writes_literal (hyounger : Younger s b base) (text : List Char) :
    Writes s b base (powers (n + 1)) (.literal text) [String.ofList text] := by
  intro texts m h line
  obtain ⟨number, hunderway⟩ := h.books
  obtain ⟨out, hout, hwriting⟩ := h.append hyounger (.refl m) (String.ofList text)
  exact ⟨_, Ends.bind (Ends.call_one rfl hunderway.readAppend .pure (append_ends hout _)) .pure,
    hwriting⟩

/-- Recording a line changes the state alone. -/
theorem mark_ends {items : Array Value} (h : Underway s b items m) (k line : Nat) :
    Ends (stmt p s.here ((markSentence k).stmt line)) m .next
      (m.withContent s.state (.object .state { b with line := .int (k + 1) }.fields)) := by
  obtain ⟨vars, hat, hvars⟩ := h.frame
  have hread := hat.readName_own (s.owns "__kiln" (by decide)) hvars.state
  have hset : Ends (setMember (.ref s.state) "line" (.int (k + 1))) m ()
      (m.withContent s.state (.object .state { b with line := .int (k + 1) }.fields)) :=
    Ends.bind (Ends.cellOf h.state) (Ends.setCell h.state _)
  have hvalue : Ends (expr p s.here (.constant (numberValue (Numeral.succ k).text))) m
      (.int (k + 1)) m := by
    rw [Numeral.value_succ]
    exact .pure
  exact Ends.bind hvalue (Ends.bind (Ends.bind (Ends.bind hread hset) .pure) .pure)

theorem writes_mark (hyounger : Younger s b base) (k : Nat) :
    Writes s b base p (.mark k) [] := by
  intro texts m h line
  obtain ⟨number, hunderway⟩ := h.books
  refine ⟨_, mark_ends hunderway k line, ⟨.int (k + 1), ?_⟩, h.keeps.withContent hyounger.state _⟩
  rw [List.append_nil]
  exact hunderway.withBooks rfl

/-- **What becomes of a value**: its plain and its escaped text, behind the filter if there is to be
one. -/
def Outputs (p : Powers) (filter : Value) (filtered : Bool) (base : Machine) (v : Value)
    (plain escaped : String) : Prop :=
  if filtered then
    ∀ m, Keeps base m → ∃ w m', Ends (p.call filter [v] []) m w m' ∧ Keeps m m'
      ∧ shown m' w = plain ∧ escapedText m' w = escaped
  else plain = shown base v ∧ escaped = escapedText base v

/-- An expression has a value, on every machine that keeps what was there. -/
def Evaluates (s : Stage) (b : Books) (base : Machine) (p : Powers) (e : Phrase) (v : Value) : Prop :=
  ∀ {number : Value} {items : Array Value} {m : Machine} (line : Nat),
    Underway s { b with line := number } items m → Keeps base m →
      Ends (expr p s.here (e.tree line)) m v m

/-- The value behind the filter, and its texts. -/
theorem filtered_ends (h : Writing s b base texts m) (hsound : IsSound base) {e : Phrase} {v : Value}
    (hexists : v.Within base.heap.size) (he : Evaluates s b base p e v) {filtered : Bool}
    {plain escaped : String} (houtputs : Outputs p b.filter filtered base v plain escaped)
    (line : Nat) :
    ∃ w m₁, Ends (expr p s.here ((filteredPhrase filtered e).tree line)) m w m₁ ∧ Keeps m m₁
      ∧ shown m₁ w = plain ∧ escapedText m₁ w = escaped := by
  obtain ⟨number, hunderway⟩ := h.books
  have hvalue := he line hunderway h.keeps
  cases filtered with
  | true =>
      obtain ⟨w, m₁, hcall, hkeeps, htexts⟩ := houtputs m h.keeps
      have hfilter : Ends (expr p s.here (.attribute (.name "__kiln" .load) "f")) m b.filter m :=
        hunderway.ofState p rfl
      exact ⟨w, m₁, Ends.call_one (e.isStarred_tree line) hfilter hvalue hcall, hkeeps, htexts⟩
  | false =>
      obtain ⟨rfl, rfl⟩ := houtputs
      exact ⟨v, m, hvalue, .refl m, shown_keeps hsound h.keeps hexists,
        escapedText_keeps hsound h.keeps hexists⟩

/-- **A value is written as its text**, escaped if it is to be, and filtered before that. -/
theorem writes_value (hyounger : Younger s b base) (hescape : b.escape = .primitive .html)
    (hsound : IsSound base) {e : Phrase} {v : Value} (hexists : v.Within base.heap.size)
    (he : Evaluates s b base (powers (n + 1)) e v) {filtered : Bool} {plain escaped : String}
    (houtputs : Outputs (powers (n + 1)) b.filter filtered base v plain escaped) (isEscaped : Bool) :
    Writes s b base (powers (n + 1)) (.value e filtered isEscaped)
      [if isEscaped then escaped else plain] := by
  intro texts m h line
  obtain ⟨number, hunderway⟩ := h.books
  obtain ⟨w, m₁, hfiltered, hkeeps, hplain, hescaped⟩ :=
    filtered_ends h hsound hexists he houtputs line
  have hstar := (filteredPhrase filtered e).isStarred_tree line
  have hshown : Ends (expr (powers (n + 1)) s.here ((shownPhrase filtered isEscaped e).tree line)) m
      (.str (if isEscaped then escaped else plain)) m₁ := by
    cases isEscaped with
    | true =>
        have hwriter : Ends (expr (powers (n + 1)) s.here (.attribute (.name "__kiln" .load) "e")) m
            b.escape m := hunderway.ofState _ rfl
        have hcall := callPrimitive_html m₁ w
        rw [hescaped] at hcall
        rw [hescape] at hwriter
        exact Ends.call_one hstar hwriter hfiltered hcall
    | false =>
        have hwriter : Ends (expr (powers (n + 1)) s.here (.attribute (.name "__kiln" .load) "s")) m
            (.primitive .plain) m := hunderway.ofState _ rfl
        have hcall := callPrimitive_plain m₁ w
        rw [hplain] at hcall
        exact Ends.call_one hstar hwriter hfiltered hcall
  obtain ⟨out, hout, hwriting⟩ := h.append hyounger hkeeps (if isEscaped then escaped else plain)
  exact ⟨_, Ends.bind (Ends.call_one rfl hunderway.readAppend hshown (append_ends hout _)) .pure,
    hwriting⟩

/-- **Steps in a row write their texts in a row.** -/
theorem proceeds_steps {steps : List Step} {news : Step → List String}
    (h : ∀ step ∈ steps, Writes s b base p step (news step)) :
    ∀ texts m, Writing s b base texts m →
      Proceeds p s.here (steps.map Step.sentence) m
        (Writing s b base (texts ++ steps.flatMap news)) := by
  induction steps with
  | nil =>
      intro texts m hm
      rw [List.flatMap_nil, List.append_nil]
      exact .nil hm
  | cons step steps ih =>
      rw [List.forall_mem_cons] at h
      intro texts m hm
      rw [List.flatMap_cons, ← List.append_assoc]
      exact .cons (h.1 texts m hm) (ih h.2 _)

end Writes

end RenderFunction

end TagTemplate
