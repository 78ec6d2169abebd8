/-
  TagTemplate.Proofs.Code.Scaffold
  ────────────────────────────────
  **NO NAME OF A TEMPLATE IS ONE OF ITS RENDER FUNCTION.**

  The lines of a template stand between lines that are the same for every
  template.  Those read and bind names that are never looked up in the context,
  so the free names of the whole are those of the lines of the template.

  One name is read that is not fixed: the question whether there is a layout
  reads the context.  A name is read in its normal form, and the context may be
  called by another one:

      {**it, 'body': …}    reads it, the context
      {**ﬁ, 'body': …}     reads fi, which is not what the context is called

    • `freeNames_around` — the lines around bring no free name along,
    • `mem_freeNames_bodyFor` — the question may bring one along,
    • `freeNames_bodyFor` — it brings none along if it reads the context.
-/
import Mathlib.Data.List.Sort
import TagTemplate.Proofs.Code.FreeNames
import TagTemplate.Proofs.Render.Function

namespace TagTemplate

open Script Machine

/-! ## §1. Names that are never looked up. -/

/-- The name that is mentioned. -/
def Script.Mention.name : Mention → String
  | .reads name | .binds name => name

/-- The list of the free names is determined by which they are. -/
theorem freeNames_ext {t t' : Tree} {contextName : String}
    (h : ∀ name, name ∈ freeNames t contextName ↔ name ∈ freeNames t' contextName) :
    freeNames t contextName = freeNames t' contextName :=
  (freeNames_ascending t contextName).eq_of_mem_iff (freeNames_ascending t' contextName) h

/-- Programs that mention the same names that may be looked up have the same free names. -/
theorem freeNames_congr {t t' : Tree} {contextName : String}
    (h : ∀ m : Mention, mayBeAmbient contextName m.name = true →
      (m ∈ Mention.inBlock t ↔ m ∈ Mention.inBlock t')) :
    freeNames t contextName = freeNames t' contextName := by
  refine freeNames_ext fun name => ?_
  rw [mem_freeNames, mem_freeNames]
  exact and_congr_left fun hname =>
    and_congr (h (.reads name) hname) (not_congr (h (.binds name) hname))

/-- Whether a name is never looked up in the context, whatever that is called. -/
def isFixed (name : String) : Bool :=
  isBuiltin name || providedNames.contains name || reservedStart.toList.isPrefixOf name.toList

theorem mayBeAmbient_of_isFixed {name : String} (h : isFixed name = true) (contextName : String) :
    mayBeAmbient contextName name = false := by
  refine mayBeAmbient_of_isProvided ?_
  unfold isFixed at h
  unfold isProvided
  revert h
  cases isBuiltin name <;> cases providedNames.contains name <;>
    cases reservedStart.toList.isPrefixOf name.toList <;> simp

/-- Whether all names that are mentioned are never looked up. -/
def allFixed (ms : List Mention) : Bool := ms.all (isFixed ·.name)

/-- What is mentioned with other names, if those are never looked up. -/
theorem mem_beside {ms ns os : List Mention} {contextName : String} (hms : allFixed ms = true)
    (hos : allFixed os = true) {m : Mention} (hm : mayBeAmbient contextName m.name = true) :
    m ∈ ms ++ ns ++ os ↔ m ∈ ns := by
  have hnot : ∀ ls, allFixed ls = true → m ∉ ls := by
    intro ls hls hmem
    rw [mayBeAmbient_of_isFixed (List.all_eq_true.mp hls m hmem)] at hm
    cases hm
  rw [List.mem_append, List.mem_append, or_iff_left (hnot os hos), or_iff_right (hnot ms hms)]

theorem Script.Mention.inBlock_append (ls rest : List Line) :
    Mention.inBlock (ls ++ rest) = Mention.inBlock ls ++ Mention.inBlock rest := by
  induction ls with
  | nil => rfl
  | cons l ls ih =>
      obtain ⟨line, s⟩ := l
      rw [List.cons_append, Mention.inBlock, Mention.inBlock, ih, List.append_assoc]

namespace RenderFunction

/-! ## §2. The lines around a template. -/

/-- What the render function is around lines. -/
def Program.around (P : Program) (ls : List Line) : List Line :=
  P.opening ++
    match P.source with
    | none => ls ++ P.result
    | some _ =>
      .mk P.numbers.guard (.tryBlock ls (reportHandlers.trees P.numbers.handlers) [] [] false)
        :: P.result

theorem Program.around_inner (P : Program) : P.around P.inner = P.opening ++ P.core := rfl

theorem opening_allFixed (source : Option Quotation) (line : Nat) :
    allFixed (Mention.inBlock (linesOf line (opening source))) = true := by
  -- neither the source nor the numbers of the lines are mentioned
  have hsame : Mention.inBlock (linesOf line (opening source))
      = Mention.inBlock (linesOf 0 (opening none)) := by
    cases source <;> rfl
  rw [hsame]
  decide +kernel

theorem result_allFixed (line : Nat) :
    allFixed (Mention.inStmt (RenderFunction.result.stmt line)) = true := by
  have hsame : Mention.inStmt (RenderFunction.result.stmt line)
      = Mention.inStmt (RenderFunction.result.stmt 0) := rfl
  rw [hsame]
  decide +kernel

theorem reportHandlers_allFixed (line : Nat) :
    allFixed (Mention.inHandlers (reportHandlers.trees line)) = true := by
  have hsame : Mention.inHandlers (reportHandlers.trees line)
      = Mention.inHandlers (reportHandlers.trees 0) := rfl
  rw [hsame]
  decide +kernel

/-- **The lines around a template bring no free name along**, and bind none of its free names. -/
theorem Program.freeNames_around (P : Program) (ls : List Line) (contextName : String) :
    freeNames (P.around ls) contextName = freeNames ls contextName := by
  refine freeNames_congr fun m hm => ?_
  have hopening : allFixed (Mention.inBlock P.opening) = true := opening_allFixed _ _
  have hresult : allFixed (Mention.inBlock P.result) = true := by
    rw [Program.result, Mention.inBlock, Mention.inBlock, List.append_nil]
    exact result_allFixed _
  unfold Program.around
  rw [Mention.inBlock_append]
  -- behind the opening the lines stand by themselves, or inside of the guard
  cases P.source with
  | none =>
      rw [Mention.inBlock_append, ← List.append_assoc]
      exact mem_beside hopening hresult hm
  | some q =>
      have hrest : allFixed (Mention.inHandlers (reportHandlers.trees P.numbers.handlers)
          ++ Mention.inBlock P.result) = true := by
        unfold allFixed at hresult ⊢
        rw [List.all_append, hresult, Bool.and_true]
        exact reportHandlers_allFixed _
      have hinside : Mention.inBlock (.mk P.numbers.guard
            (.tryBlock ls (reportHandlers.trees P.numbers.handlers) [] [] false) :: P.result)
          = Mention.inBlock ls ++ (Mention.inHandlers (reportHandlers.trees P.numbers.handlers)
            ++ Mention.inBlock P.result) := by
        simp only [Mention.inBlock, Mention.inStmt, List.append_nil, List.append_assoc]
      rw [hinside, ← List.append_assoc]
      exact mem_beside hopening hrest hm

/-! ## §3. The question whether there is a layout. -/

/-- The question whether there is a layout, which reads the context by a name. -/
def layoutQuestion (name : String) (isAsync : Bool) (line : Nat) : Stmt :=
  let ofState (member : String) : Expr := .attribute (.name "__kiln" .load) member
  let joined : Expr := .call (.attribute (.constant (.str "" false)) "join") [ofState "res"] []
  let data : Expr := .dict [.spread (.name name .load),
    .item (.constant (.str "body" false)) joined, .spread (ofState "layout_data")]
  let call : Expr :=
    if isAsync then .await (.call (.name "include_async" .load) [ofState "layout", data] []) (line + 1)
    else .call (.name "include" .load) [ofState "layout", data] []
  .ifElse (.compare (ofState "layout") [.mk .notSame (.constant .none)])
    [.mk (line + 1) (.assign [.subscript (ofState "res") (.slice none none none)] (.list [call]))] []

theorem layoutChoice_stmt (isAsync : Bool) (line : Nat) :
    (layoutChoice isAsync).stmt line = layoutQuestion "it" isAsync line := by
  cases isAsync <;> rfl

/-- Apart from the context, what the question mentions is never looked up. -/
theorem mem_question {name contextName : String} {isAsync : Bool} {line : Nat} {m : Mention}
    (hm : mayBeAmbient contextName m.name = true) :
    m ∈ Mention.inStmt (layoutQuestion name isAsync line) ↔ m = .reads name := by
  have hmentions : Mention.inStmt (layoutQuestion name isAsync line)
      = [.reads "__kiln", .reads "__kiln",
          .reads (if isAsync then "include_async" else "include"), .reads "__kiln"]
        ++ [.reads name] ++ [.reads "__kiln", .reads "__kiln"] := by
    cases isAsync <;> rfl
  have hbefore : allFixed [.reads "__kiln", .reads "__kiln",
      .reads (if isAsync then "include_async" else "include"), .reads "__kiln"] = true := by
    cases isAsync <;> decide +kernel
  have hbehind : allFixed [.reads "__kiln", .reads "__kiln"] = true := by decide +kernel
  rw [hmentions, mem_beside hbefore hbehind hm, List.mem_singleton]

/-! ## §4. THE THEOREM. -/

/-- The body of a render function whose question reads the context by a name. -/
def Program.bodyFor (P : Program) (name : String) : Tree :=
  P.around (P.own ++ [.mk P.numbers.choice (layoutQuestion name P.isAsync P.numbers.choice)])

/-- The body of the render functions above is one. -/
theorem Program.bodyFor_it (P : Program) : P.bodyFor "it" = P.opening ++ P.core := by
  rw [← P.around_inner, Program.inner, Program.choice, layoutChoice_stmt]
  rfl

/-- **The free names of the body** are those of the lines of the template, and besides the name by
which the question reads the context, if it may be looked up and no line binds it. -/
theorem mem_freeNames_bodyFor (P : Program) (name contextName : String) {x : String} :
    x ∈ freeNames (P.bodyFor name) contextName
      ↔ x ∈ freeNames P.own contextName
        ∨ (x = name ∧ name ∉ boundNames P.own ∧ mayBeAmbient contextName name = true) := by
  unfold Program.bodyFor
  rw [P.freeNames_around, mem_freeNames, mem_freeNames, mem_boundNames, Mention.inBlock_append]
  by_cases hx : mayBeAmbient contextName x = true
  · -- of such a name the question mentions at most the one by which it reads the context
    have hquestion : ∀ m : Mention, m.name = x → (m ∈ Mention.inBlock
        [.mk P.numbers.choice (layoutQuestion name P.isAsync P.numbers.choice)] ↔ m = .reads name) := by
      rintro m rfl
      rw [Mention.inBlock, Mention.inBlock, List.append_nil]
      exact mem_question hx
    rw [List.mem_append, List.mem_append, hquestion (.reads x) rfl, hquestion (.binds x) rfl,
      Mention.reads.injEq]
    constructor
    · rintro ⟨⟨hread | rfl, hbound⟩, _⟩
      · exact .inl ⟨⟨hread, fun h => hbound (.inl h)⟩, hx⟩
      · exact .inr ⟨rfl, fun h => hbound (.inl h), hx⟩
    · rintro (⟨⟨hread, hbound⟩, _⟩ | ⟨rfl, hbound, _⟩)
      · exact ⟨⟨.inl hread, fun h => h.elim hbound nofun⟩, hx⟩
      · exact ⟨⟨.inr rfl, fun h => h.elim hbound nofun⟩, hx⟩
  · -- a name that may not be looked up is on neither side
    constructor
    · exact fun h => absurd h.2 hx
    · rintro (h | ⟨rfl, _, h⟩)
      · exact absurd h.2 hx
      · exact absurd h hx

/-- A context that is called `ﬁ`, with one character, is read as `fi`. -/
example : freeNames (Program.bodyFor ⟨false, none, [], ⟨1, 8, 10, 0, 0⟩⟩ "fi") "ﬁ" = ["fi"] := by
  decide +kernel

/-- **A RENDER FUNCTION BRINGS NO FREE NAME ALONG**, and binds none of its template, where it reads the
context by the name of the context. -/
theorem freeNames_bodyFor (P : Program) (contextName : String) :
    freeNames (P.bodyFor contextName) contextName = freeNames P.own contextName := by
  refine freeNames_ext fun x => ?_
  rw [mem_freeNames_bodyFor, or_iff_left]
  rintro ⟨_, _, h⟩
  exact (mayBeAmbient_iff.mp h).1 rfl

end RenderFunction

end TagTemplate
