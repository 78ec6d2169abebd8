/-
  TagTemplate.Proofs.Code.Failing
  ────────────────────────────────
  **HOW COMPILING A TEMPLATE CAN FAIL.**

  Without plugins, the stages before the render function is read have a result
  for every source, with one exception: the code in which free names are looked
  up may be a program that cannot be printed (`cannotPrint`).  What is wrong
  with the function itself is always reported as bad code.

    • `generate_outcome` — the body of the render function is written, or its
      program cannot be printed,
    • `compile_outcome` — a template compiles, or its code is reported as bad,
      or its program cannot be printed.
-/
import TagTemplate.Proofs.Code.Levels
import TagTemplate.Proofs.Code.StraightTree

namespace TagTemplate

open Script

/-! ## §1. Computations that fail. -/

namespace Traced

variable {α β : Type} {x : Traced α} {a : α} {e : Fault}

/-- A computation fails, whatever was recorded before. -/
def Raises (x : Traced α) (e : Fault) : Prop := ∀ j, ∃ j', x.run.run j = (.error e, j')

theorem Raises.throw : Raises (throw e : Traced α) e := fun j => ⟨j, rfl⟩

theorem Raises.ofExcept {r : Except Fault α} (h : r = .error e) : Raises (r : Traced α) e := by
  rw [h]
  exact fun j => ⟨j, rfl⟩

/-- What fails in its first part fails. -/
theorem Raises.bind (hx : Raises x e) (f : α → Traced β) : Raises (x >>= f) e := by
  intro j
  obtain ⟨j', hj'⟩ := hx j
  refine ⟨j', ?_⟩
  show (ExceptT.bindCont f (x.run j).1 (x.run j).2) = _
  rw [show x.run j = (.error e, j') from hj']
  rfl

/-- What fails in its second part fails. -/
theorem Returns.bind_raises {f : α → Traced β} (hx : Returns x a) (hf : Raises (f a) e) :
    Raises (x >>= f) e := by
  intro j
  obtain ⟨j₁, hrun⟩ := hx.run_bind f j
  obtain ⟨j₂, hj₂⟩ := hf j₁
  exact ⟨j₂, hrun.trans hj₂⟩

end Traced

open Traced

/-! ## §2. Nodes and lines. -/

section Stages

variable (settings : CodeSettings)

/-- A node that is a literal or a tag has instructions. -/
theorem instructionsOf_own {n : Node} (h : ∀ v, n ≠ .foreign v) :
    ∃ is, instructionsOf settings n = .ok is := by
  cases n with
  | literal value => exact ⟨_, rfl⟩
  | tag kind body lineno => exact ⟨_, rfl⟩
  | foreign v => exact absurd rfl (h v)

theorem mapM_instructionsOf_own :
    ∀ nodes : List Node, (∀ n ∈ nodes, ∀ v, n ≠ .foreign v) →
      ∃ steps, nodes.mapM (instructionsOf settings) = .ok steps
  | [], _ => ⟨[], rfl⟩
  | n :: nodes, h => by
      obtain ⟨hn, hnodes⟩ := List.forall_mem_cons.mp h
      obtain ⟨is, his⟩ := instructionsOf_own settings hn
      obtain ⟨steps, hsteps⟩ := mapM_instructionsOf_own nodes hnodes
      refine ⟨is :: steps, ?_⟩
      rw [List.mapM_cons, his, hsteps]
      rfl

/-- Literals and tags are lowered. -/
theorem lower_own {nodes : List Node} (h : ∀ n ∈ nodes, ∀ v, n ≠ .foreign v) :
    ∃ program, lower settings nodes = .ok program := by
  obtain ⟨steps, hsteps⟩ := mapM_instructionsOf_own settings nodes h
  refine ⟨steps.flatten ++ [.checkLayout settings.asyncMode], ?_⟩
  unfold lower
  rw [hsteps]
  rfl

theorem literalOf_own (scan : ScanSettings) (start stop : Edge) (gap : List Char) :
    ∀ n ∈ literalOf scan start stop gap, ∀ v, n ≠ .foreign v := by
  unfold literalOf
  simp only
  split <;> simp

/-- The scanner makes literals and tags only. -/
theorem nodesFrom_own (scan : ScanSettings) :
    ∀ (tags : List (List Char × TagSpan)) (start : Edge) (line : Nat) (trailing : List Char),
      ∀ n ∈ nodesFrom scan start line tags trailing, ∀ v, n ≠ .foreign v
  | [], start, _, trailing => literalOf_own scan start .free trailing
  | (gap, span) :: tags, start, line, trailing => by
      intro n hn
      rcases List.mem_append.mp hn with hn | hn
      · exact literalOf_own scan start _ gap n hn
      · rcases List.mem_cons.mp hn with rfl | hn
        · intro v h
          cases h
        · exact nodesFrom_own scan tags _ _ trailing n hn

/-- Hooks that do not exist change no code. -/
theorem runCodePlugins_plain (code : String) :
    ∀ plugins : List Plugin, (∀ p ∈ plugins, p.onCode = none) →
      Returns (runCodePlugins plugins code) code
  | [], _ => .pure
  | p :: plugins, h => by
      obtain ⟨hp, hplugins⟩ := List.forall_mem_cons.mp h
      unfold runCodePlugins
      rw [List.foldlM_cons, hp]
      exact .bind .pure (runCodePlugins_plain code plugins hplugins)

end Stages

/-! ## §3. Free names. -/

/-- The error about a program that cannot be printed. -/
def cannotPrint : Fault :=
  .script "ValueError" "Unable to avoid backslash in f-string expression part"

/-- **Looking free names up fails in one way only**: the changed program cannot be printed. -/
theorem bindAmbient_outcome (contextName code : String) :
    (∃ code', Returns (bindAmbient contextName code) code')
      ∨ Raises (bindAmbient contextName code) cannotPrint := by
  unfold bindAmbient
  cases parseTree code with
  | error _ => exact .inl ⟨code, .bind .record .pure⟩
  | ok t =>
      dsimp only
      by_cases hfree : (freeNames t contextName).isEmpty = true
      · rw [if_pos hfree]
        exact .inl ⟨code, .pure⟩
      · rw [if_neg hfree]
        by_cases hsound : (Listing.program (bindFree contextName (freeNames t contextName) t)).sound = true
        · rw [if_pos hsound]
          exact .inl ⟨_, .bind .record .pure⟩
        · rw [if_neg hsound]
          exact .inr (Returns.record.bind_raises .throw)

/-- **The body of the render function is written, or its program cannot be printed.** -/
theorem generate_outcome {settings : CodeSettings} (hcode : ∀ p ∈ settings.plugins, p.onCode = none)
    {nodes : List Node} (hnodes : ∀ n ∈ nodes, ∀ v, n ≠ .foreign v) (source : String) :
    (∃ code, Returns (generate settings nodes source) code)
      ∨ settings.useWith = true ∧ Raises (generate settings nodes source) cannotPrint := by
  obtain ⟨program, hprogram⟩ := lower_own settings hnodes
  have hlower : Returns (lower settings nodes : Except Fault _) program := .ofExcept hprogram
  have hbody := (Emitter.writeBody_leaves settings source program).returns
  have hhooks := fun code => runCodePlugins_plain code settings.plugins hcode
  unfold generate
  cases settings.useWith with
  | false => exact .inl ⟨_, .bind hlower (.bind hbody (.bind .pure (.bind .record (hhooks _))))⟩
  | true =>
      obtain ⟨code, hbound⟩ | hfails :=
        bindAmbient_outcome settings.contextName (bodyText settings (emitProgram settings source program))
      · exact .inl ⟨code, .bind hlower (.bind hbody (.bind hbound (.bind .record (hhooks code))))⟩
      · exact .inr ⟨rfl, hlower.bind_raises (hbody.bind_raises (hfails.bind _))⟩

/-! ## §4. Templates. -/

/-- Whatever is wrong with a render function is reported as bad code. -/
theorem functionTree_outcome (s : Surroundings) (name filename : Option String) (code : String) :
    (∃ tree, functionTree s name filename code = .ok tree)
      ∨ ∃ report, functionTree s name filename code = .error (.template (.badCode report)) := by
  unfold functionTree
  cases parseTree code with
  | error f => exact .inr ⟨_, rfl⟩
  | ok t =>
      dsimp only
      cases misplaced t with
      | some line => exact .inr ⟨_, rfl⟩
      | none => exact .inl ⟨t, rfl⟩

/-- **HOW COMPILING ENDS**: without plugins, for every source, a template compiles, or its code is
reported as bad, or free names are looked up in a program that cannot then be printed. -/
theorem compile_outcome {e : Environment} (hscan : ∀ p ∈ e.scan.plugins, p.onNodes = none)
    (hcode : ∀ p ∈ e.code.plugins, p.onCode = none) {name filename : Option String}
    (hplace : RenderFunction.IsPlace name filename) (s : Surroundings) (source : String)
    (asyncMode : Bool) :
    (∃ result, Returns (e.compile s source name filename asyncMode) result)
      ∨ (∃ report, Raises (e.compile s source name filename asyncMode) (.template (.badCode report)))
      ∨ e.code.useWith = true ∧ Raises (e.compile s source name filename asyncMode) cannotPrint := by
  have hnodes : Returns (parse e.scan source) (nodesOf e.scan source.toList) :=
    parse_plain e.scan source hscan
  have hown := nodesFrom_own e.scan (scanTags e.scan.delimiters source.toList).1 .free 1
    (scanTags e.scan.delimiters source.toList).2
  have hgenerate := @generate_outcome { e.code with asyncMode } hcode _ hown source
  unfold Environment.compile
  dsimp only
  obtain ⟨body, hbody⟩ | ⟨hwith, hfails⟩ := hgenerate
  · have hfunction : Returns (e.functionOf source asyncMode)
        (wrapFunction body asyncMode e.code.contextName) := .bind (.bind hnodes hbody) .pure
    rw [show (((Report.given filename).or (Report.given name)).getD anonymousCode).toList.contains
      '\x00' = false from hplace]
    obtain ⟨tree, htree⟩ | ⟨report, hreport⟩ :=
      functionTree_outcome s name filename (wrapFunction body asyncMode e.code.contextName)
    · exact .inl ⟨_, .bind hfunction (.bind (.ofExcept htree) (.bind .record .pure))⟩
    · exact .inr (.inl ⟨report, hfunction.bind_raises ((Raises.ofExcept hreport).bind _)⟩)
  · have hfunction : Raises (e.functionOf source asyncMode) cannotPrint :=
      (hnodes.bind_raises hfails).bind _
    exact .inr (.inr ⟨hwith, hfunction.bind _⟩)

end TagTemplate
