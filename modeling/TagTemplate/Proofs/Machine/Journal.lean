/-
  TagTemplate.Proofs.Machine.Journal
  ────────────────────────────────
  **COMPUTATIONS THAT KEEP A JOURNAL AND SUCCEED.**

  What a computation leaves in the journal does not matter to its value
  (`Traced.Returns`), and nothing but the journal of a machine changes when it
  runs one (`ofTraced_ends`).
-/
import TagTemplate.Proofs.Machine.Ends

namespace TagTemplate

/-- A computation has a result, whatever was recorded before. -/
def Traced.Returns {α : Type} (x : Traced α) (a : α) : Prop :=
  ∀ j, ∃ j', x.run.run j = (.ok a, j')

namespace Traced

variable {α β : Type} {x : Traced α} {a : α} {b : β}

theorem Returns.pure : Returns (Pure.pure a) a := fun j => ⟨j, rfl⟩

theorem Returns.ofExcept {r : Except Fault α} (h : r = .ok a) : Returns (r : Traced α) a := by
  rw [h]
  exact fun j => ⟨j, rfl⟩

theorem Returns.record {level : Level} {component : Component} {text : String} :
    Returns (record level component text) () := fun _ => ⟨_, rfl⟩

/-- What has a result is run with the rest behind it. -/
theorem Returns.run_bind (hx : Returns x a) (f : α → Traced β) (j : Journal) :
    ∃ j₁, (x >>= f).run.run j = (f a).run.run j₁ := by
  obtain ⟨j₁, hj₁⟩ := hx j
  refine ⟨j₁, ?_⟩
  show (ExceptT.bindCont f (x.run j).1 (x.run j).2) = _
  rw [show x.run j = (.ok a, j₁) from hj₁]
  rfl

theorem Returns.bind {f : α → Traced β} (hx : Returns x a) (hf : Returns (f a) b) :
    Returns (x >>= f) b := by
  intro j
  obtain ⟨j₁, hrun⟩ := hx.run_bind f j
  obtain ⟨j₂, hj₂⟩ := hf j₁
  exact ⟨j₂, hrun.trans hj₂⟩

end Traced

namespace Machine

/-- What a computation with a journal has as its value, the machine has too. -/
theorem ofTraced_ends {α : Type} {x : Traced α} {a : α} (h : x.Returns a) (m : Machine) :
    ∃ journal, Ends (ofTraced x) m a { m with journal } := by
  obtain ⟨j, hj⟩ := h m.journal
  -- the journal is taken out before the computation runs with it
  refine ⟨j, Ends.bind (a := (.ok a, j)) ?_ (Ends.bind (m := { m with journal := {} }) rfl .pure)⟩
  show (Except.ok ((x.run m.journal).1, (x.run m.journal).2), { m with journal := {} }) = _
  rw [show x.run m.journal = (.ok a, j) from hj]

end Machine

end TagTemplate
