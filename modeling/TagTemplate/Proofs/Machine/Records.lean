/-
  TagTemplate.Proofs.Machine.Records
  ────────────────────────────────
  **WHAT A COMPUTATION LEAVES IN THE JOURNAL.**

  `Traced.Leaves` says which value a computation has and which records it
  leaves behind those that are there, oldest first.  It is built up as the
  computation is: nothing is left by a value, one record by `record`, and a
  sequence leaves what its parts leave, one after the other.
-/
import TagTemplate.Proofs.Machine.Journal

namespace TagTemplate

namespace Traced

/-- A computation has a result and leaves these records. -/
def Leaves {α : Type} (x : Traced α) (a : α) (records : List Record) : Prop :=
  ∀ j : Journal, x.run.run j = (.ok a, { j with records := j.records ++ records.toArray })

variable {α β : Type} {x : Traced α} {a : α} {b : β} {records more : List Record}

theorem Leaves.returns (h : Leaves x a records) : Returns x a := fun j => ⟨_, h j⟩

/-- What changes no journal leaves nothing. -/
theorem Leaves.nothing (h : ∀ j, x.run.run j = (.ok a, j)) : Leaves x a [] := by
  intro j
  rw [h j]
  show _ = (Except.ok a, { j with records := j.records ++ #[] })
  rw [Array.append_empty]

theorem Leaves.pure : Leaves (Pure.pure a) a [] := .nothing fun _ => rfl

theorem Leaves.record {level : Level} {component : Component} {text : String} :
    Leaves (record level component text) () [⟨level, component, text⟩] := fun _ => rfl

/-- The records of the first part come first. -/
theorem Leaves.bind {f : α → Traced β} (hx : Leaves x a records) (hf : Leaves (f a) b more) :
    Leaves (x >>= f) b (records ++ more) := by
  intro j
  show (ExceptT.bindCont f (x.run j).1 (x.run j).2) = _
  rw [show x.run j = (.ok a, { j with records := j.records ++ records.toArray }) from hx j]
  show (f a).run.run _ = _
  rw [hf, ← List.append_toArray, ← Array.append_assoc]

/-- A loop that leaves a record at each turn. -/
theorem Leaves.forIn {γ : Type} (level : Level) (component : Component) (text : γ → String) :
    ∀ xs : List γ,
      Leaves (ForIn.forIn xs PUnit.unit fun x _ => do
        TagTemplate.record level component (text x)
        Pure.pure (ForInStep.yield PUnit.unit)) PUnit.unit
        (xs.map fun x => ⟨level, component, text x⟩)
  | [] => .pure
  | x :: xs => by
      have hturn : Leaves (do
          TagTemplate.record level component (text x)
          Pure.pure (ForInStep.yield PUnit.unit)) (ForInStep.yield PUnit.unit)
          [⟨level, component, text x⟩] := .bind .record .pure
      rw [List.forIn_cons]
      exact hturn.bind (Leaves.forIn level component text xs)

end Traced

end TagTemplate
