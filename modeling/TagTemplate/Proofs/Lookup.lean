/-
  TagTemplate.Proofs.Lookup
  ────────────────────────────────
  **ENTRIES BY THEIR KEYS.**

  Many tables are lists of entries, and a key is looked up from the front.
  What is found is an entry of the table, and every entry's key is found,
  if perhaps with another value: an earlier entry hides a later one.
-/

namespace TagTemplate

variable {α β : Type} [BEq α] [LawfulBEq α] {key : α} {value : β} {entries : List (α × β)}

theorem mem_of_lookup (h : entries.lookup key = some value) : (key, value) ∈ entries := by
  obtain ⟨before, rest, rfl, _⟩ := List.lookup_eq_some_iff.mp h
  exact List.mem_append_right _ List.mem_cons_self

theorem exists_lookup (h : (key, value) ∈ entries) : ∃ found, entries.lookup key = some found := by
  rw [← Option.isSome_iff_exists, List.lookup_isSome_iff]
  exact ⟨_, h, beq_self_eq_true key⟩

/-- Where a key has one value, that is found. -/
theorem lookup_eq_some_iff_mem (hone : ∀ value value', (key, value) ∈ entries →
      (key, value') ∈ entries → value = value') :
    entries.lookup key = some value ↔ (key, value) ∈ entries := by
  refine ⟨mem_of_lookup, fun h => ?_⟩
  obtain ⟨found, hfound⟩ := exists_lookup h
  rw [hfound, hone found value (mem_of_lookup hfound) h]

end TagTemplate
