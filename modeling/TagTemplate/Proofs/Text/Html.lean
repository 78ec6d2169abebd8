/-
  TagTemplate.Proofs.Text.Html
  ────────────────────────────────
  **ESCAPED TEXTS ARE READ BACK.**

  A reader of markup goes through a text once, from left to right: where one
  of the five references stands it takes the character that the reference is
  for, and any other character as it is (`decode`).  No reference is part of
  another one, and each has its only `&` in front, so what escaping writes is
  read in one way only, also where the text held references before.

    • `htmlEscape_safe` — no special character but `&` is left,
    • `htmlEscape_references` — where `&` is left, a reference starts,
    • `decode_htmlEscape` — an escaped text is read back.
-/
import TagTemplate.Proofs.Text.Strip
import TagTemplate.Text.Html

namespace TagTemplate.Text

/-! ## §1. The references. -/

/-- The five references with the characters that they are for. -/
def references : List (String × Char) :=
  [("&amp;", '&'), ("&lt;", '<'), ("&gt;", '>'), ("&quot;", '"'), ("&#39;", '\'')]

/-- A reference starts with `&` and has no other one. -/
theorem reference_head : ∀ e ∈ references, ∃ tail, e.1.toList = '&' :: tail ∧ '&' ∉ tail := by
  simp [references]

/-- No special character stands in a reference. -/
theorem reference_safe : ∀ e ∈ references, ∀ c ∈ e.1.toList, c ∉ ['<', '>', '"', '\''] := by
  simp [references]

/-- A character that is escaped becomes its reference, any other one stays. -/
theorem htmlReference_cases (c : Char) :
    (∃ text, (text, c) ∈ references ∧ htmlReference c = text.toList)
      ∨ (c ∉ references.map (·.2) ∧ htmlReference c = [c]) := by
  by_cases h : c ∈ references.map (·.2)
  · obtain ⟨⟨text, _⟩, hmem, rfl⟩ := List.mem_map.mp h
    have hreference : ∀ e ∈ references, htmlReference e.2 = e.1.toList := by decide
    exact .inl ⟨text, hmem, hreference _ hmem⟩
  · refine .inr ⟨h, ?_⟩
    simp only [references, List.map_cons, List.map_nil, List.mem_cons, List.not_mem_nil, or_false,
      not_or] at h
    obtain ⟨hamp, hlt, hgt, hquot, hapos⟩ := h
    simp [htmlReference, hamp, hlt, hgt, hquot, hapos]

/-! ## §2. Reading. -/

/-- The character of the reference that a text starts with, and the text behind the reference. -/
def referenceAt? (s : List Char) : Option (Char × List Char) :=
  references.findSome? fun (text, c) => (dropStart? text.toList s).map (c, ·)

theorem referenceAt?_sound {s rest : List Char} {c : Char} (h : referenceAt? s = some (c, rest)) :
    ∃ text, (text, c) ∈ references ∧ s = text.toList ++ rest := by
  obtain ⟨⟨text, d⟩, hmem, hsome⟩ := List.exists_of_findSome?_eq_some h
  obtain ⟨rest', hdrop, heq⟩ := Option.map_eq_some_iff.mp hsome
  cases heq
  exact ⟨text, hmem, dropStart?_eq_some_iff.mp hdrop⟩

theorem referenceAt?_append {text : String} {c : Char} (h : (text, c) ∈ references)
    (s : List Char) : referenceAt? (text.toList ++ s) = some (c, s) := by
  simp only [references, List.mem_cons, Prod.mk.injEq, List.not_mem_nil, or_false] at h
  rcases h with ⟨rfl, rfl⟩ | ⟨rfl, rfl⟩ | ⟨rfl, rfl⟩ | ⟨rfl, rfl⟩ | ⟨rfl, rfl⟩ <;> rfl

/-- References start with `&` only. -/
theorem referenceAt?_eq_none {c : Char} (h : c ≠ '&') (s : List Char) :
    referenceAt? (c :: s) = none := by
  refine Option.eq_none_iff_forall_ne_some.mpr fun ⟨d, rest⟩ hsome => ?_
  obtain ⟨text, hmem, heq⟩ := referenceAt?_sound hsome
  obtain ⟨tail, htail, _⟩ := reference_head _ hmem
  rw [htail] at heq
  exact h (List.cons.inj heq).1

theorem referenceAt?_length {s rest : List Char} {c : Char} (h : referenceAt? s = some (c, rest)) :
    rest.length < s.length := by
  obtain ⟨text, hmem, rfl⟩ := referenceAt?_sound h
  obtain ⟨tail, htail, _⟩ := reference_head _ hmem
  rw [htail, List.length_append, List.length_cons]
  omega

/-- A text with every reference replaced by its character, in one pass from left to right. -/
def decode : List Char → List Char
  | [] => []
  | c :: s =>
    match _h : referenceAt? (c :: s) with
    | some (d, rest) => d :: decode rest
    | none => c :: decode s
termination_by s => s.length
decreasing_by
  · exact referenceAt?_length ‹_›
  · exact Nat.lt_succ_self _

theorem decode_reference {s rest : List Char} {c : Char} (h : referenceAt? s = some (c, rest)) :
    decode s = c :: decode rest := by
  cases s with
  | nil => cases h
  | cons d s =>
      rw [decode]
      split <;> simp_all

theorem decode_other {s : List Char} {c : Char} (h : referenceAt? (c :: s) = none) :
    decode (c :: s) = c :: decode s := by
  rw [decode]
  split <;> simp_all

/-- What a character becomes is read as that character, whatever comes behind it. -/
theorem decode_htmlReference (c : Char) (s : List Char) :
    decode (htmlReference c ++ s) = c :: decode s := by
  rcases htmlReference_cases c with ⟨text, hmem, heq⟩ | ⟨hplain, heq⟩
  · rw [heq]
    exact decode_reference (referenceAt?_append hmem s)
  · rw [heq]
    refine decode_other (referenceAt?_eq_none ?_ s)
    rintro rfl
    exact hplain (by decide)

/-- **An escaped text is read back.** -/
theorem decode_htmlEscape (s : List Char) : decode (htmlEscape s) = s := by
  induction s with
  | nil => rw [htmlEscape, List.flatMap_nil, decode]
  | cons c s ih =>
      rw [htmlEscape, List.flatMap_cons, decode_htmlReference]
      exact congrArg (c :: ·) ih

/-! ## §3. What is left in an escaped text. -/

/-- **No special character but `&` is left.** -/
theorem htmlEscape_safe (s : List Char) : ∀ c ∈ htmlEscape s, c ∉ ['<', '>', '"', '\''] := by
  intro c hc
  obtain ⟨d, _, hd⟩ := List.mem_flatMap.mp hc
  rcases htmlReference_cases d with ⟨text, hmem, heq⟩ | ⟨hplain, heq⟩
  · rw [heq] at hd
    exact reference_safe _ hmem c hd
  · rw [heq] at hd
    obtain rfl := List.mem_singleton.mp hd
    refine fun hspecial => hplain ?_
    exact List.mem_of_mem_tail (l := references.map (·.2)) hspecial

/-- **Where `&` is left, a reference starts.** -/
theorem htmlEscape_references (s : List Char) {before after : List Char}
    (h : htmlEscape s = before ++ '&' :: after) :
    ∃ e ∈ references, e.1.toList <+: '&' :: after := by
  induction s generalizing before with
  | nil => simp [htmlEscape] at h
  | cons c s ih =>
      rw [htmlEscape, List.flatMap_cons] at h
      rcases List.append_eq_append_iff.mp h with ⟨more, rfl, hrest⟩ | ⟨more, hhead, hrest⟩
      · -- behind what the first character became
        exact ih hrest
      · cases more with
        | nil => exact ih (hrest.symm.trans (List.nil_append _).symm)
        | cons d more =>
            rw [List.cons_append, List.cons.injEq] at hrest
            obtain ⟨rfl, hafter⟩ := hrest
            rcases htmlReference_cases c with ⟨text, hmem, heq⟩ | ⟨hplain, heq⟩
            · -- the only `&` of a reference is its first character
              obtain ⟨tail, htail, hnone⟩ := reference_head _ hmem
              rw [heq, htail] at hhead
              cases before with
              | nil =>
                  refine ⟨_, hmem, ?_⟩
                  rw [htail, hhead, List.nil_append, hafter]
                  exact ⟨htmlEscape s, rfl⟩
              | cons b before =>
                  rw [List.cons_append, List.cons.injEq] at hhead
                  exact absurd (hhead.2 ▸ by simp) hnone
            · rw [heq] at hhead
              refine absurd ?_ hplain
              have hmem : '&' ∈ [c] := hhead ▸ by simp
              rw [← List.mem_singleton.mp hmem]
              decide

end TagTemplate.Text
