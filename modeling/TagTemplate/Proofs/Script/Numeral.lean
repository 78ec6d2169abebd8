/-
  TagTemplate.Proofs.Script.Numeral
  ────────────────────────────────
  **NUMBERS IN CODE ARE READ BACK.**

  A line number is written with the digits that `toString` gives it.  The
  first one is no zero, so the lexer takes all of them as one number, and the
  number is the one that was written.
-/
import TagTemplate.Proofs.Script.Phrase

namespace TagTemplate.Script

open Text

/-- The first digit of a number that is not zero is no zero. -/
theorem toDigits_head {n : Nat} (h : 0 < n) :
    ∃ c cs, Nat.toDigits 10 n = c :: cs ∧ c ≠ '0' := by
  induction n using Nat.strongRecOn with
  | ind n ih =>
      rw [Nat.toDigits_eq_if (by decide)]
      by_cases hlt : n < 10
      · rw [if_pos hlt]
        exact ⟨n.digitChar, [], rfl, fun hzero => by rw [Nat.digitChar_eq_zero] at hzero; omega⟩
      · rw [if_neg hlt]
        obtain ⟨c, cs, hdigits, hc⟩ := ih (n / 10) (by omega) (by omega)
        exact ⟨c, cs ++ [(n % 10).digitChar], by rw [hdigits]; rfl, hc⟩

/-- All digits of a number are digits. -/
theorem isDigit_toDigits {n : Nat} : ∀ c ∈ Nat.toDigits 10 n, isDigit c = true :=
  fun _ hc => Nat.isDigit_of_mem_toDigits (by decide) (by decide) hc

theorem toList_toString (n : Nat) : (toString n).toList = Nat.toDigits 10 n := by
  rw [Nat.toString_eq_ofList_toDigits, String.toList_ofList]

/-- A number from one on, as it is written. -/
def Numeral.succ (n : Nat) : Numeral where
  text := toString (n + 1)
  isNumeral := by
    obtain ⟨c, cs, hdigits, hc⟩ := toDigits_head (Nat.succ_pos n)
    rw [toList_toString]
    unfold Lexeme.isNumeral
    rw [List.all_eq_true.mpr isDigit_toDigits, hdigits]
    simpa using hc

/-- The value of digits is what they are written for. -/
theorem digitsValue_toDigits (n : Nat) : digitsValue 10 (Nat.toDigits 10 n) = n := by
  have hvalue : ∀ (cs : List Char) (k : Nat), (∀ c ∈ cs, isDigit c = true) →
      cs.foldl (fun n c => n * 10 + (hexValue? c).getD 0) k = Nat.ofDigitChars 10 cs k := by
    intro cs
    induction cs with
    | nil => exact fun _ _ => rfl
    | cons c cs ih =>
        intro k hcs
        rw [List.forall_mem_cons] at hcs
        have hc : hexValue? c = some (c.toNat - '0'.toNat) := by
          have hdigit := hcs.1
          unfold isDigit at hdigit
          rw [Bool.and_eq_true, decide_eq_true_eq, decide_eq_true_eq] at hdigit
          unfold hexValue?
          rw [if_pos hdigit]
          rfl
        rw [List.foldl_cons, Nat.ofDigitChars_cons, ih _ hcs.2, hc, Nat.mul_comm]
        rfl
  exact (hvalue _ 0 isDigit_toDigits).trans Nat.ofDigitChars_ten_toDigits

theorem Numeral.value_succ (n : Nat) :
    numberValue (Numeral.succ n).text = .int (n + 1 : Nat) := by
  obtain ⟨c, cs, hdigits, hc⟩ := toDigits_head (Nat.succ_pos n)
  have hplain : (Nat.toDigits 10 (n + 1)).filter (· != '_') = Nat.toDigits 10 (n + 1) := by
    refine List.filter_eq_self.mpr fun a ha => ?_
    have hdigit := isDigit_toDigits a ha
    rw [bne_iff_ne]
    rintro rfl
    exact absurd hdigit (by decide)
  have hall : (Nat.toDigits 10 (n + 1)).all isDigit = true := List.all_eq_true.mpr isDigit_toDigits
  unfold numberValue
  rw [show (Numeral.succ n).text.toList = Nat.toDigits 10 (n + 1) from toList_toString (n + 1)]
  dsimp only
  rw [hplain]
  split
  next b rest heq =>
    rw [hdigits] at heq
    exact absurd (List.cons.inj heq).1 hc
  next =>
    unfold numberValue.plain
    rw [hall, if_pos rfl, digitsValue_toDigits]

end TagTemplate.Script
