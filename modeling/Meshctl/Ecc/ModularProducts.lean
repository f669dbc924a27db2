import Meshctl.Ecc.Reduction

/-! # Products modulo the prime

A product that has lost carries is not the right one modulo the prime either: what is
missing is no multiple of the prime.
-/

namespace Meshctl.Ecc

open Bytes Digits

theorem columnLosses_le (terms : List Term) (column : Column) :
    columnLosses terms column ≤ terms.length := by
  induction terms generalizing column with
  | nil => exact Nat.le_refl 0
  | cons term terms induction =>
      have one := Bool.toNat_le (column.losesTerm term)
      have rest := induction (column.addTerm term)
      rw [columnLosses, List.length_cons]
      omega

theorem shortfall_step {terms : Nat → List Term} (few : ∀ k, (terms k).length ≤ 4)
    (count k : Nat) (column : Column) :
    ∃ n ≤ 4, ∃ following, shortfall terms (count + 1) k column =
      2 ^ 128 * n + 2 ^ 64 * shortfall terms count (k + 1) following :=
  ⟨_, (columnLosses_le _ _).trans (few k), _, rfl⟩

/-- What is missing, column by column. -/
theorem exists_losses {terms : Nat → List Term} (few : ∀ k, (terms k).length ≤ 4)
    (column : Column) :
    ∃ n0 n1 n2 n3 n4 n5 n6 : Nat,
      (n0 ≤ 4 ∧ n1 ≤ 4 ∧ n2 ≤ 4 ∧ n3 ≤ 4 ∧ n4 ≤ 4 ∧ n5 ≤ 4 ∧ n6 ≤ 4) ∧
        shortfall terms 7 0 column =
          2 ^ 128 * (n0 + 2 ^ 64 * (n1 + 2 ^ 64 * (n2 + 2 ^ 64 * (n3 + 2 ^ 64 * (n4 +
            2 ^ 64 * (n5 + 2 ^ 64 * n6)))))) := by
  rcases shortfall_step few 6 0 column with ⟨n0, few0, column1, step0⟩
  rcases shortfall_step few 5 1 column1 with ⟨n1, few1, column2, step1⟩
  rcases shortfall_step few 4 2 column2 with ⟨n2, few2, column3, step2⟩
  rcases shortfall_step few 3 3 column3 with ⟨n3, few3, column4, step3⟩
  rcases shortfall_step few 2 4 column4 with ⟨n4, few4, column5, step4⟩
  rcases shortfall_step few 1 5 column5 with ⟨n5, few5, column6, step5⟩
  rcases shortfall_step few 0 6 column6 with ⟨n6, few6, column7, step6⟩
  refine ⟨n0, n1, n2, n3, n4, n5, n6, ⟨few0, few1, few2, few3, few4, few5, few6⟩, ?_⟩
  rw [step0, step1, step2, step3, step4, step5, step6, shortfall]
  ring

/-- Eight words of 32 bits, which may be negative. -/
def wordsValue : List Int → Int
  | [] => 0
  | word :: words => word + 2 ^ 32 * wordsValue words

theorem wordsValue_bounds {words : List Int} (small : ∀ word ∈ words, -12 ≤ word ∧ word ≤ 12) :
    -(12 * (2 ^ (32 * words.length) - 1)) ≤ (2 ^ 32 - 1) * wordsValue words ∧
      (2 ^ 32 - 1) * wordsValue words ≤ 12 * (2 ^ (32 * words.length) - 1) := by
  induction words with
  | nil => exact ⟨by decide, by decide⟩
  | cons word words induction =>
      rw [List.forall_mem_cons] at small
      rcases induction small.2 with ⟨above, below⟩
      have wordSmall := small.1
      have power : (2 : Int) ^ (32 * (words.length + 1)) = 2 ^ 32 * 2 ^ (32 * words.length) := by
        rw [← pow_add, Nat.mul_succ, Nat.add_comm]
      rw [wordsValue, List.length_cons, power]
      omega

/-- Small words do not cancel each other. -/
theorem words_eq_zero {words : List Int} (small : ∀ word ∈ words, -12 ≤ word ∧ word ≤ 12)
    (total : wordsValue words = 0) : ∀ word ∈ words, word = 0 := by
  induction words with
  | nil => exact fun _ isMember => absurd isMember List.not_mem_nil
  | cons word words induction =>
      rw [List.forall_mem_cons] at small ⊢
      have wordSmall := small.1
      rw [wordsValue] at total
      exact ⟨by omega, induction small.2 (by omega)⟩

/-- The words of what is missing, modulo the prime. -/
def remainderWords (n0 n1 n2 n3 n4 n5 n6 : Int) : List Int :=
  [n0 + n4 - n6, n5 - n6, n1 + n5, 2 * n6 - n4, n2 + 2 * n6 - n5, -n5, n3 - n4,
    n4 - n5 - n6]

theorem remainderWords_value (n0 n1 n2 n3 n4 n5 n6 : Int) :
    ∃ quotient, n0 + 2 ^ 64 * (n1 + 2 ^ 64 * (n2 + 2 ^ 64 * (n3 + 2 ^ 64 * (n4 +
        2 ^ 64 * (n5 + 2 ^ 64 * n6))))) =
      wordsValue (remainderWords n0 n1 n2 n3 n4 n5 n6) + curveP.value * quotient := by
  refine ⟨n4 + 18446744078004518912 * n5 + 340282367000166625977638945021017194495 * n6, ?_⟩
  rw [curveP_cast]
  simp only [remainderWords, wordsValue]
  ring

/-- A few powers of 2 ^ 64 do not add up to a multiple of the prime. -/
theorem losses_not_multiple {n0 n1 n2 n3 n4 n5 n6 : Nat}
    (few : n0 ≤ 4 ∧ n1 ≤ 4 ∧ n2 ≤ 4 ∧ n3 ≤ 4 ∧ n4 ≤ 4 ∧ n5 ≤ 4 ∧ n6 ≤ 4)
    (multiple : curveP.value ∣ n0 + 2 ^ 64 * (n1 + 2 ^ 64 * (n2 + 2 ^ 64 * (n3 +
      2 ^ 64 * (n4 + 2 ^ 64 * (n5 + 2 ^ 64 * n6)))))) :
    n0 = 0 ∧ n1 = 0 ∧ n2 = 0 ∧ n3 = 0 ∧ n4 = 0 ∧ n5 = 0 ∧ n6 = 0 := by
  have small : ∀ word ∈ remainderWords n0 n1 n2 n3 n4 n5 n6, -12 ≤ word ∧ word ≤ 12 := by
    simp only [remainderWords, List.forall_mem_cons]
    refine ⟨?_, ?_, ?_, ?_, ?_, ?_, ?_, ?_, fun _ isMember => absurd isMember List.not_mem_nil⟩
      <;> omega
  have none : wordsValue (remainderWords n0 n1 n2 n3 n4 n5 n6) = 0 := by
    rcases remainderWords_value n0 n1 n2 n3 n4 n5 n6 with ⟨quotient, isValue⟩
    rcases wordsValue_bounds small with ⟨above, below⟩
    rcases multiple with ⟨factor, total⟩
    have isMultiple : wordsValue (remainderWords n0 n1 n2 n3 n4 n5 n6) =
        curveP.value * (factor - quotient) := by
      have cast := congrArg (Nat.cast : Nat → Int) total
      push_cast at cast
      linear_combination cast - isValue
    rw [curveP_cast] at isMultiple
    have length : (remainderWords n0 n1 n2 n3 n4 n5 n6).length = 8 := rfl
    rw [length] at above below
    generalize wordsValue _ = remainder at *
    generalize (factor : Int) - quotient = number at *
    omega
  have zero := words_eq_zero small none
  simp only [remainderWords, List.forall_mem_cons] at zero
  omega

theorem shortfall_mod_eq_zero_iff {terms : Nat → List Term}
    (few : ∀ k, (terms k).length ≤ 4) (column : Column) :
    shortfall terms 7 0 column % curveP.value = 0 ↔
      keepsCarries terms 7 0 column = true := by
  rw [← shortfall_eq_zero_iff]
  constructor
  · intro multiple
    rcases exists_losses few column with ⟨n0, n1, n2, n3, n4, n5, n6, bounds, isShort⟩
    have odd : Nat.Coprime curveP.value (2 ^ 128) := by
      apply Nat.Coprime.pow_right
      rw [Nat.coprime_two_right, curveP_value]
      decide
    have divides := Nat.dvd_of_mod_eq_zero multiple
    rw [isShort] at divides ⊢
    rcases losses_not_multiple bounds (odd.dvd_of_dvd_mul_left divides) with
      ⟨rfl, rfl, rfl, rfl, rfl, rfl, rfl⟩
    rfl
  · intro none
    rw [none, Nat.zero_mod]

theorem mod_eq_iff_of_shortfall {found short whole modulus : Nat}
    (total : found + short = whole) :
    found % modulus = whole % modulus ↔ short % modulus = 0 := by
  rw [← total]
  change found ≡ found + short [MOD modulus] ↔ _
  rw [← Nat.dvd_iff_mod_eq_zero, Nat.modEq_iff_dvd' (Nat.le_add_right _ _),
    Nat.add_sub_cancel_left]

theorem curveP_positive : 0 < curveP.value := by decide

theorem vliModMultFast_value (left right : Vli) :
    ∃ result, vliModMultFast left right = some result ∧ result.value < curveP.value ∧
      (result.value = left.value * right.value % curveP.value ↔
        keepsCarries (multTerms left right) (numEccDigits * 2 - 1) 0 .zero = true) := by
  rcases vliMmodFast_value (vliMult left right) with ⟨result, found, isRemainder⟩
  refine ⟨result, found, isRemainder ▸ Nat.mod_lt _ curveP_positive, ?_⟩
  rw [isRemainder, mod_eq_iff_of_shortfall (vliMult_value left right)]
  exact shortfall_mod_eq_zero_iff (length_multTerms left right) .zero

theorem vliModSquareFast_value (left : Vli) :
    ∃ result, vliModSquareFast left = some result ∧ result.value < curveP.value ∧
      (result.value = left.value * left.value % curveP.value ↔
        keepsCarries (squareTerms left) (numEccDigits * 2 - 1) 0 .zero = true) := by
  rcases vliMmodFast_value (vliSquare left) with ⟨result, found, isRemainder⟩
  refine ⟨result, found, isRemainder ▸ Nat.mod_lt _ curveP_positive, ?_⟩
  rw [isRemainder, mod_eq_iff_of_shortfall (vliSquare_value left)]
  exact shortfall_mod_eq_zero_iff (length_squareTerms left) .zero

/-- Products modulo the prime are found, and are right exactly when no carry is lost in a
column. -/
theorem modular_products_exact_iff :
    (∀ left right, ∃ result, vliModMultFast left right = some result ∧
      result.value < curveP.value ∧
      (result.value = left.value * right.value % curveP.value ↔
        keepsCarries (multTerms left right) (numEccDigits * 2 - 1) 0 .zero = true)) ∧
    ∀ left, ∃ result, vliModSquareFast left = some result ∧
      result.value < curveP.value ∧
      (result.value = left.value * left.value % curveP.value ↔
        keepsCarries (squareTerms left) (numEccDigits * 2 - 1) 0 .zero = true) :=
  ⟨vliModMultFast_value, vliModSquareFast_value⟩

end Meshctl.Ecc
