import Meshctl.Ecc.Multiplication

/-! # Reduction of a product

The upper digits of a product are folded onto the lower ones in halves. What comes out
is a few primes away from the remainder.
-/

namespace Meshctl.Ecc

open Bytes Digits

theorem curveP_value : curveP.value = 2 ^ 256 - 2 ^ 224 + 2 ^ 192 + 2 ^ 96 - 1 := by
  decide

theorem curveP_cast : (curveP.value : Int) = 2 ^ 256 - 2 ^ 224 + 2 ^ 192 + 2 ^ 96 - 1 := by
  rw [curveP_value]
  rfl

/-! ## Halves of digits -/

theorem toNat_and_high (digit : U64) :
    (digit &&& (0xffffffff00000000 : U64)).toNat = 2 ^ 32 * (digit.toNat / 2 ^ 32) := by
  have mask : ∀ i : Fin 64, (0xffffffff00000000 : U64).getLsbD i = decide (32 ≤ i.val) := by
    decide
  have cleared : digit &&& (0xffffffff00000000 : U64) = (digit >>> 32) <<< 32 := by
    apply BitVec.eq_of_getLsbD_eq
    intro i small
    rw [BitVec.getLsbD_and, mask ⟨i, small⟩, BitVec.getLsbD_shiftLeft,
      BitVec.getLsbD_ushiftRight]
    by_cases upper : 32 ≤ i
    · simp [upper, small, Nat.not_lt.mpr upper]
    · simp [upper, Nat.not_le.mp upper]
  have small := digit.isLt
  rw [cleared, toNat_shift_low, toNat_shiftRight]
  omega

theorem toNat_shift_high_lt (digit : U64) : (digit >>> 32).toNat < 2 ^ 32 := by
  have small := digit.isLt
  rw [toNat_shiftRight]
  omega

theorem toNat_high_or_low (high low : U64) :
    (high >>> 32 ||| low <<< 32).toNat =
      high.toNat / 2 ^ 32 + 2 ^ 32 * (low.toNat % 2 ^ 32) := by
  rw [toNat_or_of_lt (toNat_shift_high_lt high) (toNat_shift_low low), toNat_shiftRight]

theorem toNat_high_or_high (digit other : U64) :
    (digit >>> 32 ||| other &&& (0xffffffff00000000 : U64)).toNat =
      digit.toNat / 2 ^ 32 + 2 ^ 32 * (other.toNat / 2 ^ 32) := by
  rw [toNat_or_of_lt (toNat_shift_high_lt digit) (toNat_and_high other), toNat_shiftRight]

/-! ## Folding -/

namespace Reduced

/-- The carry counts multiples of 2 ^ 256, and may be negative. -/
def total (reduced : Reduced) : Int := reduced.result.value + 2 ^ 256 * reduced.carry

theorem start_total (result : Vli) : (start result).total = result.value := by
  simp [total, start]

theorem add_total (reduced : Reduced) (tmp : Vli) :
    (reduced.add tmp).total = reduced.total + tmp.value := by
  have sum := vliAdd_value reduced.result tmp
  simp only [total, add]
  omega

theorem addTwice_total (reduced : Reduced) (tmp : Vli) :
    (reduced.addTwice tmp).total = reduced.total + 2 * tmp.value := by
  have twice := vliLshift_value tmp
  rw [addTwice, add_total]
  simp only [total]
  omega

theorem sub_total (reduced : Reduced) (tmp : Vli) :
    (reduced.sub tmp).total = reduced.total - tmp.value := by
  have difference := vliSub_value reduced.result tmp
  simp only [total, sub]
  omega

end Reduced

namespace Product

theorem folded_total (product : Product) :
    product.folded.total =
      product.t.value + 2 * product.s1.value + 2 * product.s2.value + product.s3.value +
        product.s4.value - product.d1.value - product.d2.value - product.d3.value -
        product.d4.value := by
  simp only [folded, Reduced.sub_total, Reduced.add_total, Reduced.addTwice_total,
    Reduced.start_total]

theorem value_eq_digits (product : Product) :
    product.value = (product.digit 0).toNat + 2 ^ 64 * ((product.digit 1).toNat +
      2 ^ 64 * ((product.digit 2).toNat + 2 ^ 64 * ((product.digit 3).toNat +
      2 ^ 64 * ((product.digit 4).toNat + 2 ^ 64 * ((product.digit 5).toNat +
      2 ^ 64 * ((product.digit 6).toNat + 2 ^ 64 * (product.digit 7).toNat)))))) := by
  rcases product.exists_digits with ⟨d0, d1, d2, d3, d4, d5, d6, d7, digits⟩
  simp only [value, digit, digits, value_cons, value_nil, List.getD_cons_zero,
    List.getD_cons_succ, Nat.mul_zero, Nat.add_zero]

/-- The remainder of each half of an upper digit, in halves of lower digits. -/
theorem folded_congruent (product : Product) :
    ∃ quotient : Int,
      (product.value : Int) = product.folded.total + curveP.value * quotient := by
  rw [folded_total, value_eq_digits, curveP_cast]
  simp only [t, s1, s2, s3, s4, d1, d2, d3, d4, Vli.value_ofDigits, toNat_zero_word,
    toNat_high_or_low, toNat_high_or_high, toNat_low_or_shift, toNat_and_high,
    toNat_shift_low, toNat_and_low, toNat_shiftRight]
  have split4 := Nat.mod_add_div (product.digit 4).toNat (2 ^ 32)
  have split5 := Nat.mod_add_div (product.digit 5).toNat (2 ^ 32)
  have split6 := Nat.mod_add_div (product.digit 6).toNat (2 ^ 32)
  have split7 := Nat.mod_add_div (product.digit 7).toNat (2 ^ 32)
  generalize (product.digit 4).toNat % 2 ^ 32 = c8 at *
  generalize (product.digit 4).toNat / 2 ^ 32 = c9 at *
  generalize (product.digit 5).toNat % 2 ^ 32 = c10 at *
  generalize (product.digit 5).toNat / 2 ^ 32 = c11 at *
  generalize (product.digit 6).toNat % 2 ^ 32 = c12 at *
  generalize (product.digit 6).toNat / 2 ^ 32 = c13 at *
  generalize (product.digit 7).toNat % 2 ^ 32 = c14 at *
  generalize (product.digit 7).toNat / 2 ^ 32 = c15 at *
  rw [← split4, ← split5, ← split6, ← split7]
  refine ⟨c8 + 4294967297 * c9 + 18446744078004518912 * c10 +
    79228162532711081667253501951 * c11 +
    340282367000166625977638945021017194495 * c12 +
    1461501637671185285124623296161210883009696235519 * c13 +
    6277101736848182401166692341332123086285927382448418586623 * c14 +
    26959946673427741530053695850515137729844644212646842236464328081408 * c15, ?_⟩
  push_cast
  ring

/-- Four numbers are subtracted, and five are added, two of them twice. -/
theorem folded_bounds (product : Product) :
    -(15 * curveP.value : Int) ≤ product.folded.total ∧
      product.folded.total < 15 * curveP.value := by
  have small (vli : Vli) : vli.value < 2 ^ 256 := vli.value_lt
  have := small product.t
  have := small product.s1
  have := small product.s2
  have := small product.s3
  have := small product.s4
  have := small product.d1
  have := small product.d2
  have := small product.d3
  have := small product.d4
  rw [folded_total, curveP_value]
  omega

end Product

/-! ## The remainder -/

namespace Reduced

/-- When nothing is carried, the total is the result. -/
theorem result_of_total {reduced : Reduced} (nonneg : 0 ≤ reduced.total)
    (small : reduced.total < curveP.value) : reduced.result.value = reduced.total := by
  have bound := reduced.result.value_lt
  rw [curveP_value] at small
  rw [total] at *
  omega

theorem raise_eq_none_iff (reduced : Reduced) :
    reduced.raise = none ↔ 0 ≤ reduced.total := by
  have bound := reduced.result.value_lt
  rw [raise, total]
  split <;> simp only [reduceCtorEq, false_iff, true_iff] <;> omega

theorem lower_eq_none_iff {reduced : Reduced} (nonneg : 0 ≤ reduced.total) :
    reduced.lower = none ↔ reduced.total < curveP.value := by
  have bound := reduced.result.value_lt
  have prime := curveP_value
  have compared : vliCmp curveP reduced.result ≠ .gt ↔
      curveP.value ≤ reduced.result.value := by
    rw [vliCmp_eq_compare, Ne, Nat.compare_eq_gt, Nat.not_lt]
  rw [lower]
  by_cases large : reduced.carry ≠ 0 ∨ vliCmp curveP reduced.result ≠ .gt
  · rw [if_pos large]
    rw [compared] at large
    rw [total] at *
    simp only [reduceCtorEq, false_iff]
    omega
  · rw [if_neg large]
    rw [compared] at large
    rw [total] at *
    simp only [true_iff]
    omega

theorem raise_eq_some {reduced following : Reduced}
    (goesOn : reduced.raise = some following) :
    reduced.total < 0 ∧ following.total = reduced.total + curveP.value := by
  have negative : ¬0 ≤ reduced.total := by
    rw [← raise_eq_none_iff, goesOn]
    exact Option.some_ne_none _
  rw [raise] at goesOn
  split at goesOn
  · cases goesOn
    exact ⟨not_le.mp negative, add_total ..⟩
  · cases goesOn

theorem lower_eq_some {reduced following : Reduced} (nonneg : 0 ≤ reduced.total)
    (goesOn : reduced.lower = some following) :
    curveP.value ≤ reduced.total ∧ following.total = reduced.total - curveP.value := by
  have large : ¬reduced.total < curveP.value := by
    rw [← lower_eq_none_iff nonneg, goesOn]
    exact Option.some_ne_none _
  rw [lower] at goesOn
  split at goesOn
  · cases goesOn
    exact ⟨not_lt.mp large, sub_total ..⟩
  · cases goesOn

/-- Below zero the first loop ends with the remainder. -/
theorem run_raise {reduced : Reduced} (negative : reduced.total < 0)
    (small : -(15 * curveP.value : Int) ≤ reduced.total) :
    ∃ final, Loop.run raise 16 reduced = some final ∧
      final.result.value = reduced.total % curveP.value := by
  have prime := curveP_value
  rcases Loop.exists_run
    (fun state : Reduced => state.total < curveP.value ∧
      state.total % curveP.value = reduced.total % curveP.value)
    (fun state => (-(state.total / curveP.value)).toNat)
    (fun state following ⟨below, same⟩ goesOn => by
      rcases raise_eq_some goesOn with ⟨negative, isTotal⟩
      rw [isTotal, Int.add_emod_right]
      rw [prime] at *
      exact ⟨⟨by omega, same⟩, by omega⟩)
    ⟨by rw [prime]; omega, rfl⟩ (by rw [prime] at small ⊢; omega : _ < 16)
    with ⟨final, ran, ⟨below, same⟩, ended⟩
  have nonneg := (raise_eq_none_iff final).mp ended
  refine ⟨final, ran, ?_⟩
  rw [result_of_total nonneg below, ← same, Int.emod_eq_of_lt nonneg below]

theorem run_lower {reduced : Reduced} (nonneg : 0 ≤ reduced.total)
    (small : reduced.total < 15 * curveP.value) :
    ∃ final, Loop.run lower 16 reduced = some final ∧
      final.result.value = reduced.total % curveP.value := by
  have prime := curveP_value
  rcases Loop.exists_run
    (fun state : Reduced => 0 ≤ state.total ∧
      state.total % curveP.value = reduced.total % curveP.value)
    (fun state => (state.total / curveP.value).toNat)
    (fun state following ⟨nonneg, same⟩ goesOn => by
      rcases lower_eq_some nonneg goesOn with ⟨large, isTotal⟩
      rw [isTotal, Int.sub_emod_right]
      rw [prime] at *
      exact ⟨⟨by omega, same⟩, by omega⟩)
    ⟨nonneg, rfl⟩ (by rw [prime] at small ⊢; omega : _ < 16)
    with ⟨final, ran, ⟨nonneg, same⟩, ended⟩
  have below := (lower_eq_none_iff nonneg).mp ended
  refine ⟨final, ran, ?_⟩
  rw [result_of_total nonneg below, ← same, Int.emod_eq_of_lt nonneg below]

end Reduced

/-- The remainder of every number of eight digits is found. -/
theorem vliMmodFast_value (product : Product) :
    ∃ result, vliMmodFast product = some result ∧
      result.value = product.value % curveP.value := by
  rcases product.folded_congruent with ⟨quotient, congruent⟩
  rcases product.folded_bounds with ⟨above, below⟩
  have sameRemainder : product.folded.total % curveP.value =
      ((product.value % curveP.value : Nat) : Int) := by
    rw [Int.natCast_emod, congruent, Int.add_mul_emod_self_left]
  have sign : product.folded.carry < 0 ↔ product.folded.total < 0 := by
    have bound := product.folded.result.value_lt
    rw [Reduced.total]
    omega
  by_cases negative : product.folded.total < 0
  · rcases Reduced.run_raise negative above with ⟨final, ran, isRemainder⟩
    refine ⟨final.result, ?_, Int.ofNat_inj.mp (isRemainder.trans sameRemainder)⟩
    rw [vliMmodFast, if_pos (sign.mpr negative), ran]
    rfl
  · rcases Reduced.run_lower (not_lt.mp negative) below with ⟨final, ran, isRemainder⟩
    refine ⟨final.result, ?_, Int.ofNat_inj.mp (isRemainder.trans sameRemainder)⟩
    rw [vliMmodFast, if_neg (mt sign.mp negative), ran]
    rfl

end Meshctl.Ecc
