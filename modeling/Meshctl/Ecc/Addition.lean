import Meshctl.Foundation.Digits
import Meshctl.Ecc.Vli

/-! # Sums and differences of long integers -/

namespace Meshctl.Ecc

open Bytes Digits

/-! ## Digits -/

theorem toNat_zero_word : (0 : U64).toNat = 0 := rfl

theorem toNat_one_word : (1 : U64).toNat = 1 := rfl

theorem toNat_shiftRight (digit : U64) (shift : Nat) :
    (digit >>> shift).toNat = digit.toNat / 2 ^ shift := by
  rw [BitVec.toNat_ushiftRight, Nat.shiftRight_eq_div_pow]

theorem toNat_shiftLeft_one (digit : U64) :
    (digit <<< 1).toNat = 2 ^ 1 * (digit.toNat % 2 ^ 63) := by
  rw [BitVec.toNat_shiftLeft, Nat.shiftLeft_eq]
  omega

theorem eq_zero_iff_toNat (digit : U64) : digit = 0 ↔ digit.toNat = 0 := by
  rw [← BitVec.toNat_inj, toNat_zero_word]

/-- One digit more. -/
theorem pow_digits_succ (length : Nat) :
    2 ^ (64 * (length + 1)) = 2 ^ 64 * 2 ^ (64 * length) := by
  rw [← pow_add, Nat.mul_succ, Nat.add_comm]

/-- Digits without a common bit are joined. -/
theorem toNat_or_of_lt {low high : U64} {width upper : Nat} (small : low.toNat < 2 ^ width)
    (isHigh : high.toNat = 2 ^ width * upper) :
    (low ||| high).toNat = low.toNat + 2 ^ width * upper := by
  rw [BitVec.toNat_or, isHigh, Nat.or_comm, ← Nat.two_pow_add_eq_or_of_lt small,
    Nat.add_comm]

/-! ## Values -/

def Vli.value (vli : Vli) : Nat := Digits.value vli.digits

theorem Vli.value_lt (vli : Vli) : vli.value < 2 ^ 256 := by
  have bound := Digits.value_lt vli.digits
  rw [vli.sized] at bound
  exact bound

theorem Vli.exists_digits (vli : Vli) :
    ∃ d0 d1 d2 d3, vli = .ofDigits d0 d1 d2 d3 := by
  rcases vli with ⟨_ | ⟨d0, _ | ⟨d1, _ | ⟨d2, _ | ⟨d3, _ | ⟨d4, digits⟩⟩⟩⟩⟩, sized⟩
  · cases sized
  · cases sized
  · cases sized
  · cases sized
  · exact ⟨d0, d1, d2, d3, rfl⟩
  · exact absurd sized (by simp [numEccDigits])

theorem Vli.value_ofDigits (d0 d1 d2 d3 : U64) :
    (Vli.ofDigits d0 d1 d2 d3).value = d0.toNat + 2 ^ 64 * d1.toNat +
      2 ^ 128 * d2.toNat + 2 ^ 192 * d3.toNat := by
  simp only [Vli.value, Vli.ofDigits, value_cons, value_nil]
  ring

def Product.value (product : Product) : Nat := Digits.value product.digits

theorem Product.exists_digits (product : Product) :
    ∃ d0 d1 d2 d3 d4 d5 d6 d7, product.digits = [d0, d1, d2, d3, d4, d5, d6, d7] := by
  rcases product with ⟨_ | ⟨d0, _ | ⟨d1, _ | ⟨d2, _ | ⟨d3, digits⟩⟩⟩⟩, sized⟩
  · cases sized
  · cases sized
  · cases sized
  · cases sized
  · have rest : digits.length = numEccDigits :=
      Nat.add_right_cancel (m := 4) sized
    rcases Vli.exists_digits ⟨digits, rest⟩ with ⟨d4, d5, d6, d7, same⟩
    exact ⟨d0, d1, d2, d3, d4, d5, d6, d7,
      congrArg (fun digits => d0 :: d1 :: d2 :: d3 :: digits) (congrArg Vli.digits same)⟩

/-! ## Adding -/

/-- A sum that is the left digit again has no carry of its own, but keeps the one that
came in. -/
theorem add_digit (left right : U64) {carry : U64} (single : carry.toNat ≤ 1) :
    let sum := left + right + carry
    let next : U64 := if sum ≠ left then (if sum < left then 1 else 0) else carry
    sum.toNat + 2 ^ 64 * next.toNat = left.toNat + right.toNat + carry.toNat ∧
      next.toNat ≤ 1 := by
  intro sum next
  have isSum : sum.toNat = (left.toNat + right.toNat + carry.toNat) % 2 ^ 64 := by
    rw [BitVec.toNat_add, BitVec.toNat_add, Nat.mod_add_mod]
  have leftSmall := left.isLt
  have rightSmall := right.isLt
  by_cases same : sum = left
  · rw [same] at isSum
    have kept : next = carry := if_neg (not_not_intro same)
    rw [kept, same]
    omega
  · have differs : sum.toNat ≠ left.toNat := fun equal => same (BitVec.eq_of_toNat_eq equal)
    by_cases wrapped : sum < left
    · have isOne : next = 1 := (if_pos same).trans (if_pos wrapped)
      rw [BitVec.lt_def] at wrapped
      rw [isOne, toNat_one_word]
      omega
    · have isZero : next = 0 := (if_pos same).trans (if_neg wrapped)
      rw [BitVec.lt_def] at wrapped
      rw [isZero, toNat_zero_word]
      omega

theorem addLoop_value {lefts rights : List U64} (sameLength : lefts.length = rights.length)
    (carry : U64) (single : carry.toNat ≤ 1) :
    value (addLoop carry lefts rights).1 +
        2 ^ (64 * lefts.length) * (addLoop carry lefts rights).2.toNat =
      value lefts + value rights + carry.toNat := by
  induction lefts generalizing carry rights with
  | nil =>
      rw [List.length_nil, eq_comm, List.length_eq_zero_iff] at sameLength
      simp [sameLength, addLoop]
  | cons left lefts induction =>
      cases rights with
      | nil => cases sameLength
      | cons right rights =>
          rcases add_digit left right single with ⟨digit, nextSingle⟩
          have rest := induction (Nat.succ.inj sameLength) _ nextSingle
          simp only [addLoop, value_cons, List.length_cons, pow_digits_succ, Nat.mul_assoc]
          generalize 2 ^ (64 * lefts.length) * _ = out at rest ⊢
          omega

/-- A sum, and what is carried out of it. -/
theorem vliAdd_value (left right : Vli) :
    (vliAdd left right).1.value + 2 ^ 256 * (vliAdd left right).2.toNat =
      left.value + right.value := by
  have total := addLoop_value (left.sized.trans right.sized.symm) 0 (Nat.zero_le 1)
  rw [left.sized] at total
  exact total

/-! ## Subtracting -/

theorem sub_digit (left right : U64) {borrow : U64} (single : borrow.toNat ≤ 1) :
    let diff := left - right - borrow
    let next : U64 := if diff ≠ left then (if left < diff then 1 else 0) else borrow
    diff.toNat + right.toNat + borrow.toNat = left.toNat + 2 ^ 64 * next.toNat ∧
      next.toNat ≤ 1 := by
  intro diff next
  have leftSmall := left.isLt
  have rightSmall := right.isLt
  have isDiff : diff.toNat =
      (2 ^ 64 - borrow.toNat + (2 ^ 64 - right.toNat + left.toNat) % 2 ^ 64) % 2 ^ 64 := by
    rw [BitVec.toNat_sub, BitVec.toNat_sub]
  by_cases same : diff = left
  · rw [same] at isDiff
    have kept : next = borrow := if_neg (not_not_intro same)
    rw [kept, same]
    omega
  · have differs : diff.toNat ≠ left.toNat :=
      fun equal => same (BitVec.eq_of_toNat_eq equal)
    by_cases wrapped : left < diff
    · have isOne : next = 1 := (if_pos same).trans (if_pos wrapped)
      rw [BitVec.lt_def] at wrapped
      rw [isOne, toNat_one_word]
      omega
    · have isZero : next = 0 := (if_pos same).trans (if_neg wrapped)
      rw [BitVec.lt_def] at wrapped
      rw [isZero, toNat_zero_word]
      omega

theorem subLoop_value {lefts rights : List U64} (sameLength : lefts.length = rights.length)
    (borrow : U64) (single : borrow.toNat ≤ 1) :
    value (subLoop borrow lefts rights).1 + value rights + borrow.toNat =
      value lefts + 2 ^ (64 * lefts.length) * (subLoop borrow lefts rights).2.toNat := by
  induction lefts generalizing borrow rights with
  | nil =>
      rw [List.length_nil, eq_comm, List.length_eq_zero_iff] at sameLength
      simp [sameLength, subLoop]
  | cons left lefts induction =>
      cases rights with
      | nil => cases sameLength
      | cons right rights =>
          rcases sub_digit left right single with ⟨digit, nextSingle⟩
          have rest := induction (Nat.succ.inj sameLength) _ nextSingle
          simp only [subLoop, value_cons, List.length_cons, pow_digits_succ, Nat.mul_assoc]
          generalize 2 ^ (64 * lefts.length) * _ = out at rest ⊢
          omega

theorem vliSub_value (left right : Vli) :
    (vliSub left right).1.value + right.value =
      left.value + 2 ^ 256 * (vliSub left right).2.toNat := by
  have total := subLoop_value (left.sized.trans right.sized.symm) 0 (Nat.zero_le 1)
  rw [left.sized] at total
  exact total

/-! ## Doubling -/

theorem lshiftLoop_value (digits : List U64) (carry : U64) (single : carry.toNat ≤ 1) :
    value (lshiftLoop 1 carry digits).1 +
        2 ^ (64 * digits.length) * (lshiftLoop 1 carry digits).2.toNat =
      2 * value digits + carry.toNat := by
  induction digits generalizing carry with
  | nil => simp [lshiftLoop]
  | cons temp digits induction =>
      have isTop := toNat_shiftRight temp (64 - 1)
      have isDigit : (temp <<< 1 ||| carry).toNat =
          carry.toNat + 2 ^ 1 * (temp.toNat % 2 ^ 63) := by
        rw [BitVec.or_comm]
        exact toNat_or_of_lt (by omega) (toNat_shiftLeft_one temp)
      have small := temp.isLt
      have rest := induction (temp >>> (64 - 1)) (by omega)
      simp only [lshiftLoop, value_cons, List.length_cons, pow_digits_succ, Nat.mul_assoc, isDigit]
      generalize 2 ^ (64 * digits.length) * _ = out at rest ⊢
      omega

theorem vliLshift_value (vli : Vli) :
    (vliLshift vli 1).1.value + 2 ^ 256 * (vliLshift vli 1).2.toNat = 2 * vli.value := by
  have total := lshiftLoop_value vli.digits 0 (Nat.zero_le 1)
  rw [vli.sized] at total
  exact total

/-! ## Comparing -/

theorem cmpLoop_eq_compare {lefts rights : List U64}
    (sameLength : lefts.length = rights.length) :
    cmpLoop lefts rights = compare (value lefts) (value rights) := by
  induction lefts generalizing rights with
  | nil =>
      rw [List.length_nil, eq_comm, List.length_eq_zero_iff] at sameLength
      rw [sameLength]
      rfl
  | cons left lefts induction =>
      cases rights with
      | nil => cases sameLength
      | cons right rights =>
          have leftSmall := left.isLt
          have rightSmall := right.isLt
          rw [cmpLoop, induction (Nat.succ.inj sameLength), value_cons, value_cons]
          rcases Nat.lt_trichotomy (value lefts) (value rights) with less | same | more
          · rw [Nat.compare_eq_lt.mpr less]
            exact (Nat.compare_eq_lt.mpr (by omega)).symm
          · rw [Nat.compare_eq_eq.mpr same, same]
            simp only [Nat.compare_eq_ite_lt, BitVec.lt_def, Nat.add_lt_add_iff_right]
            split_ifs <;> first | rfl | omega
          · rw [Nat.compare_eq_gt.mpr more]
            exact (Nat.compare_eq_gt.mpr (by omega)).symm

theorem vliCmp_eq_compare (left right : Vli) :
    vliCmp left right = compare left.value right.value :=
  cmpLoop_eq_compare (left.sized.trans right.sized.symm)

theorem vliIsZero_iff (vli : Vli) : vliIsZero vli = true ↔ vli.value = 0 := by
  rcases vli.exists_digits with ⟨d0, d1, d2, d3, rfl⟩
  rw [Vli.value_ofDigits]
  simp only [vliIsZero, Vli.ofDigits, List.all_cons, List.all_nil, Bool.and_true,
    Bool.and_eq_true, decide_eq_true_iff, eq_zero_iff_toNat]
  omega

theorem foldr_or_eq_zero_iff (differences : List U64) :
    differences.foldr (fun digit diff => diff ||| digit) 0 = 0 ↔
      ∀ digit ∈ differences, digit = 0 := by
  induction differences with
  | nil => simp
  | cons digit digits induction =>
      rw [List.foldr_cons, List.forall_mem_cons, ← induction, and_comm]
      exact BitVec.or_eq_zero_iff

theorem vliEqual_iff (left right : Vli) :
    vliEqual left right = true ↔ left.value = right.value := by
  rw [Vli.value, Vli.value, value_inj (left.sized.trans right.sized.symm)]
  rcases left.exists_digits with ⟨l0, l1, l2, l3, rfl⟩
  rcases right.exists_digits with ⟨r0, r1, r2, r3, rfl⟩
  rw [vliEqual, decide_eq_true_iff, foldr_or_eq_zero_iff]
  simp [Vli.ofDigits, BitVec.xor_eq_zero_iff]

/-! ## Sums and differences modulo a number -/

theorem vliModAdd_value {left right mod : Vli} (leftSmall : left.value < mod.value)
    (rightSmall : right.value < mod.value) :
    (vliModAdd left right mod).value < mod.value ∧
      (vliModAdd left right mod).value ≡ left.value + right.value [MOD mod.value] := by
  have sum := vliAdd_value left right
  have sumSmall := (vliAdd left right).1.value_lt
  have modSmall := mod.value_lt
  have less : vliCmp (vliAdd left right).1 mod = .lt ↔
      (vliAdd left right).1.value < mod.value := by
    rw [vliCmp_eq_compare, Nat.compare_eq_lt]
  rw [vliModAdd]
  by_cases reached : (vliAdd left right).2 ≠ 0 ∨ vliCmp (vliAdd left right).1 mod ≠ .lt
  · have difference := vliSub_value (vliAdd left right).1 mod
    have resultSmall := (vliSub (vliAdd left right).1 mod).1.value_lt
    rw [if_pos reached]
    rw [Ne, Ne, eq_zero_iff_toNat, less] at reached
    have isResult : (vliSub (vliAdd left right).1 mod).1.value + mod.value =
        left.value + right.value := by
      omega
    rw [← isResult]
    exact ⟨by omega, Nat.add_modEq_right.symm⟩
  · rw [if_neg reached]
    rw [not_or, not_not, not_not, eq_zero_iff_toNat, less] at reached
    have isResult : (vliAdd left right).1.value = left.value + right.value := by omega
    rw [← isResult]
    exact ⟨reached.2, Nat.ModEq.refl _⟩

theorem vliModSub_value {left right mod : Vli} (leftSmall : left.value < mod.value)
    (rightSmall : right.value < mod.value) :
    (vliModSub left right mod).value < mod.value ∧
      (vliModSub left right mod).value + right.value ≡ left.value [MOD mod.value] := by
  have difference := vliSub_value left right
  have resultSmall := (vliSub left right).1.value_lt
  have modSmall := mod.value_lt
  rw [vliModSub]
  by_cases borrowed : (vliSub left right).2 ≠ 0
  · have sum := vliAdd_value (vliSub left right).1 mod
    have sumSmall := (vliAdd (vliSub left right).1 mod).1.value_lt
    rw [if_pos borrowed]
    rw [Ne, eq_zero_iff_toNat] at borrowed
    have isResult : (vliAdd (vliSub left right).1 mod).1.value + right.value =
        left.value + mod.value := by
      omega
    rw [isResult]
    exact ⟨by omega, Nat.add_modEq_right⟩
  · rw [if_neg borrowed]
    rw [not_not, eq_zero_iff_toNat] at borrowed
    have isResult : (vliSub left right).1.value + right.value = left.value := by omega
    rw [isResult]
    exact ⟨by omega, Nat.ModEq.refl _⟩

end Meshctl.Ecc
