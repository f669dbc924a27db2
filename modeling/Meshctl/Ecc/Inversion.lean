import Meshctl.Ecc.Addition

/-! # Inverses modulo an odd number

Each of the two numbers that are made smaller stays the product of the input and a known
factor; in the end both are the greatest common divisor.
-/

namespace Meshctl.Ecc

open Bytes Digits

/-! ## Halving -/

theorem even_iff (vli : Vli) : even vli = true ↔ vli.value % 2 = 0 := by
  rcases vli.exists_digits with ⟨d0, d1, d2, d3, rfl⟩
  have lowBit : (d0 &&& 1).toNat = d0.toNat % 2 := by
    rw [BitVec.toNat_and]
    exact Nat.and_two_pow_sub_one_eq_mod d0.toNat 1
  rw [Vli.value_ofDigits, even, decide_eq_true_iff, eq_zero_iff_toNat]
  change (d0 &&& 1).toNat = 0 ↔ _
  rw [lowBit]
  omega

theorem odd_of_not_even {vli : Vli} (notEven : ¬even vli = true) : vli.value % 2 = 1 := by
  have differs := mt (even_iff vli).mpr notEven
  omega

theorem toNat_shift_top (digit : U64) :
    (digit <<< 63).toNat = 2 ^ 63 * (digit.toNat % 2) := by
  rw [BitVec.toNat_shiftLeft, Nat.shiftLeft_eq]
  omega

theorem rshift1Loop_value (digits : List U64) :
    (rshift1Loop digits).2.toNat = 2 ^ 63 * (value digits % 2) ∧
      value (rshift1Loop digits).1 = value digits / 2 := by
  induction digits with
  | nil => exact ⟨rfl, rfl⟩
  | cons temp digits induction =>
      rcases induction with ⟨isCarry, isRest⟩
      have small := temp.isLt
      have isHalf := toNat_shiftRight temp 1
      have isDigit : (temp >>> 1 ||| (rshift1Loop digits).2).toNat =
          temp.toNat / 2 ^ 1 + 2 ^ 63 * (value digits % 2) := by
        rw [← isHalf]
        exact toNat_or_of_lt (by omega) isCarry
      simp only [rshift1Loop, value_cons, toNat_shift_top, isDigit, isRest]
      omega

theorem vliRshift1_value (vli : Vli) : (vliRshift1 vli).value = vli.value / 2 :=
  (rshift1Loop_value vli.digits).2

theorem setTopBit_value {vli : Vli} {carry : U64} (small : vli.value < 2 ^ 255)
    (single : carry.toNat ≤ 1) :
    (setTopBit vli carry).value = vli.value + 2 ^ 255 * carry.toNat := by
  by_cases none : carry = 0
  · rw [setTopBit, if_pos none, none, toNat_zero_word]
    rfl
  · have isOne : carry.toNat = 1 := by
      have positive := mt (eq_zero_iff_toNat carry).mpr none
      omega
    rcases vli.exists_digits with ⟨d0, d1, d2, d3, rfl⟩
    rw [Vli.value_ofDigits] at small
    have isTop : (d3 ||| 0x8000000000000000).toNat = d3.toNat + 2 ^ 63 * 1 :=
      toNat_or_of_lt (by omega) rfl
    have isSet : setTopBit (.ofDigits d0 d1 d2 d3) carry =
        .ofDigits d0 d1 d2 (d3 ||| 0x8000000000000000) := by
      rw [setTopBit, if_neg none]
      rfl
    rw [isSet, Vli.value_ofDigits, Vli.value_ofDigits, isTop, isOne]
    omega

theorem halve_value {u mod : Vli} (odd : mod.value % 2 = 1) (small : u.value < mod.value) :
    (halve u mod).value < mod.value ∧ 2 * (halve u mod).value ≡ u.value [MOD mod.value] := by
  rw [halve]
  by_cases isEven : even u
  · have divides := (even_iff u).mp isEven
    rw [if_pos isEven, vliRshift1_value, Nat.mul_div_cancel' (Nat.dvd_of_mod_eq_zero divides)]
    exact ⟨by omega, Nat.ModEq.refl _⟩
  · have isOdd := odd_of_not_even isEven
    have sum := vliAdd_value u mod
    have modSmall := mod.value_lt
    have sumSmall := (vliAdd u mod).1.value_lt
    have halfSmall : (vliRshift1 (vliAdd u mod).1).value < 2 ^ 255 := by
      rw [vliRshift1_value]
      omega
    rw [if_neg isEven, setTopBit_value halfSmall (by omega), vliRshift1_value]
    have isSum : 2 * ((vliAdd u mod).1.value / 2 + 2 ^ 255 * (vliAdd u mod).2.toNat) =
        u.value + mod.value := by
      omega
    rw [isSum]
    exact ⟨by omega, Nat.add_modEq_right⟩

/-- What is carried out of the sum is borrowed again. -/
theorem differ_value {u v mod : Vli} (uSmall : u.value < mod.value)
    (vSmall : v.value < mod.value) :
    (differ u v mod).value < mod.value ∧
      (differ u v mod).value + v.value ≡ u.value [MOD mod.value] := by
  have less : vliCmp u v = .lt ↔ u.value < v.value := by
    rw [vliCmp_eq_compare, Nat.compare_eq_lt]
  have modSmall := mod.value_lt
  rw [differ]
  by_cases below : vliCmp u v = .lt
  · have isLess := less.mp below
    have sum := vliAdd_value u mod
    have difference := vliSub_value (vliAdd u mod).1 v
    have sumSmall := (vliAdd u mod).1.value_lt
    have resultSmall := (vliSub (vliAdd u mod).1 v).1.value_lt
    rw [if_pos below]
    have isResult : (vliSub (vliAdd u mod).1 v).1.value + v.value = u.value + mod.value := by
      omega
    rw [isResult]
    exact ⟨by omega, Nat.add_modEq_right⟩
  · have notLess := mt less.mpr below
    have difference := vliSub_value u v
    have resultSmall := (vliSub u v).1.value_lt
    rw [if_neg below]
    have isResult : (vliSub u v).1.value + v.value = u.value := by omega
    rw [isResult]
    exact ⟨by omega, Nat.ModEq.refl _⟩

theorem vliSub_value_of_le {left right : Vli} (le : right.value ≤ left.value) :
    (vliSub left right).1.value = left.value - right.value := by
  have difference := vliSub_value left right
  have small := (vliSub left right).1.value_lt
  have leftSmall := left.value_lt
  omega

/-! ## Factors -/

/-- A number with a factor that makes it from the input. -/
structure Factor (input mod number factor : Nat) : Prop where
  positive : 0 < number
  small : factor < mod
  times : factor * input ≡ number [MOD mod]

theorem Factor.halve {input : Nat} {mod factor : Vli} {number : Nat}
    (odd : mod.value % 2 = 1)
    (isFactor : Factor input mod.value number factor.value) (isEven : number % 2 = 0) :
    Factor input mod.value (number / 2) (halve factor mod).value := by
  rcases halve_value odd isFactor.small with ⟨small, twice⟩
  have positive := isFactor.positive
  have coprime : Nat.gcd mod.value 2 = 1 :=
    Nat.coprime_two_right.mpr (Nat.odd_iff.mpr odd)
  refine ⟨by omega, small, Nat.ModEq.cancel_left_of_coprime coprime ?_⟩
  rw [← Nat.mul_assoc, Nat.mul_div_cancel' (Nat.dvd_of_mod_eq_zero isEven)]
  exact (twice.mul_right input).trans isFactor.times

theorem Factor.differ {input : Nat} {mod factor other : Vli} {number less : Nat}
    (isFactor : Factor input mod.value number factor.value)
    (isOther : Factor input mod.value less other.value) (below : less < number) :
    Factor input mod.value (number - less) (differ factor other mod).value := by
  rcases differ_value isFactor.small isOther.small with ⟨small, sum⟩
  refine ⟨by omega, small, Nat.ModEq.add_right_cancel isOther.times ?_⟩
  rw [← Nat.add_mul, Nat.sub_add_cancel below.le]
  exact (sum.mul_right input).trans isFactor.times

/-! ## Rounds -/

/-- Both numbers come from the input, and have the divisors that it has in common with
the modulus. -/
structure Inverting.Keeps (input mod : Vli) (state : Inverting) : Prop where
  left : Factor input.value mod.value state.a.value state.u.value
  right : Factor input.value mod.value state.b.value state.v.value
  divisor : Nat.gcd state.a.value state.b.value = Nat.gcd input.value mod.value

theorem gcd_half {left right : Nat} (isEven : left % 2 = 0) (odd : right % 2 = 1) :
    Nat.gcd (left / 2) right = Nat.gcd left right := by
  have coprime : Nat.Coprime 2 right := Nat.coprime_two_left.mpr (Nat.odd_iff.mpr odd)
  rw [← Nat.Coprime.gcd_mul_left_cancel (left / 2) coprime,
    Nat.mul_div_cancel' (Nat.dvd_of_mod_eq_zero isEven)]

theorem gcd_half_difference {left right : Nat} (leftOdd : left % 2 = 1)
    (rightOdd : right % 2 = 1) (below : right < left) :
    Nat.gcd ((left - right) / 2) right = Nat.gcd left right := by
  rw [gcd_half (by omega) rightOdd, Nat.gcd_sub_self_left below.le]

/-- A product that has been halved is one bit shorter. -/
theorem size_lt_of_half {less more : Nat} (half : 2 * less ≤ more) (positive : 0 < less) :
    Nat.size less < Nat.size more := by
  rw [Nat.lt_size]
  have bound : 2 ^ (Nat.size less - 1) ≤ less :=
    Nat.lt_size.mp (Nat.sub_lt (Nat.size_pos.mpr positive) Nat.one_pos)
  have sized : 0 < Nat.size less := Nat.size_pos.mpr positive
  calc 2 ^ Nat.size less
      = 2 * 2 ^ (Nat.size less - 1) := by rw [← pow_succ', Nat.sub_add_cancel sized]
    _ ≤ 2 * less := Nat.mul_le_mul_left 2 bound
    _ ≤ more := half

namespace Inverting

def measure (state : Inverting) : Nat := Nat.size (state.a.value * state.b.value)

variable {input mod : Vli} {state following : Inverting}

/-- The modulus is odd, so that not both numbers are even. -/
theorem Keeps.not_both_even (odd : mod.value % 2 = 1) (keeps : Keeps input mod state)
    (left : state.a.value % 2 = 0) : state.b.value % 2 = 1 := by
  by_contra right
  have divides : 2 ∣ Nat.gcd state.a.value state.b.value :=
    Nat.dvd_gcd (by omega) (by omega)
  rw [keeps.divisor] at divides
  have isEven := divides.trans (Nat.gcd_dvd_right _ _)
  omega

theorem Keeps.measure_left (keeps : Keeps input mod following)
    (same : following.b = state.b) (half : 2 * following.a.value ≤ state.a.value) :
    following.measure < state.measure := by
  refine size_lt_of_half ?_ (Nat.mul_pos keeps.left.positive keeps.right.positive)
  rw [same, ← Nat.mul_assoc]
  exact Nat.mul_le_mul_right _ half

theorem Keeps.measure_right (keeps : Keeps input mod following)
    (same : following.a = state.a) (half : 2 * following.b.value ≤ state.b.value) :
    following.measure < state.measure := by
  refine size_lt_of_half ?_ (Nat.mul_pos keeps.left.positive keeps.right.positive)
  rw [same, Nat.mul_left_comm]
  exact Nat.mul_le_mul_left _ half

theorem Keeps.round (odd : mod.value % 2 = 1) (keeps : Keeps input mod state)
    (goesOn : state.round mod = some following) :
    Keeps input mod following ∧ following.measure < state.measure := by
  rcases keeps with ⟨left, right, divisor⟩
  rw [Inverting.round] at goesOn
  split_ifs at goesOn with same leftEven rightEven above <;> cases goesOn
  · have isEven := (even_iff state.a).mp leftEven
    have otherOdd := Keeps.not_both_even odd ⟨left, right, divisor⟩ isEven
    have isHalf := vliRshift1_value state.a
    have kept : Keeps input mod
        { state with a := vliRshift1 state.a, u := halve state.u mod } := by
      refine ⟨?_, right, ?_⟩
      · rw [isHalf]
        exact left.halve odd isEven
      · rw [isHalf, gcd_half isEven otherOdd, divisor]
    exact ⟨kept, kept.measure_left rfl (by rw [isHalf]; omega)⟩
  · have isEven := (even_iff state.b).mp rightEven
    have otherOdd := odd_of_not_even leftEven
    have isHalf := vliRshift1_value state.b
    have kept : Keeps input mod
        { state with b := vliRshift1 state.b, v := halve state.v mod } := by
      refine ⟨left, ?_, ?_⟩
      · rw [isHalf]
        exact right.halve odd isEven
      · rw [isHalf, Nat.gcd_comm, gcd_half isEven otherOdd, Nat.gcd_comm, divisor]
    exact ⟨kept, kept.measure_right rfl (by rw [isHalf]; omega)⟩
  · rw [vliCmp_eq_compare, Nat.compare_eq_gt] at above
    have leftOdd := odd_of_not_even leftEven
    have rightOdd := odd_of_not_even rightEven
    have isHalf : (vliRshift1 (vliSub state.a state.b).1).value =
        (state.a.value - state.b.value) / 2 := by
      rw [vliRshift1_value, vliSub_value_of_le above.le]
    have kept : Keeps input mod
        { state with
          a := vliRshift1 (vliSub state.a state.b).1
          u := halve (differ state.u state.v mod) mod } := by
      refine ⟨?_, right, ?_⟩
      · rw [isHalf]
        exact (left.differ right above).halve odd (by omega)
      · rw [isHalf, gcd_half_difference leftOdd rightOdd above, divisor]
    exact ⟨kept, kept.measure_left rfl (by rw [isHalf]; omega)⟩
  · rw [vliCmp_eq_compare, Nat.compare_eq_gt] at above
    rw [vliCmp_eq_compare, Nat.compare_eq_eq] at same
    have leftOdd := odd_of_not_even leftEven
    have rightOdd := odd_of_not_even rightEven
    have below : state.a.value < state.b.value := by omega
    have isHalf : (vliRshift1 (vliSub state.b state.a).1).value =
        (state.b.value - state.a.value) / 2 := by
      rw [vliRshift1_value, vliSub_value_of_le below.le]
    have kept : Keeps input mod
        { state with
          b := vliRshift1 (vliSub state.b state.a).1
          v := halve (differ state.v state.u mod) mod } := by
      refine ⟨left, ?_, ?_⟩
      · rw [isHalf]
        exact (right.differ left below).halve odd (by omega)
      · rw [isHalf, Nat.gcd_comm, gcd_half_difference rightOdd leftOdd below,
          Nat.gcd_comm, divisor]
    exact ⟨kept, kept.measure_right rfl (by rw [isHalf]; omega)⟩

theorem measure_lt (state : Inverting) : state.measure < 513 := by
  have bound : state.a.value * state.b.value < 2 ^ 256 * 2 ^ 256 :=
    Nat.mul_lt_mul'' state.a.value_lt state.b.value_lt
  exact Nat.lt_succ_of_le (Nat.size_le.mpr (by rw [← pow_add] at bound; exact bound))

end Inverting

theorem exists_modInv (input mod : Vli) (odd : mod.value % 2 = 1) (proper : 1 < mod.value) :
    ∃ result, vliModInv input mod = some result ∧ result.value < mod.value ∧
      result.value * input.value ≡ Nat.gcd input.value mod.value [MOD mod.value] := by
  rw [vliModInv]
  by_cases isZero : vliIsZero input
  · have noInput := (vliIsZero_iff input).mp isZero
    have nothing : Vli.zero.value = 0 := by decide
    refine ⟨.zero, if_pos isZero, by omega, ?_⟩
    rw [nothing, noInput, Nat.gcd_zero_left, Nat.zero_mul]
    exact (Nat.modEq_zero_iff_dvd.mpr dvd_rfl).symm
  · have positive : 0 < input.value := by
      have notZero := mt (vliIsZero_iff input).mpr isZero
      omega
    have one : Vli.one.value = 1 := by decide
    have zero : Vli.zero.value = 0 := by decide
    have left : Factor input.value mod.value input.value Vli.one.value := by
      refine ⟨positive, by omega, ?_⟩
      rw [one, Nat.one_mul]
    have right : Factor input.value mod.value mod.value Vli.zero.value := by
      refine ⟨by omega, by omega, ?_⟩
      rw [zero, Nat.zero_mul]
      exact (Nat.modEq_zero_iff_dvd.mpr dvd_rfl).symm
    have starts : Inverting.Keeps input mod ⟨input, mod, .one, .zero⟩ := ⟨left, right, rfl⟩
    rcases Loop.exists_run (Inverting.Keeps input mod) Inverting.measure
      (fun _ _ keeps goesOn => keeps.round odd goesOn) starts (Inverting.measure_lt _)
      with ⟨final, ran, ⟨left, right, divisor⟩, ended⟩
    have same : final.a.value = final.b.value := by
      rw [Inverting.round] at ended
      split_ifs at ended with same
      rw [vliCmp_eq_compare, Nat.compare_eq_eq] at same
      exact same
    refine ⟨final.u, ?_, left.small, ?_⟩
    · rw [if_neg isZero, ran]
      rfl
    · rw [← divisor, ← same, Nat.gcd_self]
      exact left.times

/-- The result is a number below the modulus whose product with the input is the greatest
common divisor of the two; it is the inverse when there is one. -/
theorem vliModInv_value (input mod : Vli) (odd : mod.value % 2 = 1) (proper : 1 < mod.value) :
    ∃ result, vliModInv input mod = some result ∧ result.value < mod.value ∧
      result.value * input.value ≡ Nat.gcd input.value mod.value [MOD mod.value] :=
  exists_modInv input mod odd proper

theorem vliModInv_value_two :
    ∃ result, vliModInv (.ofDigits 2 0 0 0) curveP = some result ∧
      result.value < curveP.value ∧
      result.value * (Vli.ofDigits 2 0 0 0).value ≡
        Nat.gcd (Vli.ofDigits 2 0 0 0).value curveP.value [MOD curveP.value] :=
  vliModInv_value (.ofDigits 2 0 0 0) curveP (by decide) (by decide)

end Meshctl.Ecc
