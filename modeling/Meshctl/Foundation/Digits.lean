import Mathlib

/-! # Numbers in digits

A list of words is a number whose digits they are, the least significant one first.
-/

namespace Meshctl.Digits

variable {width : Nat}

def value : List (BitVec width) → Nat
  | [] => 0
  | digit :: digits => digit.toNat + 2 ^ width * value digits

@[simp] theorem value_nil : value ([] : List (BitVec width)) = 0 := rfl

@[simp] theorem value_cons (digit : BitVec width) (digits : List (BitVec width)) :
    value (digit :: digits) = digit.toNat + 2 ^ width * value digits := rfl

theorem value_lt (digits : List (BitVec width)) :
    value digits < 2 ^ (width * digits.length) := by
  induction digits with
  | nil => simp
  | cons digit digits induction =>
      have small := digit.isLt
      calc value (digit :: digits)
          < 2 ^ width + 2 ^ width * value digits := Nat.add_lt_add_right small _
        _ = 2 ^ width * (value digits + 1) := by ring
        _ ≤ 2 ^ width * 2 ^ (width * digits.length) := Nat.mul_le_mul_left _ induction
        _ = 2 ^ (width * (digits.length + 1)) := by
            rw [← pow_add, Nat.mul_succ, Nat.add_comm]

theorem value_cons_inj {left right : BitVec width} {lefts rights : List (BitVec width)} :
    value (left :: lefts) = value (right :: rights) ↔
      left = right ∧ value lefts = value rights := by
  have leftSmall := left.isLt
  have rightSmall := right.isLt
  have positive : 0 < 2 ^ width := Nat.two_pow_pos width
  constructor
  · intro same
    rw [value_cons, value_cons] at same
    have low := congrArg (· % 2 ^ width) same
    have high := congrArg (· / 2 ^ width) same
    simp only [Nat.add_mul_mod_self_left, Nat.mod_eq_of_lt leftSmall,
      Nat.mod_eq_of_lt rightSmall] at low
    simp only [Nat.add_mul_div_left _ _ positive, Nat.div_eq_of_lt leftSmall,
      Nat.div_eq_of_lt rightSmall, Nat.zero_add] at high
    exact ⟨BitVec.eq_of_toNat_eq low, high⟩
  · rintro ⟨rfl, same⟩
    rw [value_cons, value_cons, same]

/-- Numbers with as many digits are equal only if all their digits are. -/
theorem value_inj {left right : List (BitVec width)} (sameLength : left.length = right.length) :
    value left = value right ↔ left = right := by
  induction left generalizing right with
  | nil =>
      rw [List.length_nil, eq_comm, List.length_eq_zero_iff] at sameLength
      simp [sameLength]
  | cons digit digits induction =>
      cases right with
      | nil => cases sameLength
      | cons other others =>
          rw [value_cons_inj, induction (Nat.succ.inj sameLength), List.cons.injEq]

end Meshctl.Digits
