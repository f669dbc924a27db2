import Meshctl.Ecc.ModularProducts
import Mathlib.AlgebraicGeometry.EllipticCurve.Affine.Basic

/-! # Points of the curve

Numbers below the prime stand for residues. A public key is accepted if its two numbers
are a point of the curve.
-/

namespace Meshctl.Ecc

open Bytes Digits

/-- `struct ecc_point` -/
structure EccPoint where
  x : Vli
  y : Vli
deriving DecidableEq

def curveG : EccPoint where
  x := .ofDigits 0xF4A13945D898C296 0x77037D812DEB33A0 0xF8BCE6E563A440F2
    0x6B17D1F2E12C4247
  y := .ofDigits 0xCBB6406837BF51F5 0x2BCE33576B315ECE 0x8EE7EB4A7C0F9E16
    0x4FE342E2FE1A7F9B

def eccPointIsZero (point : EccPoint) : Bool := vliIsZero point.x && vliIsZero point.y

/-- `-a = 3` -/
def three : Vli := .ofDigits 3 0 0 0

def eccValidPoint (point : EccPoint) : Option Bool :=
  if eccPointIsZero point then some false
  else if vliCmp curveP point.x ≠ .gt ∨ vliCmp curveP point.y ≠ .gt then some false
  else do
    let tmp1 ← vliModSquareFast point.y
    let tmp2 ← vliModSquareFast point.x
    let tmp2 ← vliModMultFast (vliModSub tmp2 three curveP) point.x
    some (vliEqual tmp1 (vliModAdd tmp2 curveB curveP))

/-- Whether no product that is computed for a point loses a carry. -/
def EccPoint.keepsCarries (point : EccPoint) : Bool :=
  Ecc.keepsCarries (squareTerms point.y) (numEccDigits * 2 - 1) 0 .zero &&
    Ecc.keepsCarries (squareTerms point.x) (numEccDigits * 2 - 1) 0 .zero &&
    (vliModSquareFast point.x).all fun square =>
      Ecc.keepsCarries (multTerms (vliModSub square three curveP) point.x)
        (numEccDigits * 2 - 1) 0 .zero

/-! ## Residues -/

def Vli.residue (vli : Vli) : ZMod curveP.value := vli.value

theorem residue_eq_iff {left right : Vli} (leftSmall : left.value < curveP.value)
    (rightSmall : right.value < curveP.value) :
    left.residue = right.residue ↔ left.value = right.value := by
  rw [Vli.residue, Vli.residue, ZMod.natCast_eq_natCast_iff', Nat.mod_eq_of_lt leftSmall,
    Nat.mod_eq_of_lt rightSmall]

theorem residue_modAdd {left right : Vli} (leftSmall : left.value < curveP.value)
    (rightSmall : right.value < curveP.value) :
    (vliModAdd left right curveP).residue = left.residue + right.residue := by
  have sum := (vliModAdd_value leftSmall rightSmall).2
  rw [← ZMod.natCast_eq_natCast_iff, Nat.cast_add] at sum
  exact sum

theorem residue_modSub {left right : Vli} (leftSmall : left.value < curveP.value)
    (rightSmall : right.value < curveP.value) :
    (vliModSub left right curveP).residue = left.residue - right.residue := by
  have difference := (vliModSub_value leftSmall rightSmall).2
  rw [← ZMod.natCast_eq_natCast_iff, Nat.cast_add] at difference
  exact eq_sub_of_add_eq difference

theorem exists_modMultFast (left right : Vli)
    (keeps : keepsCarries (multTerms left right) (numEccDigits * 2 - 1) 0 .zero = true) :
    ∃ result, vliModMultFast left right = some result ∧ result.value < curveP.value ∧
      result.residue = left.residue * right.residue := by
  rcases vliModMultFast_value left right with ⟨result, found, small, isProduct⟩
  refine ⟨result, found, small, ?_⟩
  rw [Vli.residue, isProduct.mpr keeps, ZMod.natCast_mod, Nat.cast_mul]
  rfl

theorem exists_modSquareFast (left : Vli)
    (keeps : keepsCarries (squareTerms left) (numEccDigits * 2 - 1) 0 .zero = true) :
    ∃ result, vliModSquareFast left = some result ∧ result.value < curveP.value ∧
      result.residue = left.residue ^ 2 := by
  rcases vliModSquareFast_value left with ⟨result, found, small, isSquare⟩
  refine ⟨result, found, small, ?_⟩
  rw [Vli.residue, isSquare.mpr keeps, ZMod.natCast_mod, Nat.cast_mul, sq]
  rfl

/-! ## The curve -/

/-- The curve of the comments: `y^2 == x^3 + ax + b` with `-a = 3`. -/
def curve : WeierstrassCurve (ZMod curveP.value) where
  a₁ := 0
  a₂ := 0
  a₃ := 0
  a₄ := -3
  a₆ := curveB.residue

theorem equation_iff (x y : ZMod curveP.value) :
    curve.toAffine.Equation x y ↔ y ^ 2 = (x ^ 2 - 3) * x + curveB.residue := by
  rw [WeierstrassCurve.Affine.equation_iff]
  simp only [curve]
  constructor
  · intro holds
    linear_combination holds
  · intro holds
    linear_combination holds

theorem curveB_value_lt : curveB.value < curveP.value := by decide

theorem curveB_residue_ne_zero : curveB.residue ≠ 0 := by
  rw [Vli.residue, Ne, ZMod.natCast_eq_zero_iff]
  intro divides
  exact absurd (Nat.le_of_dvd (by decide) divides) (not_le.mpr curveB_value_lt)

/-- The point at infinity, whose two numbers are zero, is not on the curve. -/
theorem not_equation_of_isZero {point : EccPoint} (isZero : eccPointIsZero point = true) :
    ¬curve.toAffine.Equation point.x.residue point.y.residue := by
  rw [eccPointIsZero, Bool.and_eq_true, vliIsZero_iff, vliIsZero_iff] at isZero
  rw [equation_iff, Vli.residue, Vli.residue, isZero.1, isZero.2, Nat.cast_zero]
  intro holds
  apply curveB_residue_ne_zero
  linear_combination -holds

theorem curveP_gt_iff (vli : Vli) : vliCmp curveP vli = .gt ↔ vli.value < curveP.value := by
  rw [vliCmp_eq_compare, Nat.compare_eq_gt]

theorem three_value_lt : three.value < curveP.value := by decide

theorem residue_three : three.residue = 3 := by
  rw [Vli.residue, show three.value = 3 by decide]
  exact Nat.cast_ofNat

/-- The two sides of the equation are computed, and compared as numbers below the
prime. -/
theorem exists_valid {point : EccPoint} (keeps : point.keepsCarries = true) :
    ∃ valid, (do
        let tmp1 ← vliModSquareFast point.y
        let tmp2 ← vliModSquareFast point.x
        let tmp2 ← vliModMultFast (vliModSub tmp2 three curveP) point.x
        some (vliEqual tmp1 (vliModAdd tmp2 curveB curveP))) = some valid ∧
      (valid = true ↔ curve.toAffine.Equation point.x.residue point.y.residue) := by
  rw [EccPoint.keepsCarries, Bool.and_eq_true, Bool.and_eq_true] at keeps
  rcases keeps with ⟨⟨ySquareKeeps, xSquareKeeps⟩, productKeeps⟩
  rcases exists_modSquareFast point.y ySquareKeeps with ⟨tmp1, found1, small1, isSquare⟩
  rcases exists_modSquareFast point.x xSquareKeeps with ⟨square, found2, small2, isXSquare⟩
  rw [found2, Option.all_some] at productKeeps
  rcases exists_modMultFast _ _ productKeeps with ⟨product, found3, small3, isProduct⟩
  refine ⟨vliEqual tmp1 (vliModAdd product curveB curveP), ?_, ?_⟩
  · simp only [found1, found2, found3, Option.bind_eq_bind, Option.bind_some]
  · rw [vliEqual_iff, ← residue_eq_iff small1 (vliModAdd_value small3 curveB_value_lt).1,
      residue_modAdd small3 curveB_value_lt, isSquare, isProduct,
      residue_modSub small2 three_value_lt, isXSquare, residue_three, equation_iff]

/-- A point is accepted exactly when its numbers are below the prime and it is on the
curve, unless a carry is lost. -/
theorem eccValidPoint_iff (point : EccPoint) (keeps : point.keepsCarries = true) :
    ∃ valid, eccValidPoint point = some valid ∧
      (valid = true ↔ point.x.value < curveP.value ∧ point.y.value < curveP.value ∧
        curve.toAffine.Equation point.x.residue point.y.residue) := by
  rw [eccValidPoint]
  by_cases isZero : eccPointIsZero point
  · refine ⟨false, if_pos isZero, ?_⟩
    simp only [Bool.false_eq_true, false_iff, not_and]
    exact fun _ _ => not_equation_of_isZero isZero
  rw [if_neg isZero]
  by_cases large : vliCmp curveP point.x ≠ .gt ∨ vliCmp curveP point.y ≠ .gt
  · refine ⟨false, if_pos large, ?_⟩
    rw [Ne, Ne, curveP_gt_iff, curveP_gt_iff] at large
    simp only [Bool.false_eq_true, false_iff, not_and]
    intro xSmall ySmall
    exact absurd xSmall (large.resolve_right (not_not_intro ySmall))
  rw [if_neg large]
  rw [not_or, not_not, not_not, curveP_gt_iff, curveP_gt_iff] at large
  rcases exists_valid keeps with ⟨valid, computed, isValid⟩
  refine ⟨valid, computed, isValid.trans ?_⟩
  exact ⟨fun holds => ⟨large.1, large.2, holds⟩, fun accepted => accepted.2.2⟩

end Meshctl.Ecc
