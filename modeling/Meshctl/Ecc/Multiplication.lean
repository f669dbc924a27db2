import Meshctl.Ecc.Addition

/-! # Products of long integers

A column is summed up in 192 bits. The carry into its third word is taken from the
two others, and is lost in one case.
-/

namespace Meshctl.Ecc

open Bytes Digits

/-! ## Products of digits -/

def U128.value (number : U128) : Nat :=
  number.mLow.toNat + 2 ^ 64 * number.mHigh.toNat

theorem toNat_and_low (digit : U64) :
    (digit &&& 0xffffffff).toNat = digit.toNat % 2 ^ 32 := by
  rw [BitVec.toNat_and]
  exact Nat.and_two_pow_sub_one_eq_mod digit.toNat 32

theorem toNat_shift_low (digit : U64) :
    (digit <<< 32).toNat = 2 ^ 32 * (digit.toNat % 2 ^ 32) := by
  rw [BitVec.toNat_shiftLeft, Nat.shiftLeft_eq]
  omega

theorem toNat_low_or_shift (low digit : U64) :
    (low &&& (0xffffffff : U64) ||| digit <<< 32).toNat =
      low.toNat % 2 ^ 32 + 2 ^ 32 * (digit.toNat % 2 ^ 32) := by
  rw [toNat_or_of_lt ?_ (toNat_shift_low digit), toNat_and_low]
  rw [toNat_and_low]
  exact Nat.mod_lt _ (Nat.two_pow_pos 32)

theorem toNat_mul_small {left right : U64} {a b : Nat} (isLeft : left.toNat = a)
    (isRight : right.toNat = b) (leftSmall : a ≤ 2 ^ 32 - 1) (rightSmall : b ≤ 2 ^ 32 - 1) :
    (left * right).toNat = a * b ∧ a * b ≤ (2 ^ 32 - 1) * (2 ^ 32 - 1) := by
  have bound := Nat.mul_le_mul leftSmall rightSmall
  refine ⟨?_, bound⟩
  rw [BitVec.toNat_mul, isLeft, isRight]
  exact Nat.mod_eq_of_lt (by omega)

/-- The sum of the inner products may be one bit too long. -/
theorem mul6464_value (left right : U64) :
    (mul6464 left right).value = left.toNat * right.toNat := by
  have leftSmall := left.isLt
  have rightSmall := right.isLt
  have isA0 := toNat_and_low left
  have isA1 := toNat_shiftRight left 32
  have isB0 := toNat_and_low right
  have isB1 := toNat_shiftRight right 32
  have product : left.toNat * right.toNat =
      left.toNat % 2 ^ 32 * (right.toNat % 2 ^ 32) +
        2 ^ 32 * (left.toNat % 2 ^ 32 * (right.toNat / 2 ^ 32)) +
        2 ^ 32 * (left.toNat / 2 ^ 32 * (right.toNat % 2 ^ 32)) +
        2 ^ 64 * (left.toNat / 2 ^ 32 * (right.toNat / 2 ^ 32)) := by
    conv_lhs => rw [← Nat.div_add_mod left.toNat (2 ^ 32),
      ← Nat.div_add_mod right.toNat (2 ^ 32)]
    ring
  rcases toNat_mul_small isA0 isB0 (by omega) (by omega) with ⟨is00, small00⟩
  rcases toNat_mul_small isA0 isB1 (by omega) (by omega) with ⟨is01, small01⟩
  rcases toNat_mul_small isA1 isB0 (by omega) (by omega) with ⟨is10, small10⟩
  rcases toNat_mul_small isA1 isB1 (by omega) (by omega) with ⟨is11, small11⟩
  rw [product, U128.value, mul6464]
  dsimp only
  generalize (left &&& 0xffffffff) * (right &&& 0xffffffff) = m0 at *
  generalize (left &&& 0xffffffff) * (right >>> 32) = m1 at *
  generalize (left >>> 32) * (right &&& 0xffffffff) = m10 at *
  generalize (left >>> 32) * (right >>> 32) = m3 at *
  rw [← is00, ← is01, ← is10, ← is11]
  rw [← is00] at small00
  rw [← is01] at small01
  rw [← is10] at small10
  rw [← is11] at small11
  rw [toNat_low_or_shift]
  have carryIn := toNat_shiftRight m0 32
  have isM2 : (m10 + m0 >>> 32 + m1).toNat =
      (m10.toNat + m0.toNat / 2 ^ 32 + m1.toNat) % 2 ^ 64 := by
    rw [BitVec.toNat_add, BitVec.toNat_add, carryIn, Nat.mod_add_mod]
  have high := toNat_shiftRight (m10 + m0 >>> 32 + m1) 32
  generalize m10 + m0 >>> 32 + m1 = m2 at *
  have one : (0x100000000 : U64).toNat = 2 ^ 32 := rfl
  by_cases overflow : m2 < m1
  · rw [if_pos overflow, BitVec.toNat_add, BitVec.toNat_add, high, one]
    rw [BitVec.lt_def] at overflow
    omega
  · rw [if_neg overflow, BitVec.toNat_add, high]
    rw [BitVec.lt_def] at overflow
    omega

/-! ## Columns -/

def Column.value (column : Column) : Nat :=
  column.r01.value + 2 ^ 128 * column.r2.toNat

/-- The second word is all ones, and the first one has a carry. -/
def Column.loses (column : Column) (product : U128) : Bool :=
  column.r01.mHigh = 0xffffffffffffffff &&
    column.r01.mLow + product.mLow < column.r01.mLow

theorem toNat_add_carry (word : U64) (carry : Prop) [Decidable carry] :
    (word + if carry then 1 else 0).toNat =
      (word.toNat + if carry then 1 else 0) % 2 ^ 64 := by
  rw [BitVec.toNat_add]
  split
  · rfl
  · rfl

theorem Column.loses_toNat (column : Column) (product : U128) :
    (column.loses product).toNat =
      if column.r01.mHigh.toNat = 2 ^ 64 - 1 ∧
        (column.r01.mLow.toNat + product.mLow.toNat) % 2 ^ 64 < column.r01.mLow.toNat
      then 1 else 0 := by
  have ones : column.r01.mHigh = 0xffffffffffffffff ↔
      column.r01.mHigh.toNat = 2 ^ 64 - 1 := by
    rw [← BitVec.toNat_inj]
    rfl
  simp only [Column.loses, ones, BitVec.lt_def, BitVec.toNat_add, ← Bool.decide_and,
    Bool.toNat, Bool.cond_decide]

/-- A carry is taken for what it is, unless the word that it goes into is all ones: then
the sum of the second words is as large as the word that was added. -/
theorem Column.add_value (column : Column) (product : U128)
    (small : column.r2.toNat + 1 < 2 ^ 64) :
    (column.add product).value + 2 ^ 128 * (column.loses product).toNat =
        column.value + product.value ∧
      (column.add product).r2.toNat ≤ column.r2.toNat + 1 := by
  rw [Column.loses_toNat]
  rcases column with ⟨⟨low, high⟩, r2⟩
  rcases product with ⟨pLow, pHigh⟩
  have lowSmall := low.isLt
  have highSmall := high.isLt
  have pLowSmall := pLow.isLt
  have pHighSmall := pHigh.isLt
  have isLow : (low + pLow).toNat = (low.toNat + pLow.toNat) % 2 ^ 64 := BitVec.toNat_add ..
  have isHigh := toNat_add_carry (high + pHigh) (low + pLow < low)
  have isSum : (high + pHigh).toNat = (high.toNat + pHigh.toNat) % 2 ^ 64 :=
    BitVec.toNat_add ..
  rw [isSum, Nat.mod_add_mod] at isHigh
  simp only [Column.add, add128128, Column.value, U128.value, toNat_add_carry,
    BitVec.lt_def, isLow] at isHigh small ⊢
  rw [isHigh]
  split_ifs <;> omega

theorem doubled_value (product : U128) :
    (doubled product).value + 2 ^ 128 * (product.mHigh >>> 63).toNat =
      2 * product.value := by
  rcases product with ⟨low, high⟩
  have lowSmall := low.isLt
  have highSmall := high.isLt
  have isHigh : (high <<< 1 ||| low >>> 63).toNat =
      low.toNat / 2 ^ 63 + 2 ^ 1 * (high.toNat % 2 ^ 63) := by
    have isTop := toNat_shiftRight low 63
    rw [BitVec.or_comm, ← isTop]
    exact toNat_or_of_lt (by omega) (toNat_shiftLeft_one high)
  simp only [doubled, U128.value, isHigh, toNat_shiftLeft_one, toNat_shiftRight]
  omega

/-! ## Terms -/

def Term.value (term : Term) : Nat :=
  if term.twice then 2 * term.product.value else term.product.value

/-- Whether a carry is lost when a term is added. -/
def Column.losesTerm (column : Column) (term : Term) : Bool :=
  column.loses (if term.twice then doubled term.product else term.product)

theorem Column.addTerm_value (column : Column) (term : Term)
    (small : column.r2.toNat + 2 < 2 ^ 64) :
    (column.addTerm term).value + 2 ^ 128 * (column.losesTerm term).toNat =
        column.value + term.value ∧
      (column.addTerm term).r2.toNat ≤ column.r2.toNat + 2 := by
  rcases term with ⟨product, _ | _⟩
  · rcases column.add_value product (by omega) with ⟨value, bound⟩
    exact ⟨value, Nat.le_succ_of_le bound⟩
  · have topBit : (product.mHigh >>> 63).toNat ≤ 1 := by
      have bound := product.mHigh.isLt
      rw [toNat_shiftRight]
      omega
    have isR2 : (column.r2 + product.mHigh >>> 63).toNat =
        column.r2.toNat + (product.mHigh >>> 63).toNat := by
      rw [BitVec.toNat_add]
      exact Nat.mod_eq_of_lt (by omega)
    have isDoubled := doubled_value product
    rcases Column.add_value { column with r2 := column.r2 + product.mHigh >>> 63 }
      (doubled product) (by rw [isR2]; omega) with ⟨value, bound⟩
    rw [isR2] at bound
    have start : Column.value { column with r2 := column.r2 + product.mHigh >>> 63 } =
        column.value + 2 ^ 128 * (product.mHigh >>> 63).toNat := by
      simp only [Column.value, isR2]
      ring
    rw [start] at value
    refine ⟨?_, bound.trans (by omega)⟩
    calc _ = column.value + 2 ^ 128 * (product.mHigh >>> 63).toNat +
          (doubled product).value := value
      _ = column.value + 2 * product.value := by omega

def termsValue (terms : List Term) : Nat := (terms.map Term.value).sum

/-- How many carries are lost while a column is summed up. -/
def columnLosses : List Term → Column → Nat
  | [], _ => 0
  | term :: terms, column =>
      (column.losesTerm term).toNat + columnLosses terms (column.addTerm term)

theorem foldl_addTerm_value (terms : List Term) (column : Column)
    (small : column.r2.toNat + 2 * terms.length < 2 ^ 64) :
    (terms.foldl Column.addTerm column).value + 2 ^ 128 * columnLosses terms column =
      column.value + termsValue terms := by
  induction terms generalizing column with
  | nil => rfl
  | cons term terms induction =>
      rw [List.length_cons] at small
      rcases column.addTerm_value term (by omega) with ⟨value, bound⟩
      have rest := induction (column.addTerm term) (by omega)
      simp only [List.foldl_cons, columnLosses, termsValue, List.map_cons, List.sum_cons]
        at rest ⊢
      omega

/-! ## All columns -/

/-- What the columns add up to. -/
def columnsValue (terms : Nat → List Term) : Nat → Nat → Nat
  | 0, _ => 0
  | count + 1, k => termsValue (terms k) + 2 ^ 64 * columnsValue terms count (k + 1)

/-- What the lost carries are worth. -/
def shortfall (terms : Nat → List Term) : Nat → Nat → Column → Nat
  | 0, _, _ => 0
  | count + 1, k, column =>
      2 ^ 128 * columnLosses (terms k) column +
        2 ^ 64 * shortfall terms count (k + 1)
          ((terms k).foldl Column.addTerm column).next

theorem Column.value_next (column : Column) :
    column.value = column.r01.mLow.toNat + 2 ^ 64 * column.next.value := by
  simp only [Column.value, Column.next, U128.value]
  rw [toNat_zero_word]
  ring

/-- The digits, with what is left above in front of them and what was lost, are the sum of
all terms. -/
theorem columnsLoop_value {terms : Nat → List Term} (few : ∀ k, (terms k).length ≤ 4)
    (count k : Nat) (column : Column) (fresh : column.r2 = 0) :
    ∃ above, value (columnsLoop terms count k column) + 2 ^ (64 * (count + 1)) * above +
        shortfall terms count k column = column.value + columnsValue terms count k := by
  induction count generalizing k column with
  | zero =>
      refine ⟨column.r01.mHigh.toNat, ?_⟩
      simp only [columnsLoop, shortfall, columnsValue, value_cons, value_nil, Column.value,
        U128.value, fresh]
      rw [toNat_zero_word]
      ring
  | succ count induction =>
      have short := few k
      have summed := foldl_addTerm_value (terms k) column (by rw [fresh, toNat_zero_word]; omega)
      rcases induction (k + 1) ((terms k).foldl Column.addTerm column).next rfl with
        ⟨above, rest⟩
      refine ⟨above, ?_⟩
      rw [Column.value_next] at summed
      simp only [columnsLoop, shortfall, columnsValue, value_cons]
      rw [pow_digits_succ, Nat.mul_assoc]
      generalize 2 ^ (64 * (count + 1)) * above = front at rest ⊢
      omega

/-! ## Products -/

theorem length_columnRange (k : Nat) : k + 1 - columnMin k ≤ 4 := by
  rw [columnMin, numEccDigits]
  split <;> omega

theorem length_multTerms (left right : Vli) (k : Nat) :
    (multTerms left right k).length ≤ 4 := by
  rw [multTerms, List.length_map]
  refine (List.length_filter_le ..).trans ?_
  rw [List.length_range']
  exact length_columnRange k

theorem length_squareTerms (left : Vli) (k : Nat) : (squareTerms left k).length ≤ 4 := by
  rw [squareTerms, List.length_map]
  refine (List.length_filter_le ..).trans ?_
  rw [List.length_range']
  exact length_columnRange k

/-- The columns of a product. -/
theorem multTerms_value (left right : Vli) :
    columnsValue (multTerms left right) 7 0 = left.value * right.value := by
  rcases left.exists_digits with ⟨l0, l1, l2, l3, rfl⟩
  rcases right.exists_digits with ⟨r0, r1, r2, r3, rfl⟩
  rw [Vli.value_ofDigits, Vli.value_ofDigits]
  simp only [columnsValue, termsValue, multTerms, columnMin, numEccDigits, Nat.reduceAdd,
    Nat.reduceSub, Nat.reduceLT, if_true, if_false, List.range', decide_true, decide_false,
    List.filter_cons, List.filter_nil, List.map_cons, List.map_nil, List.sum_cons,
    List.sum_nil, Term.value, mul6464_value, Vli.digit, Vli.ofDigits, List.getD_cons_zero,
    List.getD_cons_succ, Bool.false_eq_true]
  ring

/-- The columns of a square, in which mixed products stand once for both orders. -/
theorem squareTerms_value (left : Vli) :
    columnsValue (squareTerms left) 7 0 = left.value * left.value := by
  rcases left.exists_digits with ⟨l0, l1, l2, l3, rfl⟩
  rw [Vli.value_ofDigits]
  simp only [columnsValue, termsValue, squareTerms, columnMin, numEccDigits,
    Nat.reduceAdd, Nat.reduceSub, Nat.reduceLT, Nat.reduceLeDiff, if_true, if_false,
    List.range', decide_true, decide_false, List.filter_cons, List.filter_nil,
    List.map_cons, List.map_nil, List.sum_cons, List.sum_nil, Term.value, mul6464_value,
    Vli.digit, Vli.ofDigits, List.getD_cons_zero, List.getD_cons_succ, Bool.false_eq_true]
  ring

/-- Whether no carry of a column is lost. -/
def keepsCarries (terms : Nat → List Term) : Nat → Nat → Column → Bool
  | 0, _, _ => true
  | count + 1, k, column =>
      columnLosses (terms k) column = 0 &&
        keepsCarries terms count (k + 1) ((terms k).foldl Column.addTerm column).next

theorem shortfall_eq_zero_iff (terms : Nat → List Term) (count k : Nat) (column : Column) :
    shortfall terms count k column = 0 ↔ keepsCarries terms count k column = true := by
  induction count generalizing k column with
  | zero => simp [shortfall, keepsCarries]
  | succ count induction =>
      rw [shortfall, keepsCarries, Bool.and_eq_true, ← induction, decide_eq_true_iff,
        Nat.add_eq_zero_iff]
      omega

theorem Column.zero_value : Column.zero.value = 0 := rfl

/-- Nothing is left above the eight digits of a product of two numbers. -/
theorem columnsLoop_total {terms : Nat → List Term} (few : ∀ k, (terms k).length ≤ 4)
    {left right : Vli} (product : columnsValue terms 7 0 = left.value * right.value) :
    value (columnsLoop terms 7 0 .zero) + shortfall terms 7 0 .zero =
      left.value * right.value := by
  rcases columnsLoop_value few 7 0 .zero rfl with ⟨above, total⟩
  rw [Column.zero_value, Nat.zero_add, product] at total
  have bound : left.value * right.value < 2 ^ 256 * 2 ^ 256 :=
    Nat.mul_lt_mul'' left.value_lt right.value_lt
  have nothing : above = 0 := by omega
  rw [nothing, Nat.mul_zero, Nat.add_zero] at total
  exact total

/-- A product falls short of the product by what its lost carries are worth. -/
theorem vliMult_value (left right : Vli) :
    (vliMult left right).value + shortfall (multTerms left right) 7 0 .zero =
      left.value * right.value :=
  columnsLoop_total (length_multTerms left right) (multTerms_value left right)

theorem vliSquare_value (left : Vli) :
    (vliSquare left).value + shortfall (squareTerms left) 7 0 .zero =
      left.value * left.value :=
  columnsLoop_total (length_squareTerms left) (squareTerms_value left)

/-- Products and squares are right exactly when no carry is lost in a column. -/
theorem products_exact_iff :
    (∀ left right, (vliMult left right).value = left.value * right.value ↔
      keepsCarries (multTerms left right) (numEccDigits * 2 - 1) 0 .zero = true) ∧
    ∀ left, (vliSquare left).value = left.value * left.value ↔
      keepsCarries (squareTerms left) (numEccDigits * 2 - 1) 0 .zero = true := by
  constructor
  · intro left right
    have total := vliMult_value left right
    rw [← shortfall_eq_zero_iff, ← total]
    exact Nat.left_eq_add
  · intro left
    have total := vliSquare_value left
    rw [← shortfall_eq_zero_iff, ← total]
    exact Nat.left_eq_add

-- A word of ones with a carry into it, in the third column.
example : keepsCarries
    (multTerms
      (.ofDigits 0xc3ff400c07453a9d 0xdd06c16c09c79a97 0xffffffffffffffff 0)
      (.ofDigits 0x38e93048491d4f42 0x6bf3de31f419eebd 0xd4a24847ce8eba79 0))
    (numEccDigits * 2 - 1) 0 .zero = false := by
  decide +kernel

end Meshctl.Ecc
