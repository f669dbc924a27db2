import Meshctl.Foundation.Bytes
import Meshctl.Foundation.Loop

/-! # Long integers

The `vli_` functions of `ecc.c`: numbers of 256 bits in four digits, with the least
significant digit first. A product has eight digits.
-/

namespace Meshctl.Ecc

open Bytes

def numEccDigits : Nat := 4

/-- `uint64_t vli[NUM_ECC_DIGITS]` -/
structure Vli where
  digits : List U64
  sized : digits.length = numEccDigits
deriving DecidableEq

namespace Vli

def digit (vli : Vli) (index : Nat) : U64 := vli.digits.getD index 0

def ofDigits (d0 d1 d2 d3 : U64) : Vli := ⟨[d0, d1, d2, d3], rfl⟩

/-- `vli_clear` -/
def zero : Vli := ofDigits 0 0 0 0

def one : Vli := ofDigits 1 0 0 0

end Vli

/-- `uint64_t product[2 * NUM_ECC_DIGITS]` -/
structure Product where
  digits : List U64
  sized : digits.length = numEccDigits * 2
deriving DecidableEq

def Product.digit (product : Product) (index : Nat) : U64 := product.digits.getD index 0

def curveP : Vli :=
  .ofDigits 0xFFFFFFFFFFFFFFFF 0x00000000FFFFFFFF 0x0000000000000000 0xFFFFFFFF00000001

def curveB : Vli :=
  .ofDigits 0x3BCE3C3E27D2604B 0x651D06B0CC53B0F6 0xB3EBBD55769886BC 0x5AC635D8AA3A93E7

/-! ## Comparing -/

def vliIsZero (vli : Vli) : Bool := vli.digits.all (· = 0)

/-- The loop starts with the most significant digit. -/
def cmpLoop : List U64 → List U64 → Ordering
  | left :: lefts, right :: rights =>
      match cmpLoop lefts rights with
      | .eq => if right < left then .gt else if left < right then .lt else .eq
      | other => other
  | _, _ => .eq

def vliCmp (left right : Vli) : Ordering := cmpLoop left.digits right.digits

/-- Digits without a difference: `diff |= (left[i] ^ right[i])` -/
def vliEqual (left right : Vli) : Bool :=
  (List.zipWith (· ^^^ ·) left.digits right.digits).foldr (fun digit diff => diff ||| digit) 0 = 0

/-! ## Shifting, adding and subtracting -/

def lshiftLoop (shift : Nat) : U64 → List U64 → List U64 × U64
  | carry, [] => ([], carry)
  | carry, temp :: digits =>
      let (rest, last) := lshiftLoop shift (temp >>> (64 - shift)) digits
      ((temp <<< shift ||| carry) :: rest, last)

def addLoop : U64 → List U64 → List U64 → List U64 × U64
  | carry, left :: lefts, right :: rights =>
      let sum := left + right + carry
      let next := if sum ≠ left then (if sum < left then 1 else 0) else carry
      let (rest, last) := addLoop next lefts rights
      (sum :: rest, last)
  | carry, _, _ => ([], carry)

def subLoop : U64 → List U64 → List U64 → List U64 × U64
  | borrow, left :: lefts, right :: rights =>
      let diff := left - right - borrow
      let next := if diff ≠ left then (if left < diff then 1 else 0) else borrow
      let (rest, last) := subLoop next lefts rights
      (diff :: rest, last)
  | borrow, _, _ => ([], borrow)

theorem length_lshiftLoop (shift : Nat) (carry : U64) (digits : List U64) :
    (lshiftLoop shift carry digits).1.length = digits.length := by
  induction digits generalizing carry with
  | nil => rfl
  | cons temp digits induction => exact congrArg (· + 1) (induction _)

theorem length_addLoop {lefts rights : List U64} (carry : U64)
    (sameLength : lefts.length = rights.length) :
    (addLoop carry lefts rights).1.length = lefts.length := by
  induction lefts generalizing carry rights with
  | nil => rfl
  | cons left lefts induction =>
      cases rights with
      | nil => cases sameLength
      | cons right rights =>
          exact congrArg (· + 1) (induction _ (Nat.succ.inj sameLength))

theorem length_subLoop {lefts rights : List U64} (borrow : U64)
    (sameLength : lefts.length = rights.length) :
    (subLoop borrow lefts rights).1.length = lefts.length := by
  induction lefts generalizing borrow rights with
  | nil => rfl
  | cons left lefts induction =>
      cases rights with
      | nil => cases sameLength
      | cons right rights =>
          exact congrArg (· + 1) (induction _ (Nat.succ.inj sameLength))

/-- The result and the carry. -/
def vliLshift (vli : Vli) (shift : Nat) : Vli × U64 :=
  (⟨(lshiftLoop shift 0 vli.digits).1, (length_lshiftLoop _ _ _).trans vli.sized⟩,
    (lshiftLoop shift 0 vli.digits).2)

/-- The result and the carry. -/
def vliAdd (left right : Vli) : Vli × U64 :=
  (⟨(addLoop 0 left.digits right.digits).1,
      (length_addLoop 0 (left.sized.trans right.sized.symm)).trans left.sized⟩,
    (addLoop 0 left.digits right.digits).2)

/-- The result and the borrow. -/
def vliSub (left right : Vli) : Vli × U64 :=
  (⟨(subLoop 0 left.digits right.digits).1,
      (length_subLoop 0 (left.sized.trans right.sized.symm)).trans left.sized⟩,
    (subLoop 0 left.digits right.digits).2)

def vliModAdd (left right mod : Vli) : Vli :=
  if (vliAdd left right).2 ≠ 0 ∨ vliCmp (vliAdd left right).1 mod ≠ .lt then
    (vliSub (vliAdd left right).1 mod).1
  else
    (vliAdd left right).1

def vliModSub (left right mod : Vli) : Vli :=
  if (vliSub left right).2 ≠ 0 then (vliAdd (vliSub left right).1 mod).1
  else (vliSub left right).1

/-! ## Multiplying -/

/-- `uint128_t` -/
structure U128 where
  mLow : U64
  mHigh : U64
deriving DecidableEq

def mul6464 (left right : U64) : U128 :=
  let a0 := left &&& 0xffffffff
  let a1 := left >>> 32
  let b0 := right &&& 0xffffffff
  let b1 := right >>> 32
  let m0 := a0 * b0
  let m1 := a0 * b1
  let m2 := a1 * b0 + m0 >>> 32 + m1
  let m3 := if m2 < m1 then a1 * b1 + 0x100000000 else a1 * b1
  { mLow := m0 &&& (0xffffffff : U64) ||| m2 <<< 32
    mHigh := m3 + m2 >>> 32 }

def add128128 (a b : U128) : U128 where
  mLow := a.mLow + b.mLow
  mHigh := a.mHigh + b.mHigh + if a.mLow + b.mLow < a.mLow then 1 else 0

/-- The sum of a column: `r01`, and `r2` for the carries. -/
structure Column where
  r01 : U128
  r2 : U64

def Column.zero : Column := ⟨⟨0, 0⟩, 0⟩

def Column.add (column : Column) (product : U128) : Column where
  r01 := add128128 column.r01 product
  r2 := column.r2 +
    if (add128128 column.r01 product).mHigh < product.mHigh then 1 else 0

/-- What goes on to the next column. -/
def Column.next (column : Column) : Column where
  r01 := ⟨column.r01.mHigh, column.r2⟩
  r2 := 0

/-- A product that stands in a column twice, without what the doubling carries to
`r2`. -/
def doubled (product : U128) : U128 where
  mHigh := product.mHigh <<< 1 ||| product.mLow >>> 63
  mLow := product.mLow <<< 1

/-- A product in a column, once or twice. -/
structure Term where
  product : U128
  twice : Bool

def Column.addTerm (column : Column) (term : Term) : Column :=
  if term.twice then
    { column with r2 := column.r2 + term.product.mHigh >>> 63 }.add (doubled term.product)
  else
    column.add term.product

/-- The least value of `i` in a column. -/
def columnMin (k : Nat) : Nat :=
  if k < numEccDigits then 0 else k + 1 - numEccDigits

/-- `for (i = min; i <= k && i < NUM_ECC_DIGITS; i++)` -/
def multTerms (left right : Vli) (k : Nat) : List Term :=
  ((List.range' (columnMin k) (k + 1 - columnMin k)).filter (· < numEccDigits)).map
    fun i => ⟨mul6464 (left.digit i) (right.digit (k - i)), false⟩

/-- `for (i = min; i <= k && i <= k - i; i++)` -/
def squareTerms (left : Vli) (k : Nat) : List Term :=
  ((List.range' (columnMin k) (k + 1 - columnMin k)).filter fun i => i ≤ k - i).map
    fun i => ⟨mul6464 (left.digit i) (left.digit (k - i)), i < k - i⟩

/-- The digits from column `k` on, when `count` columns are left. -/
def columnsLoop (terms : Nat → List Term) : Nat → Nat → Column → List U64
  | 0, _, column => [column.r01.mLow]
  | count + 1, k, column =>
      let column := (terms k).foldl Column.addTerm column
      column.r01.mLow :: columnsLoop terms count (k + 1) column.next

theorem length_columnsLoop (terms : Nat → List Term) (count k : Nat) (column : Column) :
    (columnsLoop terms count k column).length = count + 1 := by
  induction count generalizing k column with
  | zero => rfl
  | succ count induction => exact congrArg (· + 1) (induction _ _)

def vliMult (left right : Vli) : Product :=
  ⟨columnsLoop (multTerms left right) (numEccDigits * 2 - 1) 0 .zero,
    length_columnsLoop ..⟩

def vliSquare (left : Vli) : Product :=
  ⟨columnsLoop (squareTerms left) (numEccDigits * 2 - 1) 0 .zero, length_columnsLoop ..⟩

/-! ## Reducing a product -/

/-- `result` and `carry` -/
structure Reduced where
  result : Vli
  carry : Int

namespace Reduced

def start (result : Vli) : Reduced := ⟨result, 0⟩

def add (reduced : Reduced) (tmp : Vli) : Reduced where
  result := (vliAdd reduced.result tmp).1
  carry := reduced.carry + (vliAdd reduced.result tmp).2.toNat

def addTwice (reduced : Reduced) (tmp : Vli) : Reduced :=
  add ⟨reduced.result, reduced.carry + (vliLshift tmp 1).2.toNat⟩ (vliLshift tmp 1).1

def sub (reduced : Reduced) (tmp : Vli) : Reduced where
  result := (vliSub reduced.result tmp).1
  carry := reduced.carry - (vliSub reduced.result tmp).2.toNat

/-- A round of `while (carry < 0)` -/
def raise (reduced : Reduced) : Option Reduced :=
  if reduced.carry < 0 then some (reduced.add curveP) else none

/-- A round of `while (carry || vli_cmp(curve_p, result) != 1)` -/
def lower (reduced : Reduced) : Option Reduced :=
  if reduced.carry ≠ 0 ∨ vliCmp curveP reduced.result ≠ .gt then
    some (reduced.sub curveP)
  else
    none

end Reduced

namespace Product

variable (product : Product)

def t : Vli :=
  .ofDigits (product.digit 0) (product.digit 1) (product.digit 2) (product.digit 3)

def s1 : Vli :=
  .ofDigits 0 (product.digit 5 &&& (0xffffffff00000000 : U64)) (product.digit 6)
    (product.digit 7)

/-- `tmp[0]` is still 0 from `s1`. -/
def s2 : Vli :=
  .ofDigits 0 (product.digit 6 <<< 32) (product.digit 6 >>> 32 ||| product.digit 7 <<< 32)
    (product.digit 7 >>> 32)

def s3 : Vli :=
  .ofDigits (product.digit 4) (product.digit 5 &&& (0xffffffff : U64)) 0 (product.digit 7)

def s4 : Vli :=
  .ofDigits (product.digit 4 >>> 32 ||| product.digit 5 <<< 32)
    (product.digit 5 >>> 32 ||| product.digit 6 &&& (0xffffffff00000000 : U64))
    (product.digit 7) (product.digit 6 >>> 32 ||| product.digit 4 <<< 32)

def d1 : Vli :=
  .ofDigits (product.digit 5 >>> 32 ||| product.digit 6 <<< 32) (product.digit 6 >>> 32) 0
    (product.digit 4 &&& (0xffffffff : U64) ||| product.digit 5 <<< 32)

def d2 : Vli :=
  .ofDigits (product.digit 6) (product.digit 7) 0
    (product.digit 4 >>> 32 ||| product.digit 5 &&& (0xffffffff00000000 : U64))

def d3 : Vli :=
  .ofDigits (product.digit 6 >>> 32 ||| product.digit 7 <<< 32)
    (product.digit 7 >>> 32 ||| product.digit 4 <<< 32)
    (product.digit 4 >>> 32 ||| product.digit 5 <<< 32) (product.digit 6 <<< 32)

def d4 : Vli :=
  .ofDigits (product.digit 7) (product.digit 4 &&& (0xffffffff00000000 : U64))
    (product.digit 5) (product.digit 6 &&& (0xffffffff00000000 : U64))

/-- `result` and `carry` before `curve_p` is added or subtracted. -/
def folded : Reduced :=
  let sums := ((((Reduced.start product.t).addTwice product.s1).addTwice product.s2).add
    product.s3).add product.s4
  (((sums.sub product.d1).sub product.d2).sub product.d3).sub product.d4

end Product

/-- The last loop has fewer than 16 rounds. -/
def vliMmodFast (product : Product) : Option Vli :=
  let round := if product.folded.carry < 0 then Reduced.raise else Reduced.lower
  (Loop.run round 16 product.folded).map Reduced.result

def vliModMultFast (left right : Vli) : Option Vli := vliMmodFast (vliMult left right)

def vliModSquareFast (left : Vli) : Option Vli := vliMmodFast (vliSquare left)

/-! ## Inverting -/

/-- `EVEN(vli)` -/
def even (vli : Vli) : Bool := vli.digit 0 &&& 1 = 0

/-- The loop goes from the most significant digit to the least; the carry of a digit
goes to the one below. -/
def rshift1Loop : List U64 → List U64 × U64
  | [] => ([], 0)
  | temp :: digits =>
      let (rest, carry) := rshift1Loop digits
      ((temp >>> 1 ||| carry) :: rest, temp <<< 63)

theorem length_rshift1Loop (digits : List U64) :
    (rshift1Loop digits).1.length = digits.length := by
  induction digits with
  | nil => rfl
  | cons temp digits induction => exact congrArg (· + 1) induction

def vliRshift1 (vli : Vli) : Vli :=
  ⟨(rshift1Loop vli.digits).1, (length_rshift1Loop _).trans vli.sized⟩

/-- `vli[NUM_ECC_DIGITS - 1] |= 0x8000000000000000ull` if there is a carry -/
def setTopBit (vli : Vli) (carry : U64) : Vli :=
  if carry = 0 then vli
  else
    ⟨vli.digits.modify (numEccDigits - 1) (· ||| 0x8000000000000000),
      (List.length_modify ..).trans vli.sized⟩

/-- Half of `u`, or of `u + mod` when `u` is odd. -/
def halve (u mod : Vli) : Vli :=
  if even u then vliRshift1 u
  else setTopBit (vliRshift1 (vliAdd u mod).1) (vliAdd u mod).2

/-- `u - v`, where `mod` is added first if `u` is the smaller one. -/
def differ (u v mod : Vli) : Vli :=
  if vliCmp u v = .lt then (vliSub (vliAdd u mod).1 v).1 else (vliSub u v).1

/-- The variables of `vli_mod_inv` -/
structure Inverting where
  a : Vli
  b : Vli
  u : Vli
  v : Vli

/-- A round of `while ((cmp_result = vli_cmp(a, b)) != 0)` -/
def Inverting.round (mod : Vli) (state : Inverting) : Option Inverting :=
  if vliCmp state.a state.b = .eq then none
  else if even state.a then
    some { state with a := vliRshift1 state.a, u := halve state.u mod }
  else if even state.b then
    some { state with b := vliRshift1 state.b, v := halve state.v mod }
  else if vliCmp state.a state.b = .gt then
    some { state with
      a := vliRshift1 (vliSub state.a state.b).1
      u := halve (differ state.u state.v mod) mod }
  else
    some { state with
      b := vliRshift1 (vliSub state.b state.a).1
      v := halve (differ state.v state.u mod) mod }

/-- The loop has at most 512 rounds. -/
def vliModInv (input mod : Vli) : Option Vli :=
  if vliIsZero input then some .zero
  else
    (Loop.run (Inverting.round mod) 513 ⟨input, mod, .one, .zero⟩).map Inverting.u

end Meshctl.Ecc
