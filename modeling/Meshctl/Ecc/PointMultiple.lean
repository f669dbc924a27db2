import Meshctl.Ecc.Inversion
import Meshctl.Ecc.PublicKey

/-! # Multiples of a point

The ladder of `ecc_point_mult`, and the functions of `ecc.c` that use it. Whatever they are
given, they end.
-/

namespace Meshctl.Ecc

open Bytes

/-! ## Bits of a factor -/

def vliTestBit (vli : Vli) (bit : Nat) : Bool :=
  vli.digit (bit / 64) &&& ((1 : U64) <<< (bit % 64)) ≠ 0

/-- The digits up to the last one that is not zero. -/
def numDigitsLoop : List U64 → Nat
  | [] => 0
  | digit :: digits =>
      match numDigitsLoop digits with
      | 0 => if digit = 0 then 0 else 1
      | count + 1 => count + 2

def vliNumDigits (vli : Vli) : Nat := numDigitsLoop vli.digits

/-- `for (i = 0; digit; i++) digit >>= 1`; a digit has no more than `fuel` bits. -/
def digitBitsLoop : Nat → U64 → Nat
  | 0, _ => 0
  | fuel + 1, digit => if digit = 0 then 0 else digitBitsLoop fuel (digit >>> 1) + 1

def vliNumBits (vli : Vli) : Nat :=
  if vliNumDigits vli = 0 then 0
  else
    (vliNumDigits vli - 1) * 64 + digitBitsLoop 64 (vli.digit (vliNumDigits vli - 1))

/-! ## Point operations -/

/-- `x1[NUM_ECC_DIGITS - 1] |= carry << 63` -/
def orTopBit (vli : Vli) (carry : U64) : Vli :=
  ⟨vli.digits.modify (numEccDigits - 1) (· ||| carry <<< 63),
    (List.length_modify ..).trans vli.sized⟩

/-- `x`, `y` and `z` -/
def eccPointDoubleJacobian (point : EccPoint) (z1 : Vli) : Option (EccPoint × Vli) :=
  if vliIsZero z1 then some (point, z1)
  else do
    let t4 ← vliModSquareFast point.y
    let t5 ← vliModMultFast point.x t4
    let t4 ← vliModSquareFast t4
    let y1 ← vliModMultFast point.y z1
    let z1 ← vliModSquareFast z1
    let x1 := vliModAdd point.x z1 curveP
    let z1 := vliModAdd z1 z1 curveP
    let z1 := vliModSub x1 z1 curveP
    let x1 ← vliModMultFast x1 z1
    let z1 := vliModAdd x1 x1 curveP
    let x1 := vliModAdd x1 z1 curveP
    let x1 :=
      if vliTestBit x1 0 then
        orTopBit (vliRshift1 (vliAdd x1 curveP).1) (vliAdd x1 curveP).2
      else
        vliRshift1 x1
    let z1 ← vliModSquareFast x1
    let z1 := vliModSub z1 t5 curveP
    let z1 := vliModSub z1 t5 curveP
    let t5 := vliModSub t5 z1 curveP
    let x1 ← vliModMultFast x1 t5
    let t4 := vliModSub x1 t4 curveP
    some (⟨z1, t4⟩, y1)

def applyZ (point : EccPoint) (z : Vli) : Option EccPoint := do
  let t1 ← vliModSquareFast z
  let x1 ← vliModMultFast point.x t1
  let t1 ← vliModMultFast t1 z
  let y1 ← vliModMultFast point.y t1
  some ⟨x1, y1⟩

/-- The double of a point, and the point. -/
def xyczInitialDouble (point : EccPoint) (initialZ : Option Vli) :
    Option (EccPoint × EccPoint) := do
  let z := initialZ.getD .one
  let first ← applyZ point z
  let (first, z) ← eccPointDoubleJacobian first z
  let second ← applyZ point z
  some (first, second)

def xyczAdd (first second : EccPoint) : Option (EccPoint × EccPoint) := do
  let t5 := vliModSub second.x first.x curveP
  let t5 ← vliModSquareFast t5
  let x1 ← vliModMultFast first.x t5
  let x2 ← vliModMultFast second.x t5
  let y2 := vliModSub second.y first.y curveP
  let t5 ← vliModSquareFast y2
  let t5 := vliModSub t5 x1 curveP
  let t5 := vliModSub t5 x2 curveP
  let x2 := vliModSub x2 x1 curveP
  let y1 ← vliModMultFast first.y x2
  let x2 := vliModSub x1 t5 curveP
  let y2 ← vliModMultFast y2 x2
  let y2 := vliModSub y2 y1 curveP
  some (⟨x1, y1⟩, ⟨t5, y2⟩)

def xyczAddC (first second : EccPoint) : Option (EccPoint × EccPoint) := do
  let t5 := vliModSub second.x first.x curveP
  let t5 ← vliModSquareFast t5
  let x1 ← vliModMultFast first.x t5
  let x2 ← vliModMultFast second.x t5
  let t5 := vliModAdd second.y first.y curveP
  let y2 := vliModSub second.y first.y curveP
  let t6 := vliModSub x2 x1 curveP
  let y1 ← vliModMultFast first.y t6
  let t6 := vliModAdd x1 x2 curveP
  let x2 ← vliModSquareFast y2
  let x2 := vliModSub x2 t6 curveP
  let t7 := vliModSub x1 x2 curveP
  let y2 ← vliModMultFast y2 t7
  let y2 := vliModSub y2 y1 curveP
  let t7 ← vliModSquareFast t5
  let t7 := vliModSub t7 t6 curveP
  let t6 := vliModSub t7 x1 curveP
  let t6 ← vliModMultFast t6 t5
  let y1 := vliModSub t6 y1 curveP
  some (⟨t7, y1⟩, ⟨x2, y2⟩)

/-! ## The ladder -/

/-- `rx` and `ry`, with `R0` and `R1` -/
structure Ladder where
  r0 : EccPoint
  r1 : EccPoint

/-- `rx[index]` and `ry[index]` -/
def Ladder.get (ladder : Ladder) (index : Bool) : EccPoint :=
  if index then ladder.r1 else ladder.r0

/-- The two points for `index` and for the other index. -/
def Ladder.of (index : Bool) (points : EccPoint × EccPoint) : Ladder :=
  if index then ⟨points.2, points.1⟩ else ⟨points.1, points.2⟩

def ladderRound (scalar : Vli) (ladder : Ladder) (i : Nat) : Option Ladder := do
  let nb := !vliTestBit scalar i
  let points ← xyczAddC (ladder.get !nb) (ladder.get nb)
  let ladder := Ladder.of (!nb) points
  let points ← xyczAdd (ladder.get nb) (ladder.get !nb)
  some (Ladder.of nb points)

/-- `for (i = num_bits - 2; i > 0; i--)` -/
def ladderBits (numBits : Nat) : List Nat := (List.range' 1 (numBits - 2)).reverse

def eccPointMult (point : EccPoint) (scalar : Vli) (initialZ : Option Vli) (numBits : Nat) :
    Option EccPoint := do
  let (r1, r0) ← xyczInitialDouble point initialZ
  let ladder ← (ladderBits numBits).foldlM (ladderRound scalar) ⟨r0, r1⟩
  let nb := !vliTestBit scalar 0
  let points ← xyczAddC (ladder.get !nb) (ladder.get nb)
  let ladder := Ladder.of (!nb) points
  let z := vliModSub ladder.r1.x ladder.r0.x curveP
  let z ← vliModMultFast z (ladder.get !nb).y
  let z ← vliModMultFast z point.x
  let z ← vliModInv z curveP
  let z ← vliModMultFast z point.y
  let z ← vliModMultFast z (ladder.get !nb).x
  let points ← xyczAdd (ladder.get nb) (ladder.get !nb)
  applyZ (Ladder.of nb points).r0 z

/-! ## The key exchange -/

/-- What is returned, and the secret afterwards; `rand` is nothing if there are no random
bytes. -/
def ecdhSharedSecret (rand : Option Vli) (publicKey : Buffer 64)
    (privateKey secret : Buffer 32) : Option (Bool × Buffer 32) :=
  match rand with
  | none => some (false, secret)
  | some rand => do
      let pk := publicPoint publicKey
      let valid ← eccValidPoint pk
      if valid then
        let priv := eccBytes2native privateKey
        let product ← eccPointMult pk priv (some rand) (vliNumBits priv)
        some (!eccPointIsZero product, eccNative2bytes product.x)
      else
        some (false, secret)

/-! ## All of them end -/

theorem isSome_bind {α β : Type} {first : Option α} {next : α → Option β}
    (isSome : first.isSome = true) (rest : ∀ value, (next value).isSome = true) :
    (first >>= next).isSome = true := by
  rcases Option.isSome_iff_exists.mp isSome with ⟨value, rfl⟩
  exact rest value

theorem isSome_foldlM {State : Type} {round : State → Nat → Option State}
    (isSome : ∀ state i, (round state i).isSome = true) (indices : List Nat) (state : State) :
    (indices.foldlM round state).isSome = true := by
  induction indices generalizing state with
  | nil => rfl
  | cons i indices induction =>
      rw [List.foldlM_cons]
      exact isSome_bind (isSome state i) induction

theorem isSome_modMultFast (left right : Vli) : (vliModMultFast left right).isSome = true := by
  rcases vliModMultFast_value left right with ⟨result, found, _⟩
  rw [found]
  rfl

theorem isSome_modSquareFast (left : Vli) : (vliModSquareFast left).isSome = true := by
  rcases vliModSquareFast_value left with ⟨result, found, _⟩
  rw [found]
  rfl

theorem isSome_modInv (input : Vli) : (vliModInv input curveP).isSome = true := by
  rcases exists_modInv input curveP (by decide) (by decide) with ⟨result, found, _⟩
  rw [found]
  rfl

theorem isSome_double (point : EccPoint) (z : Vli) :
    (eccPointDoubleJacobian point z).isSome = true := by
  rw [eccPointDoubleJacobian]
  split
  · rfl
  · refine isSome_bind (isSome_modSquareFast _) fun _ => ?_
    refine isSome_bind (isSome_modMultFast _ _) fun _ => ?_
    refine isSome_bind (isSome_modSquareFast _) fun _ => ?_
    refine isSome_bind (isSome_modMultFast _ _) fun _ => ?_
    refine isSome_bind (isSome_modSquareFast _) fun _ => ?_
    refine isSome_bind (isSome_modMultFast _ _) fun _ => ?_
    refine isSome_bind (isSome_modSquareFast _) fun _ => ?_
    exact isSome_bind (isSome_modMultFast _ _) fun _ => rfl

theorem isSome_applyZ (point : EccPoint) (z : Vli) : (applyZ point z).isSome = true := by
  refine isSome_bind (isSome_modSquareFast _) fun _ => ?_
  refine isSome_bind (isSome_modMultFast _ _) fun _ => ?_
  refine isSome_bind (isSome_modMultFast _ _) fun _ => ?_
  exact isSome_bind (isSome_modMultFast _ _) fun _ => rfl

theorem isSome_initialDouble (point : EccPoint) (initialZ : Option Vli) :
    (xyczInitialDouble point initialZ).isSome = true := by
  refine isSome_bind (isSome_applyZ _ _) fun _ => ?_
  refine isSome_bind (isSome_double _ _) fun _ => ?_
  exact isSome_bind (isSome_applyZ _ _) fun _ => rfl

theorem isSome_xyczAdd (first second : EccPoint) : (xyczAdd first second).isSome = true := by
  refine isSome_bind (isSome_modSquareFast _) fun _ => ?_
  refine isSome_bind (isSome_modMultFast _ _) fun _ => ?_
  refine isSome_bind (isSome_modMultFast _ _) fun _ => ?_
  refine isSome_bind (isSome_modSquareFast _) fun _ => ?_
  refine isSome_bind (isSome_modMultFast _ _) fun _ => ?_
  exact isSome_bind (isSome_modMultFast _ _) fun _ => rfl

theorem isSome_xyczAddC (first second : EccPoint) : (xyczAddC first second).isSome = true := by
  refine isSome_bind (isSome_modSquareFast _) fun _ => ?_
  refine isSome_bind (isSome_modMultFast _ _) fun _ => ?_
  refine isSome_bind (isSome_modMultFast _ _) fun _ => ?_
  refine isSome_bind (isSome_modMultFast _ _) fun _ => ?_
  refine isSome_bind (isSome_modSquareFast _) fun _ => ?_
  refine isSome_bind (isSome_modMultFast _ _) fun _ => ?_
  refine isSome_bind (isSome_modSquareFast _) fun _ => ?_
  exact isSome_bind (isSome_modMultFast _ _) fun _ => rfl

theorem isSome_ladderRound (scalar : Vli) (ladder : Ladder) (i : Nat) :
    (ladderRound scalar ladder i).isSome = true := by
  refine isSome_bind (isSome_xyczAddC _ _) fun _ => ?_
  exact isSome_bind (isSome_xyczAdd _ _) fun _ => rfl

theorem isSome_pointMult (point : EccPoint) (scalar : Vli) (initialZ : Option Vli)
    (numBits : Nat) : (eccPointMult point scalar initialZ numBits).isSome = true := by
  refine isSome_bind (isSome_initialDouble _ _) fun _ => ?_
  refine isSome_bind (isSome_foldlM (isSome_ladderRound scalar) _ _) fun _ => ?_
  refine isSome_bind (isSome_xyczAddC _ _) fun _ => ?_
  refine isSome_bind (isSome_modMultFast _ _) fun _ => ?_
  refine isSome_bind (isSome_modMultFast _ _) fun _ => ?_
  refine isSome_bind (isSome_modInv _) fun _ => ?_
  refine isSome_bind (isSome_modMultFast _ _) fun _ => ?_
  refine isSome_bind (isSome_modMultFast _ _) fun _ => ?_
  exact isSome_bind (isSome_xyczAdd _ _) fun _ => isSome_applyZ _ _

theorem isSome_validPoint (point : EccPoint) : (eccValidPoint point).isSome = true := by
  rw [eccValidPoint]
  split_ifs
  · rfl
  · rfl
  · refine isSome_bind (isSome_modSquareFast _) fun _ => ?_
    refine isSome_bind (isSome_modSquareFast _) fun _ => ?_
    exact isSome_bind (isSome_modMultFast _ _) fun _ => rfl

theorem isSome_sharedSecret (rand : Option Vli) (publicKey : Buffer 64)
    (privateKey secret : Buffer 32) :
    (ecdhSharedSecret rand publicKey privateKey secret).isSome = true := by
  cases rand with
  | none => rfl
  | some rand =>
      refine isSome_bind (isSome_validPoint _) fun valid => ?_
      cases valid with
      | false => rfl
      | true => exact isSome_bind (isSome_pointMult _ _ _ _) fun _ => rfl

/-- A key that is no point of the curve is refused, and the secret is left as it was. -/
theorem ecdhSharedSecret_refuses (rand : Option Vli) {publicKey : Buffer 64}
    (keeps : (publicPoint publicKey).keepsCarries = true)
    (outside : ¬curve.toAffine.Equation (publicPoint publicKey).x.residue
      (publicPoint publicKey).y.residue)
    (privateKey secret : Buffer 32) :
    ecdhSharedSecret rand publicKey privateKey secret = some (false, secret) := by
  cases rand with
  | none => rfl
  | some rand =>
      rcases eccValidPoint_iff (publicPoint publicKey) keeps with ⟨valid, found, isValid⟩
      have refused : valid = false := by
        rw [← Bool.not_eq_true, isValid]
        exact fun accepted => outside accepted.2.2
      rw [ecdhSharedSecret, found, refused]
      rfl

end Meshctl.Ecc
