import Meshctl.Foundation.Buffer
import Meshctl.Ecc.Point

/-! # Public keys

A key has the least significant byte of each number first.
-/

namespace Meshctl.Ecc

open Bytes Digits

/-- A digit from the eight bytes at `offset`. -/
def nativeDigit (bytes : Buffer 32) (offset : Nat) : U64 :=
  (bytes.get offset).setWidth 64 <<< 0 ||| (bytes.get (offset + 1)).setWidth 64 <<< 8 |||
    (bytes.get (offset + 2)).setWidth 64 <<< 16 |||
    (bytes.get (offset + 3)).setWidth 64 <<< 24 |||
    (bytes.get (offset + 4)).setWidth 64 <<< 32 |||
    (bytes.get (offset + 5)).setWidth 64 <<< 40 |||
    (bytes.get (offset + 6)).setWidth 64 <<< 48 |||
    (bytes.get (offset + 7)).setWidth 64 <<< 56

def eccBytes2native (bytes : Buffer 32) : Vli :=
  .ofDigits (nativeDigit bytes 0) (nativeDigit bytes 8) (nativeDigit bytes 16)
    (nativeDigit bytes 24)

def eccNative2bytes (native : Vli) : Buffer 32 :=
  Buffer.ofFn fun index => (native.digit (index / 8) >>> (8 * (index % 8))).setWidth 8

def publicPoint (publicKey : Buffer 64) : EccPoint where
  x := eccBytes2native (Buffer.read publicKey.bytes 0)
  y := eccBytes2native (Buffer.read publicKey.bytes 32)

def keyOfPoint (point : EccPoint) : Buffer 64 where
  bytes := (eccNative2bytes point.x).bytes ++ (eccNative2bytes point.y).bytes
  sized := by
    rw [List.length_append, Buffer.sized, Buffer.sized]

def eccValidPublicKey (publicKey : Buffer 64) : Option Bool :=
  eccValidPoint (publicPoint publicKey)

/-! ## Bytes of a number -/

theorem toNat_or_byte {low : U64} (byte : Byte) (shift : Nat)
    (small : low.toNat < 2 ^ shift) (fits : shift ≤ 56) :
    (low ||| byte.setWidth 64 <<< shift).toNat = low.toNat + 2 ^ shift * byte.toNat ∧
      (low ||| byte.setWidth 64 <<< shift).toNat < 2 ^ (shift + 8) := by
  have byteSmall := byte.isLt
  have bound : 2 ^ shift * byte.toNat + 2 ^ shift ≤ 2 ^ (shift + 8) := by
    rw [pow_add, ← Nat.mul_succ]
    exact Nat.mul_le_mul_left _ byteSmall
  have inside : 2 ^ (shift + 8) ≤ 2 ^ 64 := Nat.pow_le_pow_right Nat.two_pos (by omega)
  have isHigh : (byte.setWidth 64 <<< shift).toNat = 2 ^ shift * byte.toNat := by
    rw [BitVec.toNat_shiftLeft, BitVec.toNat_setWidth, Nat.shiftLeft_eq,
      Nat.mod_eq_of_lt (by omega : byte.toNat < 2 ^ 64), Nat.mul_comm]
    exact Nat.mod_eq_of_lt (by omega)
  rw [toNat_or_of_lt small isHigh]
  exact ⟨rfl, by omega⟩

theorem nativeDigit_toNat (bytes : Buffer 32) (offset : Nat) :
    (nativeDigit bytes offset).toNat =
      (bytes.get offset).toNat + 2 ^ 8 * (bytes.get (offset + 1)).toNat +
        2 ^ 16 * (bytes.get (offset + 2)).toNat + 2 ^ 24 * (bytes.get (offset + 3)).toNat +
        2 ^ 32 * (bytes.get (offset + 4)).toNat + 2 ^ 40 * (bytes.get (offset + 5)).toNat +
        2 ^ 48 * (bytes.get (offset + 6)).toNat + 2 ^ 56 * (bytes.get (offset + 7)).toNat := by
  have byteSmall := (bytes.get offset).isLt
  have first : ((bytes.get offset).setWidth 64 <<< 0).toNat = (bytes.get offset).toNat := by
    rw [BitVec.shiftLeft_zero, BitVec.toNat_setWidth]
    exact Nat.mod_eq_of_lt (by omega)
  have step1 := toNat_or_byte (bytes.get (offset + 1)) 8 (first ▸ byteSmall) (by omega)
  have step2 := toNat_or_byte (bytes.get (offset + 2)) 16 step1.2 (by omega)
  have step3 := toNat_or_byte (bytes.get (offset + 3)) 24 step2.2 (by omega)
  have step4 := toNat_or_byte (bytes.get (offset + 4)) 32 step3.2 (by omega)
  have step5 := toNat_or_byte (bytes.get (offset + 5)) 40 step4.2 (by omega)
  have step6 := toNat_or_byte (bytes.get (offset + 6)) 48 step5.2 (by omega)
  have step7 := toNat_or_byte (bytes.get (offset + 7)) 56 step6.2 (by omega)
  rw [nativeDigit, step7.1, step6.1, step5.1, step4.1, step3.1, step2.1, step1.1, first]

theorem value_drop (bytes : Buffer 32) {offset : Nat} (inside : offset < 32) :
    value (bytes.bytes.drop offset) =
      (bytes.get offset).toNat + 2 ^ 8 * value (bytes.bytes.drop (offset + 1)) := by
  have bound : offset < bytes.bytes.length := by
    rw [bytes.sized]
    exact inside
  rw [List.drop_eq_getElem_cons bound, value_cons, Buffer.get, Bytes.get,
    List.getD_eq_getElem _ _ bound]

/-- Eight bytes are a digit. -/
theorem value_drop_digit (bytes : Buffer 32) {offset : Nat} (inside : offset + 8 ≤ 32) :
    value (bytes.bytes.drop offset) =
      (nativeDigit bytes offset).toNat + 2 ^ 64 * value (bytes.bytes.drop (offset + 8)) := by
  rw [nativeDigit_toNat, value_drop bytes (by omega), value_drop bytes (by omega),
    value_drop bytes (by omega), value_drop bytes (by omega), value_drop bytes (by omega),
    value_drop bytes (by omega), value_drop bytes (by omega), value_drop bytes (by omega)]
  ring

/-- The number of a key is the number that its bytes are the digits of. -/
theorem eccBytes2native_value (bytes : Buffer 32) :
    (eccBytes2native bytes).value = value bytes.bytes := by
  have rest : bytes.bytes.drop 32 = [] := List.drop_eq_nil_of_le bytes.sized.le
  have whole : value bytes.bytes = value (bytes.bytes.drop 0) := rfl
  rw [eccBytes2native, Vli.value_ofDigits, whole, value_drop_digit bytes (by omega),
    value_drop_digit bytes (by omega), value_drop_digit bytes (by omega),
    value_drop_digit bytes (by omega), rest, value_nil]
  ring

theorem nativeDigit_native2bytes (native : Vli) (index : Nat) (inside : index < 4) :
    nativeDigit (eccNative2bytes native) (8 * index) = native.digit index := by
  apply BitVec.eq_of_toNat_eq
  have isByte (j : Nat) (small : j < 8) :
      ((eccNative2bytes native).get (8 * index + j)).toNat =
        (native.digit index).toNat / 2 ^ (8 * j) % 2 ^ 8 := by
    rw [eccNative2bytes, Buffer.get_ofFn (by omega), BitVec.toNat_setWidth,
      toNat_shiftRight, show (8 * index + j) / 8 = index by omega,
      show (8 * index + j) % 8 = j by omega]
  have small := (native.digit index).isLt
  rw [nativeDigit_toNat, isByte 1 (by omega), isByte 2 (by omega), isByte 3 (by omega),
    isByte 4 (by omega), isByte 5 (by omega), isByte 6 (by omega), isByte 7 (by omega)]
  have isFirst := isByte 0 (by omega)
  rw [Nat.add_zero] at isFirst
  rw [isFirst]
  omega

/-- A number that is written as bytes is read again. -/
theorem eccBytes2native_native2bytes (native : Vli) :
    eccBytes2native (eccNative2bytes native) = native := by
  rw [eccBytes2native, nativeDigit_native2bytes native 0 (by omega),
    nativeDigit_native2bytes native 1 (by omega),
    nativeDigit_native2bytes native 2 (by omega),
    nativeDigit_native2bytes native 3 (by omega)]
  rcases native.exists_digits with ⟨d0, d1, d2, d3, rfl⟩
  rfl

/-- The key of a point is read as the point again. -/
theorem publicPoint_keyOfPoint (point : EccPoint) : publicPoint (keyOfPoint point) = point := by
  have xSized := (eccNative2bytes point.x).sized
  have isX : (Buffer.read (keyOfPoint point).bytes 0 : Buffer 32) =
      eccNative2bytes point.x := by
    apply Buffer.ext_get
    intro index inside
    rw [Buffer.get_read inside, keyOfPoint, Nat.zero_add, get_append_left (by omega)]
    rfl
  have isY : (Buffer.read (keyOfPoint point).bytes 32 : Buffer 32) =
      eccNative2bytes point.y := by
    apply Buffer.ext_get
    intro index inside
    rw [Buffer.get_read inside, keyOfPoint, get_append_right (by omega), xSized,
      Nat.add_sub_cancel_left]
    rfl
  rw [publicPoint, isX, isY, eccBytes2native_native2bytes, eccBytes2native_native2bytes]

/-- The key for the private key one. -/
def generatorKey : Buffer 64 := keyOfPoint curveG

/-- A key is accepted exactly when its halves are numbers below the prime that are a point
of the curve, unless a carry is lost. -/
theorem eccValidPublicKey_iff (publicKey : Buffer 64)
    (keeps : (publicPoint publicKey).keepsCarries = true) :
    ∃ valid, eccValidPublicKey publicKey = some valid ∧
      (valid = true ↔ value (slice publicKey.bytes 0 32) < curveP.value ∧
        value (slice publicKey.bytes 32 32) < curveP.value ∧
        curve.toAffine.Equation (value (slice publicKey.bytes 0 32) : ZMod curveP.value)
          (value (slice publicKey.bytes 32 32))) := by
  have accepted := eccValidPoint_iff (publicPoint publicKey) keeps
  rw [Vli.residue, Vli.residue, publicPoint, eccBytes2native_value, eccBytes2native_value]
    at accepted
  exact accepted

theorem eccValidPublicKey_iff_generator :
    ∃ valid, eccValidPublicKey generatorKey = some valid ∧
      (valid = true ↔ value (slice generatorKey.bytes 0 32) < curveP.value ∧
        value (slice generatorKey.bytes 32 32) < curveP.value ∧
        curve.toAffine.Equation (value (slice generatorKey.bytes 0 32) : ZMod curveP.value)
          (value (slice generatorKey.bytes 32 32))) :=
  eccValidPublicKey_iff generatorKey (by decide +kernel)

end Meshctl.Ecc
