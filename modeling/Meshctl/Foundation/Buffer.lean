import Meshctl.Foundation.Bytes

/-! Arrays of a fixed number of bytes. -/

namespace Meshctl

structure Buffer (size : Nat) where
  bytes : List Byte
  sized : bytes.length = size
deriving DecidableEq

namespace Buffer

open Bytes

variable {size : Nat}

def get (buffer : Buffer size) (index : Nat) : Byte :=
  Bytes.get buffer.bytes index

/-- Two arrays with the same bytes are equal. -/
theorem ext_get {first second : Buffer size}
    (same : ∀ index < size, first.get index = second.get index) :
    first = second := by
  rcases first with ⟨first, firstSized⟩
  rcases second with ⟨second, secondSized⟩
  have sameBytes : first = second := by
    apply Bytes.ext_get (firstSized.trans secondSized.symm)
    intro index inside
    exact same index (firstSized ▸ inside)
  subst sameBytes
  rfl

/-- The array of the values of a function. -/
def ofFn (byte : Nat → Byte) : Buffer size where
  bytes := (List.range size).map byte
  sized := by simp

theorem get_ofFn {byte : Nat → Byte} {index : Nat} (inside : index < size) :
    (ofFn byte : Buffer size).get index = byte index :=
  get_map_range inside

theorem ofFn_congr {first second : Nat → Byte}
    (same : ∀ index < size, first index = second index) :
    (ofFn first : Buffer size) = ofFn second := by
  apply ext_get
  intro index inside
  rw [get_ofFn inside, get_ofFn inside, same index inside]

def zero : Buffer size where
  bytes := List.replicate size 0
  sized := List.length_replicate

/-- Fill the array from a pointer into other bytes. -/
def read (source : List Byte) (offset : Nat) : Buffer size where
  bytes := slice source offset size
  sized := length_slice _ _ _

theorem get_read {source : List Byte} {offset index : Nat}
    (inside : index < size) :
    (read source offset : Buffer size).get index =
      Bytes.get source (offset + index) :=
  get_slice inside

/-- `memcpy` into the array. -/
def copy (buffer : Buffer size) (offset : Nat) (source : List Byte) :
    Buffer size where
  bytes := splice buffer.bytes offset source
  sized := (length_splice _ _ _).trans buffer.sized

def xor (first second : Buffer size) : Buffer size :=
  ofFn fun index => first.get index ^^^ second.get index

end Buffer

end Meshctl
