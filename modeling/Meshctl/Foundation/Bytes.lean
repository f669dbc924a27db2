import Mathlib

namespace Meshctl

/-! Fixed-width unsigned integers and byte buffers. A buffer is the list of
its bytes; a pointer into it is a list and an offset. -/

abbrev Byte := BitVec 8

abbrev U16 := BitVec 16

abbrev U32 := BitVec 32

abbrev U64 := BitVec 64

/-- The sixteen bytes of a key or of a virtual label. -/
abbrev Key := BitVec 128

namespace Bytes

/-- The byte at `offset`; zero past the end of the buffer. -/
def get (buffer : List Byte) (offset : Nat) : Byte :=
  buffer.getD offset 0

/-! ## Big-endian integers -/

def getBe16 (buffer : List Byte) (offset : Nat) : U16 :=
  get buffer offset ++ get buffer (offset + 1)

def getBe32 (buffer : List Byte) (offset : Nat) : U32 :=
  getBe16 buffer offset ++ getBe16 buffer (offset + 2)

def getBe64 (buffer : List Byte) (offset : Nat) : U64 :=
  getBe32 buffer offset ++ getBe32 buffer (offset + 4)

/-- The two bytes of `value`, most significant first. -/
def be16 (value : U16) : List Byte :=
  [value.extractLsb' 8 8, value.extractLsb' 0 8]

def be32 (value : U32) : List Byte :=
  be16 (value.extractLsb' 16 16) ++ be16 (value.extractLsb' 0 16)

def be64 (value : U64) : List Byte :=
  be32 (value.extractLsb' 32 32) ++ be32 (value.extractLsb' 0 32)

@[simp] theorem length_be16 (value : U16) : (be16 value).length = 2 := rfl

@[simp] theorem length_be32 (value : U32) : (be32 value).length = 4 := rfl

@[simp] theorem length_be64 (value : U64) : (be64 value).length = 8 := rfl

/-- An integer is its upper half followed by its lower half. -/
theorem append_halves (width : Nat) (value : BitVec (width + width)) :
    value.extractLsb' width width ++ value.extractLsb' 0 width = value := by
  ext index inRange
  simp only [BitVec.getElem_append, BitVec.getElem_extractLsb']
  split
  · rw [Nat.zero_add, BitVec.getLsbD_eq_getElem]
  · rw [BitVec.getLsbD_eq_getElem (by omega)]
    congr 1
    omega

@[simp] theorem getBe16_be16 (value : U16) (rest : List Byte) :
    getBe16 (be16 value ++ rest) 0 = value :=
  append_halves 8 value

@[simp] theorem getBe32_be32 (value : U32) (rest : List Byte) :
    getBe32 (be32 value ++ rest) 0 = value := by
  have high : getBe16 (be32 value ++ rest) 0 = value.extractLsb' 16 16 :=
    getBe16_be16 _ (be16 (value.extractLsb' 0 16) ++ rest)
  have low : getBe16 (be32 value ++ rest) 2 = value.extractLsb' 0 16 :=
    getBe16_be16 _ rest
  rw [getBe32, high, low]
  exact append_halves 16 value

/-! ## Writing into a buffer -/

/-- Store one byte. -/
def put (buffer : List Byte) (offset : Nat) (value : Byte) : List Byte :=
  buffer.set offset value

@[simp] theorem length_put (buffer : List Byte) (offset : Nat) (value : Byte) :
    (put buffer offset value).length = buffer.length := by
  simp [put]

/-- Copy `source` over the bytes of `buffer` from `offset` on, as `memcpy`
does. The length of the buffer never changes: bytes that would land behind its
end are not part of it. -/
def splice (buffer : List Byte) (offset : Nat) (source : List Byte) :
    List Byte :=
  buffer.mapIdx fun index byte =>
    if offset ≤ index ∧ index < offset + source.length then
      get source (index - offset)
    else
      byte

@[simp] theorem length_splice (buffer : List Byte) (offset : Nat)
    (source : List Byte) :
    (splice buffer offset source).length = buffer.length := by
  simp [splice]

theorem get_of_lt {buffer : List Byte} {offset : Nat}
    (inside : offset < buffer.length) : get buffer offset = buffer[offset] := by
  simp [get, inside]

theorem get_of_le {buffer : List Byte} {offset : Nat}
    (outside : buffer.length ≤ offset) : get buffer offset = 0 := by
  simp [get, List.getD_eq_getElem?_getD, outside]

theorem get_splice_inside {buffer source : List Byte} {offset index : Nat}
    (inBuffer : index < buffer.length) (low : offset ≤ index)
    (high : index < offset + source.length) :
    get (splice buffer offset source) index = get source (index - offset) := by
  rw [get_of_lt (by simpa using inBuffer)]
  simp [splice, low, high]

theorem get_splice_outside {buffer source : List Byte} {offset index : Nat}
    (outside : index < offset ∨ offset + source.length ≤ index) :
    get (splice buffer offset source) index = get buffer index := by
  by_cases inBuffer : index < buffer.length
  · rw [get_of_lt (by simpa using inBuffer), get_of_lt inBuffer]
    have notWritten : ¬(offset ≤ index ∧ index < offset + source.length) := by
      omega
    simp [splice, notWritten]
  · rw [get_of_le (by simpa using inBuffer), get_of_le (by omega)]

theorem get_put_self {buffer : List Byte} {offset : Nat} {value : Byte}
    (inBuffer : offset < buffer.length) :
    get (put buffer offset value) offset = value := by
  simp [get, put, List.getD_eq_getElem?_getD, inBuffer]

theorem get_put_ne {buffer : List Byte} {offset index : Nat} {value : Byte}
    (apart : offset ≠ index) :
    get (put buffer offset value) index = get buffer index := by
  simp [get, put, List.getD_eq_getElem?_getD, apart]

theorem get_map_range {byte : Nat → Byte} {count index : Nat}
    (inside : index < count) :
    get ((List.range count).map byte) index = byte index := by
  simp [get, inside]

theorem get_replicate {byte : Byte} {count index : Nat}
    (inside : index < count) : get (List.replicate count byte) index = byte := by
  simp [get, inside]

@[simp] theorem get_replicate_zero (count index : Nat) :
    get (List.replicate count 0) index = 0 := by
  by_cases inside : index < count
  · exact get_replicate inside
  · exact get_of_le (by simpa using inside)

/-- The `count` bytes from `offset` on. -/
def slice (buffer : List Byte) (offset count : Nat) : List Byte :=
  (List.range count).map fun index => get buffer (offset + index)

@[simp] theorem length_slice (buffer : List Byte) (offset count : Nat) :
    (slice buffer offset count).length = count := by
  simp [slice]

theorem get_slice {buffer : List Byte} {offset count index : Nat}
    (inside : index < count) :
    get (slice buffer offset count) index = get buffer (offset + index) :=
  get_map_range inside

/-- Two buffers of one length with the same bytes are equal. -/
theorem ext_get {left right : List Byte} (length : left.length = right.length)
    (bytes : ∀ index < left.length, get left index = get right index) :
    left = right := by
  apply List.ext_getElem length
  intro index inLeft inRight
  simpa [get, inLeft, inRight] using bytes index inLeft

theorem get_take {buffer : List Byte} {count index : Nat}
    (inside : index < count) : get (buffer.take count) index = get buffer index := by
  simp [get, List.getD_eq_getElem?_getD, List.getElem?_take_of_lt inside]

theorem get_append_left {left right : List Byte} {index : Nat}
    (inside : index < left.length) : get (left ++ right) index = get left index := by
  simp [get, List.getD_eq_getElem?_getD, List.getElem?_append_left inside]

theorem get_append_right {left right : List Byte} {index : Nat}
    (outside : left.length ≤ index) :
    get (left ++ right) index = get right (index - left.length) := by
  simp [get, List.getD_eq_getElem?_getD, List.getElem?_append_right outside]

theorem get_drop {buffer : List Byte} {count index : Nat} :
    get (buffer.drop count) index = get buffer (count + index) := by
  simp [get, List.getD_eq_getElem?_getD]

@[simp] theorem splice_nil (buffer : List Byte) (offset : Nat) :
    splice buffer offset [] = buffer := by
  apply ext_get (by simp)
  intro index _
  exact get_splice_outside (by simp; omega)

/-- Overwriting a whole buffer. -/
theorem splice_all {buffer source : List Byte}
    (length : source.length = buffer.length) :
    splice buffer 0 source = source := by
  apply ext_get (by simp [length])
  intro index inBuffer
  rw [length_splice] at inBuffer
  rw [get_splice_inside inBuffer (by omega) (by omega), Nat.sub_zero]

/-- Reading back what was copied to the front. -/
theorem slice_splice {buffer source : List Byte}
    (room : source.length ≤ buffer.length) :
    slice (splice buffer 0 source) 0 source.length = source := by
  apply ext_get (by simp)
  intro index inside
  rw [length_slice] at inside
  rw [get_slice inside, get_splice_inside (by omega) (by omega) (by omega),
    Nat.zero_add, Nat.sub_zero]

/-- Copying bytes is storing the first one and copying the rest. -/
theorem splice_cons (buffer : List Byte) (offset : Nat) (byte : Byte)
    (rest : List Byte) :
    splice buffer offset (byte :: rest) =
      splice (put buffer offset byte) (offset + 1) rest := by
  apply ext_get (by simp)
  intro index inBuffer
  rw [length_splice] at inBuffer
  by_cases isFirst : index = offset
  · subst isFirst
    rw [get_splice_inside inBuffer (by omega) (by simp),
      get_splice_outside (by omega), get_put_self inBuffer, Nat.sub_self]
    rfl
  · by_cases inRest : offset + 1 ≤ index ∧ index < offset + 1 + rest.length
    · have shifted : index - offset = index - (offset + 1) + 1 := by omega
      rw [get_splice_inside inBuffer (by omega) (by simp; omega),
        get_splice_inside (by simpa using inBuffer) inRest.1 inRest.2, shifted]
      rfl
    · rw [get_splice_outside (by simp; omega), get_splice_outside (by omega),
        get_put_ne (by omega)]

end Bytes

end Meshctl
