import Meshctl.Net.Protocol

/-! # Header fields of network and transport PDUs

The accessors of the two header formats. The setters of the network layer count
their offsets from the start of the packet, the getters of the transport layer
from the start of its transport PDU, nine bytes later.
-/

namespace Meshctl.Net

open Bytes

/-- Write `value` under the bits that `kept` leaves in place. -/
def setBits (packet : List Byte) (offset : Nat) (kept value : Byte) :
    List Byte :=
  put packet offset ((get packet offset &&& kept) ||| value)

def putBe16 (value : U16) (packet : List Byte) (offset : Nat) : List Byte :=
  put (put packet offset (value.extractLsb' 8 8)) (offset + 1)
    (value.extractLsb' 0 8)

def putBe32 (value : U32) (packet : List Byte) (offset : Nat) : List Byte :=
  putBe16 (value.extractLsb' 0 16)
    (putBe16 (value.extractLsb' 16 16) packet offset) (offset + 2)

/-! ## Network PDU -/

section Network

variable (packet : List Byte)

def pktIvi : Bool := get packet 0 &&& 0x80 ≠ 0

def setPktIvi (value : Bool) : List Byte :=
  setBits packet 0 0x7f (if value then 0x80 else 0)

def pktNid : Byte := get packet 0 &&& 0x7f

def setPktNid (value : Byte) : List Byte := setBits packet 0 0x80 value

def pktCtl : Bool := get packet 1 &&& 0x80 ≠ 0

def setPktCtl (value : Bool) : List Byte :=
  setBits packet 1 0x7f (if value then 0x80 else 0)

def pktTtl : Byte := get packet 1 &&& 0x7f

def setPktTtl (value : Byte) : List Byte := setBits packet 1 0x80 value

def pktSeq : U32 := getBe32 packet 1 &&& 0xffffff

def setPktSeq (value : U32) : List Byte :=
  putBe32 (((get packet 1).setWidth 32 <<< 24) + (value &&& 0xffffff)) packet 1

def pktSrc : U16 := getBe16 packet 5

def setPktSrc (value : U16) : List Byte := putBe16 value packet 5

def pktDst : U16 := getBe16 packet 7

def setPktDst (value : U16) : List Byte := putBe16 value packet 7

def pktTrans : List Byte := packet.drop 9

def pktSegmented : Bool := get packet 9 &&& 0x80 ≠ 0

def setPktSegmented (value : Bool) : List Byte :=
  setBits packet 9 0x7f (if value then 0x80 else 0)

def setPktAkfAid (value : Byte) : List Byte := setBits packet 9 0x80 value

def pktOpcode : Byte := get packet 9 &&& 0x7f

def setPktOpcode (value : Byte) : List Byte := setBits packet 9 0x80 value

def pktObo : Bool := get packet 10 &&& 0x80 ≠ 0

def setPktSzmic (value : Bool) : List Byte :=
  setBits packet 10 0x7f (if value then 0x80 else 0)

def pktSeq0 : U16 := (getBe16 packet 10 >>> 2) &&& 0x1fff

def setPktSeq0 (value : U32) : List Byte :=
  putBe16 ((getBe16 packet 10 &&& 0x8003) |||
    ((value &&& 0x1fff) <<< 2).setWidth 16) packet 10

def setPktSegO (value : Byte) : List Byte :=
  putBe16 ((getBe16 packet 11 &&& 0xfc1f) ||| (value.setWidth 16 <<< 5))
    packet 11

def setPktSegN (value : Byte) : List Byte := setBits packet 12 0xe0 value

def pktAck : U32 := getBe32 packet 12

end Network

/-! ## Transport PDU -/

section Transport

variable (trans : List Byte)

def transSegmented : Bool := get trans 0 &&& 0x80 ≠ 0

def setTransOpcode (value : Byte) : List Byte := setBits trans 0 0x80 value

def transAkfAid : Byte := get trans 0 &&& 0x7f

def transAkf : Bool := get trans 0 &&& 0x40 ≠ 0

def transSzmic : Bool := transSegmented trans && get trans 1 &&& 0x80 ≠ 0

def transSeq0 : U16 := (getBe16 trans 1 >>> 2) &&& 0x1fff

def setTransSeq0 (value : U32) : List Byte :=
  putBe16 ((getBe16 trans 1 &&& 0x8003) |||
    ((value &&& 0x1fff) <<< 2).setWidth 16) trans 1

def setTransAck (value : U32) : List Byte := putBe32 value trans 3

def transSegO : Byte := ((getBe16 trans 2 >>> 5) &&& 0x1f).setWidth 8

def transSegN : Byte := get trans 3 &&& 0x1f

end Transport

/-- The full 24-bit sequence number behind the 13 bits in a segment, guessed
from the sequence number of the segment. -/
def calcSeqAuth (seqNum : U32) (trans : List Byte) : U32 :=
  (seqNum &&& ~~~0x1fff) ||| (transSeq0 trans).setWidth 32

/-! ## Reading back what was written -/

@[simp] theorem length_setBits (packet : List Byte) (offset : Nat)
    (kept value : Byte) :
    (setBits packet offset kept value).length = packet.length := by
  simp [setBits]

@[simp] theorem length_putBe16 (value : U16) (packet : List Byte)
    (offset : Nat) : (putBe16 value packet offset).length = packet.length := by
  simp [putBe16]

@[simp] theorem length_putBe32 (value : U32) (packet : List Byte)
    (offset : Nat) : (putBe32 value packet offset).length = packet.length := by
  simp [putBe32]

theorem get_setBits_ne {packet : List Byte} {offset index : Nat}
    {kept value : Byte} (apart : offset ≠ index) :
    get (setBits packet offset kept value) index = get packet index :=
  get_put_ne apart

theorem get_setBits_self {packet : List Byte} {offset : Nat}
    {kept value : Byte} (inPacket : offset < packet.length) :
    get (setBits packet offset kept value) offset =
      (get packet offset &&& kept) ||| value :=
  get_put_self inPacket

theorem get_putBe16_ne {value : U16} {packet : List Byte}
    {offset index : Nat} (apart : index < offset ∨ offset + 2 ≤ index) :
    get (putBe16 value packet offset) index = get packet index := by
  rw [putBe16, get_put_ne (by omega), get_put_ne (by omega)]

theorem get_putBe16_high {value : U16} {packet : List Byte} {offset : Nat}
    (inPacket : offset + 2 ≤ packet.length) :
    get (putBe16 value packet offset) offset = value.extractLsb' 8 8 := by
  rw [putBe16, get_put_ne (by omega), get_put_self (by omega)]

theorem get_putBe16_low {value : U16} {packet : List Byte} {offset : Nat}
    (inPacket : offset + 2 ≤ packet.length) :
    get (putBe16 value packet offset) (offset + 1) = value.extractLsb' 0 8 := by
  rw [putBe16, get_put_self (by rw [length_put]; omega)]

theorem getBe16_putBe16 {value : U16} {packet : List Byte} {offset : Nat}
    (inPacket : offset + 2 ≤ packet.length) :
    getBe16 (putBe16 value packet offset) offset = value := by
  rw [getBe16, get_putBe16_high inPacket, get_putBe16_low inPacket]
  exact append_halves 8 value

theorem getBe16_congr {left right : List Byte} {offset offset' : Nat}
    (high : get left offset = get right offset')
    (low : get left (offset + 1) = get right (offset' + 1)) :
    getBe16 left offset = getBe16 right offset' := by
  rw [getBe16, getBe16, high, low]

theorem getBe32_congr {left right : List Byte} {offset offset' : Nat}
    (same : ∀ index < 4,
      get left (offset + index) = get right (offset' + index)) :
    getBe32 left offset = getBe32 right offset' := by
  have high : getBe16 left offset = getBe16 right offset' :=
    getBe16_congr (same 0 (by omega)) (same 1 (by omega))
  have low : getBe16 left (offset + 2) = getBe16 right (offset' + 2) :=
    getBe16_congr (same 2 (by omega)) (same 3 (by omega))
  rw [getBe32, getBe32, high, low]

theorem getBe32_putBe32 {value : U32} {packet : List Byte} {offset : Nat}
    (inPacket : offset + 4 ≤ packet.length) :
    getBe32 (putBe32 value packet offset) offset = value := by
  have high : getBe16 (putBe32 value packet offset) offset =
      value.extractLsb' 16 16 := by
    rw [putBe32, getBe16_congr (get_putBe16_ne (by omega))
      (get_putBe16_ne (by omega)), getBe16_putBe16 (by omega)]
  have low : getBe16 (putBe32 value packet offset) (offset + 2) =
      value.extractLsb' 0 16 := by
    rw [putBe32, getBe16_putBe16 (by rw [length_putBe16]; omega)]
  rw [getBe32, high, low]
  exact append_halves 16 value

theorem toNat_and_seqMask (value : U32) :
    (value &&& 0xffffff).toNat = value.toNat % 2 ^ 24 := by
  have mask : (0xffffff : U32).toNat = 2 ^ 24 - 1 := rfl
  rw [BitVec.toNat_and, mask, Nat.and_two_pow_sub_one_eq_mod]

theorem pktSeq_setPktSeq {packet : List Byte} (long : 5 ≤ packet.length)
    (value : U32) : pktSeq (setPktSeq packet value) = value &&& 0xffffff := by
  rw [pktSeq, setPktSeq, getBe32_putBe32 long]
  apply BitVec.eq_of_toNat_eq
  rw [toNat_and_seqMask, BitVec.toNat_add, toNat_and_seqMask,
    BitVec.toNat_shiftLeft, Nat.shiftLeft_eq]
  omega

/-! ## The bits of the segment header

SeqZero, SegO and SegN lie side by side in three bytes, and each is written
without regard to the byte limits. -/

theorem getElem_word (high low : Byte) (index : Nat) (inRange : index < 16) :
    (high ++ low : U16)[index] =
      if below : index < 8 then low[index] else high[index - 8] :=
  BitVec.getElem_append inRange

theorem setWidth_segment {seg : Byte} (small : seg.toNat ≤ 31) :
    (seg.setWidth 5).setWidth 8 = seg := by
  apply BitVec.eq_of_toNat_eq
  simp only [BitVec.toNat_setWidth]
  omega

/-- SegN leaves SegO alone. -/
theorem segO_segN_bits (word : U16) (segO segN : BitVec 5) :
    let upper : U16 :=
      (word &&& 0xfc1f) ||| ((segO.setWidth 8).setWidth 16 <<< 5)
    let lower : Byte :=
      (upper.extractLsb' 0 8 &&& 0xe0) ||| segN.setWidth 8
    (((upper.extractLsb' 8 8 ++ lower : U16) >>> 5) &&& 0x1f).setWidth 8 =
      segO.setWidth 8 ∧ lower &&& 0x1f = segN.setWidth 8 := by
  dsimp only
  constructor
  · ext index inRange
    interval_cases index <;> simp [getElem_word]
  · ext index inRange
    interval_cases index <;> simp

/-- SegO leaves SeqZero alone, and SeqZero the bit in front of it. -/
theorem seq0_segO_bits (word : U16) (seqAuth : U32) (third : Byte)
    (segO : BitVec 5) :
    let upper : U16 :=
      (word &&& 0x8003) ||| ((seqAuth &&& 0x1fff) <<< 2).setWidth 16
    let lower : U16 := ((upper.extractLsb' 0 8 ++ third : U16) &&& 0xfc1f) |||
      ((segO.setWidth 8).setWidth 16 <<< 5)
    ((upper.extractLsb' 8 8 ++ lower.extractLsb' 8 8 : U16) >>> 2) &&& 0x1fff =
      (seqAuth &&& 0x1fff).setWidth 16 ∧
    upper.extractLsb' 8 8 &&& 0x80 = word.extractLsb' 8 8 &&& 0x80 := by
  dsimp only
  constructor
  · ext index inRange
    interval_cases index <;> simp [getElem_word]
  · ext index inRange
    interval_cases index <;> simp

theorem get_setPktSeq0 {packet : List Byte} (long : 13 ≤ packet.length)
    (value : U32) :
    let word : U16 := (getBe16 packet 10 &&& 0x8003) |||
      ((value &&& 0x1fff) <<< 2).setWidth 16
    get (setPktSeq0 packet value) 10 = word.extractLsb' 8 8 ∧
      get (setPktSeq0 packet value) 11 = word.extractLsb' 0 8 ∧
      get (setPktSeq0 packet value) 12 = get packet 12 :=
  ⟨get_putBe16_high (by omega), get_putBe16_low (by omega),
    get_putBe16_ne (by omega)⟩

theorem get_setPktSegO {packet : List Byte} (long : 13 ≤ packet.length)
    (value : Byte) :
    let word : U16 := (getBe16 packet 11 &&& 0xfc1f) |||
      (value.setWidth 16 <<< 5)
    get (setPktSegO packet value) 10 = get packet 10 ∧
      get (setPktSegO packet value) 11 = word.extractLsb' 8 8 ∧
      get (setPktSegO packet value) 12 = word.extractLsb' 0 8 :=
  ⟨get_putBe16_ne (by omega), get_putBe16_high (by omega),
    get_putBe16_low (by omega)⟩

/-- The three bytes of the segment header. -/
theorem get_segmentHeader {packet : List Byte} (long : 13 ≤ packet.length)
    (seqAuth : U32) (segO segN : Byte) :
    let upper : U16 := (getBe16 packet 10 &&& 0x8003) |||
      ((seqAuth &&& 0x1fff) <<< 2).setWidth 16
    let lower : U16 :=
      ((upper.extractLsb' 0 8 ++ get packet 12 : U16) &&& 0xfc1f) |||
        (segO.setWidth 16 <<< 5)
    let header := setPktSegN (setPktSegO (setPktSeq0 packet seqAuth) segO) segN
    get header 10 = upper.extractLsb' 8 8 ∧
      get header 11 = lower.extractLsb' 8 8 ∧
      get header 12 = (lower.extractLsb' 0 8 &&& 0xe0) ||| segN := by
  dsimp only
  have zeroLong : 13 ≤ (setPktSeq0 packet seqAuth).length := by
    simpa [setPktSeq0] using long
  have orderLong : 13 ≤ (setPktSegO (setPktSeq0 packet seqAuth) segO).length := by
    simpa [setPktSegO] using zeroLong
  rcases get_setPktSeq0 long seqAuth with ⟨zero10, zero11, zero12⟩
  rcases get_setPktSegO zeroLong segO with ⟨order10, order11, order12⟩
  rw [getBe16, zero11, zero12] at order11 order12
  refine ⟨?_, ?_, ?_⟩
  · rw [setPktSegN, get_setBits_ne (by omega), order10, zero10]
  · rw [setPktSegN, get_setBits_ne (by omega), order11]
  · rw [setPktSegN, get_setBits_self (by omega), order12]

/-- What the receiver reads from the header of a segment. -/
theorem segmentHeader_fields {packet : List Byte} (long : 13 ≤ packet.length)
    (seqAuth : U32) {segO segN : Byte} (smallO : segO.toNat ≤ 31)
    (smallN : segN.toNat ≤ 31) :
    let trans := pktTrans
      (setPktSegN (setPktSegO (setPktSeq0 packet seqAuth) segO) segN)
    transSegO trans = segO ∧ transSegN trans = segN ∧
      transSeq0 trans = (seqAuth &&& 0x1fff).setWidth 16 ∧
      get trans 1 &&& 0x80 = get packet 10 &&& 0x80 := by
  dsimp only
  rcases get_segmentHeader long seqAuth segO segN with ⟨at10, at11, at12⟩
  have bits := segO_segN_bits ((((getBe16 packet 10 &&& 0x8003) |||
      ((seqAuth &&& 0x1fff) <<< 2).setWidth 16 : U16).extractLsb' 0 8 ++
        get packet 12 : U16)) (segO.setWidth 5) (segN.setWidth 5)
  have zeroBits := seq0_segO_bits (getBe16 packet 10) seqAuth (get packet 12)
    (segO.setWidth 5)
  simp only [setWidth_segment smallO, setWidth_segment smallN] at bits zeroBits
  refine ⟨?_, ?_, ?_, ?_⟩
  · rw [transSegO, getBe16, pktTrans, get_drop, get_drop, at11, at12]
    exact bits.1
  · rw [transSegN, pktTrans, get_drop, at12]
    exact bits.2
  · rw [transSeq0, getBe16, pktTrans, get_drop, get_drop, at10, at11]
    exact zeroBits.1
  · rw [pktTrans, get_drop, at10, zeroBits.2, getBe16]
    congr 1
    exact BitVec.extractLsb'_append_eq_left

/-- The receiver reads the first four bytes for the header. -/
theorem trans_congr {left right : List Byte}
    (same : ∀ index < 4, get left index = get right index) :
    transSegO left = transSegO right ∧ transSegN left = transSegN right ∧
      transSeq0 left = transSeq0 right ∧
      transSzmic left = transSzmic right := by
  have first : getBe16 left 1 = getBe16 right 1 :=
    getBe16_congr (same 1 (by omega)) (same 2 (by omega))
  have second : getBe16 left 2 = getBe16 right 2 :=
    getBe16_congr (same 2 (by omega)) (same 3 (by omega))
  refine ⟨?_, ?_, ?_, ?_⟩
  · rw [transSegO, transSegO, second]
  · rw [transSegN, transSegN, same 3 (by omega)]
  · rw [transSeq0, transSeq0, first]
  · rw [transSzmic, transSzmic, transSegmented, transSegmented,
      same 0 (by omega), same 1 (by omega)]

end Meshctl.Net
