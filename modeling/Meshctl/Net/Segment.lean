import Meshctl.Net.Header
import Meshctl.Net.Types

/-! # Cutting a message into network PDUs -/

namespace Meshctl.Net

open Bytes

/-- The control PDU keeps its opcode in the first byte of the data. -/
def ctlOffset (sar : MeshSarMsg) : Nat := if sar.ctl then 1 else 0

/-- The header of a segment, before its transport header. -/
def segmentNetworkHeader (sar : MeshSarMsg) (nid : Byte) (seq : U32) :
    List Byte :=
  let data := List.replicate 29 0
  let data := setPktNid data nid
  let data := setPktIvi data (sar.ivIndex &&& 1 ≠ 0)
  let data := setPktCtl data sar.ctl
  let data := setPktTtl data sar.ttl
  let data := setPktSeq data seq
  let data := setPktSrc data sar.src
  let data := setPktDst data (sar.dst.setWidth 16)
  let data := setPktSegmented data sar.segmented
  if sar.ctl then
    setPktOpcode data (get sar.data 0)
  else
    setPktAkfAid data sar.akfAid

/-- The transport header of segment `seg` of a segmented message. -/
def segmentTransportHeader (sar : MeshSarMsg) (seg : Byte)
    (data : List Byte) : List Byte :=
  let data := if !sar.ctl then setPktSzmic data sar.szmic else data
  let data := setPktSeq0 data sar.seqAuth
  let data := setPktSegO data seg
  setPktSegN data sar.segN

/-- The plaintext PDU that `send_seg` fills in, in a buffer of 29 bytes, and its
length without the network MIC. -/
def segmentPdu (sar : MeshSarMsg) (seg nid : Byte) (seq : U32) :
    List Byte × Byte :=
  let data := segmentNetworkHeader sar nid seq
  if sar.segmented then
    let data := segmentTransportHeader sar seg data
    let data := splice data 13
      (slice sar.data (ctlOffset sar + seg.toNat * 12) 12)
    let len := 9 + 4
    let len := if sar.segN = seg then
      len + (sar.len.toNat - ctlOffset sar) % 12 else len
    let len := if len = 9 + 4 then len + 12 else len
    (data, BitVec.ofNat 8 len)
  else
    let data := splice data 10 (slice sar.data (ctlOffset sar) 15)
    (data, BitVec.ofNat 8 (9 + 1 + sar.len.toNat - ctlOffset sar))

/-- The size of the network MIC. -/
def micSize (ctl : Bool) : Byte := if ctl then 8 else 4

/-! ## The header of the finished PDU -/

@[simp] theorem length_segmentNetworkHeader (sar : MeshSarMsg) (nid : Byte)
    (seq : U32) : (segmentNetworkHeader sar nid seq).length = 29 := by
  simp only [segmentNetworkHeader]
  split <;> simp [setPktOpcode, setPktAkfAid, setPktSegmented, setPktDst,
    setPktSrc, setPktSeq, setPktTtl, setPktCtl, setPktIvi, setPktNid]

@[simp] theorem length_segmentTransportHeader (sar : MeshSarMsg) (seg : Byte)
    (data : List Byte) :
    (segmentTransportHeader sar seg data).length = data.length := by
  simp only [segmentTransportHeader]
  split <;> simp [setPktSzmic, setPktSeq0, setPktSegO, setPktSegN]

@[simp] theorem length_segmentPdu (sar : MeshSarMsg) (seg nid : Byte)
    (seq : U32) : (segmentPdu sar seg nid seq).1.length = 29 := by
  simp only [segmentPdu]
  split <;> simp

theorem get_segmentTransportHeader {sar : MeshSarMsg} {seg : Byte}
    {data : List Byte} {index : Nat} (outside : index < 10 ∨ 13 ≤ index) :
    get (segmentTransportHeader sar seg data) index = get data index := by
  simp only [segmentTransportHeader, setPktSegN, setPktSegO, setPktSeq0,
    setPktSzmic]
  rw [get_setBits_ne (by omega), get_putBe16_ne (by omega),
    get_putBe16_ne (by omega)]
  split
  · rw [get_setBits_ne (by omega)]
  · rfl

/-- The first nine bytes of a PDU are its network header. -/
theorem get_segmentPdu_network {sar : MeshSarMsg} {seg nid : Byte} {seq : U32}
    {index : Nat} (inHeader : index < 10) :
    get (segmentPdu sar seg nid seq).1 index =
      get (segmentNetworkHeader sar nid seq) index := by
  simp only [segmentPdu]
  split
  · rw [get_splice_outside (by omega),
      get_segmentTransportHeader (by omega)]
  · rw [get_splice_outside (by omega)]

/-- The sequence number field is followed by the addresses only. -/
theorem pktSeq_segmentPdu (sar : MeshSarMsg) (seg nid : Byte) (seq : U32) :
    pktSeq (segmentPdu sar seg nid seq).1 = seq &&& 0xffffff := by
  have field : getBe32 (segmentPdu sar seg nid seq).1 1 =
      getBe32 (setPktSeq (setPktTtl (setPktCtl (setPktIvi (setPktNid
        (List.replicate 29 0) nid) (sar.ivIndex &&& 1 ≠ 0)) sar.ctl) sar.ttl)
        seq) 1 := by
    apply getBe32_congr
    intro index inField
    rw [get_segmentPdu_network (by omega)]
    simp only [segmentNetworkHeader, setPktOpcode, setPktAkfAid,
      setPktSegmented, setPktDst, setPktSrc]
    split <;> rw [get_setBits_ne (by omega), get_setBits_ne (by omega),
      get_putBe16_ne (by omega), get_putBe16_ne (by omega)]
  rw [pktSeq, field]
  exact pktSeq_setPktSeq (by
    simp [setPktTtl, setPktCtl, setPktIvi, setPktNid]) seq

theorem pktSrc_segmentPdu (sar : MeshSarMsg) (seg nid : Byte) (seq : U32) :
    pktSrc (segmentPdu sar seg nid seq).1 = sar.src := by
  have field : ∀ index < 2, get (segmentPdu sar seg nid seq).1 (5 + index) =
      get (setPktSrc (setPktSeq (setPktTtl (setPktCtl (setPktIvi (setPktNid
        (List.replicate 29 0) nid) (sar.ivIndex &&& 1 ≠ 0)) sar.ctl) sar.ttl)
        seq) sar.src) (5 + index) := by
    intro index inField
    rw [get_segmentPdu_network (by omega)]
    simp only [segmentNetworkHeader, setPktOpcode, setPktAkfAid,
      setPktSegmented, setPktDst]
    split <;> rw [get_setBits_ne (by omega), get_setBits_ne (by omega),
      get_putBe16_ne (by omega)]
  rw [pktSrc, getBe16_congr (field 0 (by omega)) (field 1 (by omega)),
    setPktSrc, getBe16_putBe16 (by
      simp [setPktSeq, setPktTtl, setPktCtl, setPktIvi, setPktNid])]

theorem pktDst_segmentPdu (sar : MeshSarMsg) (seg nid : Byte) (seq : U32) :
    pktDst (segmentPdu sar seg nid seq).1 = sar.dst.setWidth 16 := by
  have field : ∀ index < 2, get (segmentPdu sar seg nid seq).1 (7 + index) =
      get (setPktDst (setPktSrc (setPktSeq (setPktTtl (setPktCtl (setPktIvi
        (setPktNid (List.replicate 29 0) nid) (sar.ivIndex &&& 1 ≠ 0))
        sar.ctl) sar.ttl) seq) sar.src) (sar.dst.setWidth 16))
        (7 + index) := by
    intro index inField
    rw [get_segmentPdu_network (by omega)]
    simp only [segmentNetworkHeader, setPktOpcode, setPktAkfAid,
      setPktSegmented]
    split <;> rw [get_setBits_ne (by omega), get_setBits_ne (by omega)]
  rw [pktDst, getBe16_congr (field 0 (by omega)) (field 1 (by omega)),
    setPktDst, getBe16_putBe16 (by
      simp [setPktSrc, setPktSeq, setPktTtl, setPktCtl, setPktIvi, setPktNid])]

/-! ## The segments of an access message -/

section Access

variable {sar : MeshSarMsg} {seg nid : Byte} {seq : U32}

/-- Every segment starts with the same octet. -/
theorem get_segmentPdu_first (access : sar.ctl = false)
    (segmented : sar.segmented = true) :
    get (segmentPdu sar seg nid seq).1 9 = 0x80 ||| sar.akfAid := by
  rw [get_segmentPdu_network (by omega), segmentNetworkHeader]
  simp only [access, segmented, Bool.false_eq_true, if_false]
  rw [setPktAkfAid, get_setBits_self (by simp [setPktSegmented, setPktDst,
      setPktSrc, setPktSeq, setPktTtl, setPktCtl, setPktIvi, setPktNid]),
    setPktSegmented, get_setBits_self (by simp [setPktDst, setPktSrc,
      setPktSeq, setPktTtl, setPktCtl, setPktIvi, setPktNid])]
  generalize get _ 9 = old
  have flag : ((old &&& 0x7f) ||| 0x80) &&& 0x80 = 0x80 := by
    ext index inRange
    interval_cases index <;> simp
  rw [if_pos rfl, flag]

theorem segmentPdu_header (access : sar.ctl = false)
    (segmented : sar.segmented = true) (smallO : seg.toNat ≤ 31)
    (smallN : sar.segN.toNat ≤ 31) :
    let trans := pktTrans (segmentPdu sar seg nid seq).1
    transSegO trans = seg ∧ transSegN trans = sar.segN ∧
      transSeq0 trans = (sar.seqAuth &&& 0x1fff).setWidth 16 ∧
      transSzmic trans = sar.szmic := by
  dsimp only
  generalize isFlagged :
    setPktSzmic (segmentNetworkHeader sar nid seq) sar.szmic = flagged
  have long : 13 ≤ flagged.length := by
    simp [← isFlagged, setPktSzmic]
  have flag : get flagged 10 &&& 0x80 = if sar.szmic then 0x80 else 0 := by
    rw [← isFlagged, setPktSzmic, get_setBits_self (by simp)]
    cases sar.szmic <;> (ext index inRange; interval_cases index <;> simp)
  rcases segmentHeader_fields long sar.seqAuth smallO smallN with
    ⟨segO, segN, seq0, szmic⟩
  have same : ∀ index < 4, get (pktTrans (segmentPdu sar seg nid seq).1) index =
      get (pktTrans (setPktSegN (setPktSegO (setPktSeq0 flagged sar.seqAuth)
        seg) sar.segN)) index := by
    intro index inHeader
    simp only [pktTrans, get_drop, segmentPdu, segmented, if_true]
    rw [get_splice_outside (by omega)]
    simp only [segmentTransportHeader, access, isFlagged, Bool.not_false,
      if_true]
  rcases trans_congr same with ⟨sameO, sameN, sameZero, sameFlag⟩
  refine ⟨sameO.trans segO, sameN.trans segN, sameZero.trans seq0, ?_⟩
  have isSegmented :
      transSegmented (pktTrans (segmentPdu sar seg nid seq).1) = true := by
    rw [transSegmented, pktTrans, get_drop,
      get_segmentPdu_first access segmented]
    have bit : (0x80 ||| sar.akfAid) &&& 0x80 = 0x80 := by
      ext index inRange
      interval_cases index <;> simp
    rw [bit]
    rfl
  rw [transSzmic, isSegmented, same 1 (by omega), szmic, flag]
  cases sar.szmic <;> rfl

/-- Segment `seg` carries the twelve bytes of the message from `12 * seg` on. -/
theorem get_segmentPdu_payload (access : sar.ctl = false)
    (segmented : sar.segmented = true) {index : Nat} (inside : index < 12) :
    get (pktTrans (segmentPdu sar seg nid seq).1) (4 + index) =
      get sar.data (seg.toNat * 12 + index) := by
  simp only [pktTrans, get_drop, segmentPdu, segmented, if_true]
  rw [get_splice_inside (by simp; omega) (by omega) (by simp; omega)]
  have shifted : 9 + (4 + index) - 13 = index := by omega
  rw [shifted, get_slice inside, ctlOffset, access]
  simp

end Access

end Meshctl.Net
