import Meshctl.Net.SegmentBounds

/-! # Which message a segment belongs to

A segment carries its own sequence number and the low 13 bits of the number that
its message began with. The high bits are taken from its own number.
-/

namespace Meshctl.Net

open Bytes

/-! ## The guess -/

theorem toNat_highBits (seqNum : U32) :
    (seqNum &&& ~~~(0x1fff : U32)).toNat = 2 ^ 13 * (seqNum.toNat / 2 ^ 13) := by
  have cleared : seqNum &&& ~~~(0x1fff : U32) = (seqNum >>> 13) <<< 13 := by
    ext index inRange
    interval_cases index <;> simp
  have bound := seqNum.isLt
  rw [cleared, BitVec.toNat_shiftLeft, BitVec.toNat_ushiftRight,
    Nat.shiftRight_eq_div_pow, Nat.shiftLeft_eq, Nat.mul_comm]
  exact Nat.mod_eq_of_lt (by omega)

theorem transSeq0_lt (trans : List Byte) : (transSeq0 trans).toNat < 2 ^ 13 := by
  have mask : (0x1fff : U16).toNat = 2 ^ 13 - 1 := rfl
  rw [transSeq0, BitVec.toNat_and, mask, Nat.and_two_pow_sub_one_eq_mod]
  exact Nat.mod_lt _ (by decide)

/-- The high bits of one number and the low bits of another. -/
theorem toNat_calcSeqAuth (seqNum : U32) (trans : List Byte) :
    (calcSeqAuth seqNum trans).toNat =
      8192 * (seqNum.toNat / 8192) + (transSeq0 trans).toNat := by
  have low := transSeq0_lt trans
  have widened : ((transSeq0 trans).setWidth 32).toNat =
      (transSeq0 trans).toNat := by
    rw [BitVec.toNat_setWidth]
    omega
  rw [calcSeqAuth, BitVec.toNat_or, toNat_highBits, widened,
    ← Nat.two_pow_add_eq_or_of_lt low]
  rfl

/-! ## Segments of one message -/

/-- A segment of the message that began with `seqAuth`, as it can be sent: it
has the low bits of that number, and a number of its own that is at most 8191
larger. -/
structure SegmentPdu.SegmentOf (pkt : SegmentPdu) (seqAuth : U32) : Prop where
  seqZero : (transSeq0 pkt.trans).toNat = seqAuth.toNat % 8192
  notEarlier : seqAuth ≤ pkt.seqNum
  inWindow : pkt.seqNum.toNat ≤ seqAuth.toNat + 8191

/-- The record that the message began: its source, IV index and size. -/
structure SegmentPdu.RecordOfMessage (pkt : SegmentPdu) (seqAuth : U32)
    (sar : MeshSarMsg) : Prop where
  src : sar.src = pkt.src
  ivIndex : sar.ivIndex = pkt.ivIndex
  seqAuth : sar.seqAuth = seqAuth
  segN : sar.segN = pkt.segN

/-- No multiple of 8192 lies between the two numbers. -/
def SameBlock (seqAuth seqNum : U32) : Prop :=
  seqNum.toNat / 8192 = seqAuth.toNat / 8192

instance (seqAuth seqNum : U32) : Decidable (SameBlock seqAuth seqNum) :=
  inferInstanceAs (Decidable (_ = _))

section Segments

variable {pkt : SegmentPdu} {seqAuth : U32}

/-- What `send_seg` cuts from a record carries the low bits of its number. -/
theorem seqZero_segmentPdu {sar : MeshSarMsg} {seg nid : Byte} {seq : U32}
    (access : sar.ctl = false) (segmented : sar.segmented = true)
    (smallO : seg.toNat ≤ 31) (smallN : sar.segN.toNat ≤ 31) :
    (transSeq0 (pktTrans (segmentPdu sar seg nid seq).1)).toNat =
      sar.seqAuth.toNat % 8192 := by
  have mask : (0x1fff : U32).toNat = 2 ^ 13 - 1 := rfl
  rcases @segmentPdu_header sar seg nid seq access segmented smallO smallN with
    ⟨_, _, seqZero, _⟩
  rw [seqZero, BitVec.toNat_setWidth, BitVec.toNat_and, mask,
    Nat.and_two_pow_sub_one_eq_mod]
  omega

theorem SegmentPdu.SegmentOf.seqAuth_eq_iff (segment : pkt.SegmentOf seqAuth) :
    pkt.seqAuth = seqAuth ↔ SameBlock seqAuth pkt.seqNum := by
  rw [← BitVec.toNat_inj, SegmentPdu.seqAuth, toNat_calcSeqAuth,
    segment.seqZero, SameBlock]
  omega

/-- A guess that misses is one block too high. -/
theorem SegmentPdu.SegmentOf.toNat_seqAuth (segment : pkt.SegmentOf seqAuth)
    (straddles : ¬SameBlock seqAuth pkt.seqNum) :
    pkt.seqAuth.toNat = seqAuth.toNat + 8192 := by
  have notEarlier := segment.notEarlier
  have inWindow := segment.inWindow
  rw [BitVec.le_def] at notEarlier
  rw [SameBlock] at straddles
  rw [SegmentPdu.seqAuth, toNat_calcSeqAuth, segment.seqZero]
  omega

theorem SegmentPdu.RecordOfMessage.continues_iff {sar : MeshSarMsg}
    (record : pkt.RecordOfMessage seqAuth sar) :
    pkt.Continues sar ↔ pkt.seqAuth = seqAuth := by
  constructor
  · intro continues
    rw [← continues.seqAuth, record.seqAuth]
  · intro same
    exact ⟨record.src, record.ivIndex, record.seqAuth.trans same.symm,
      record.segN⟩

/-- The number of the message is recovered, and the segment put with the others,
exactly when the block of 8192 numbers did not end since the message began.
Otherwise the segment is taken for one of a later message. -/
theorem segments_grouped_iff (segment : pkt.SegmentOf seqAuth) :
    (calcSeqAuth pkt.seqNum pkt.trans = seqAuth ↔
      SameBlock seqAuth pkt.seqNum) ∧
    (∀ sar, pkt.RecordOfMessage seqAuth sar →
      (pkt.Continues sar ↔ SameBlock seqAuth pkt.seqNum)) ∧
    (¬SameBlock seqAuth pkt.seqNum →
      (calcSeqAuth pkt.seqNum pkt.trans).toNat = seqAuth.toNat + 8192) := by
  refine ⟨segment.seqAuth_eq_iff, fun sar record => ?_, segment.toNat_seqAuth⟩
  exact record.continues_iff.trans segment.seqAuth_eq_iff

end Segments

/-! ### A message that begins with the last number of a block -/

/-- The second segment of a message that began with number 8191. -/
def straddlingSegment : SegmentPdu where
  netIdx := 0
  ivIndex := 0
  ctl := false
  ttl := 4
  seqNum := 8192
  src := 2
  dst := 1
  trans := [0x80, 0x7f, 0xfc, 0x21, 1, 2, 3, 4, 5, 6, 7, 8, 9, 10, 11, 12]
  len := 16

theorem straddlingSegment_of : straddlingSegment.SegmentOf 8191 :=
  ⟨by decide +kernel, by decide, by decide⟩

theorem segments_not_always_grouped :
    ¬∀ (pkt : SegmentPdu) (seqAuth : U32), seqAuth.toNat < 2 ^ 24 →
      pkt.SegmentOf seqAuth → calcSeqAuth pkt.seqNum pkt.trans = seqAuth := by
  intro always
  have recovered := always straddlingSegment 8191 (by decide)
    straddlingSegment_of
  revert recovered
  decide +kernel

theorem segments_grouped_iff_straddling :
    (calcSeqAuth 8192 straddlingSegment.trans = 8191 ↔ SameBlock 8191 8192) ∧
    (∀ sar, straddlingSegment.RecordOfMessage 8191 sar →
      (straddlingSegment.Continues sar ↔ SameBlock 8191 8192)) ∧
    (¬SameBlock 8191 8192 →
      (calcSeqAuth 8192 straddlingSegment.trans).toNat =
        (8191 : U32).toNat + 8192) :=
  segments_grouped_iff straddlingSegment_of

end Meshctl.Net
