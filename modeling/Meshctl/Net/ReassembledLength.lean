import Meshctl.Net.BeaconSafety
import Meshctl.Net.DecodedPacket

/-! # The lengths of reassembled messages

Only a message of one segment can be shorter than its headers. The length of a
longer one counts the segments before the last.
-/

namespace Meshctl.Net

open Bytes

/-! ## Records -/

/-- What is known of a record and of how its length was computed: it has a
segment, its first octet is no segment's, and when its last segment has come the
length has room for any header. -/
structure RecordFits (taken : List Subtraction) (sar : MeshSarMsg) : Prop where
  started : sar.ack ≠ 0
  first : transSegmented sar.data = false
  whole : sar.segN ≠ 0 → sar.ack.getLsbD sar.segN.toNat = true →
    AllFit taken ∧ 10 ≤ sar.len.toNat

def RecordsFit (rx : RxState) : Prop :=
  ∀ src sar, rx.net.sarIn.find src = some sar → RecordFits (rx.lenTaken src) sar

theorem recordsFit_start (st : NetState) : RecordsFit (.start st) := by
  intro src sar found
  have member := KeyedList.mem_of_find found
  cases member

section Record

variable {pkt : SegmentPdu} {st : NetState} {sar : MeshSarMsg}
  {taken : List Subtraction}

theorem transSegmented_congr {left right : List Byte}
    (same : get left 0 = get right 0) :
    transSegmented left = transSegmented right := by
  rw [transSegmented, transSegmented, same]

theorem same_of_frozen {first second : MeshSarMsg}
    (same : first.frozen = second.frozen) :
    first.ack = second.ack ∧ first.segN = second.segN ∧
      first.len = second.len ∧ first.data = second.data :=
  ⟨(congrArg MeshSarMsg.ack same : first.frozen.ack = second.frozen.ack),
    (congrArg MeshSarMsg.segN same : first.frozen.segN = second.frozen.segN),
    (congrArg MeshSarMsg.len same : first.frozen.len = second.frozen.len),
    (congrArg MeshSarMsg.data same : first.frozen.data = second.frozen.data)⟩

/-- Activity and decryption make no difference. -/
theorem RecordFits.of_frozen {last : MeshSarMsg} (fits : RecordFits taken sar)
    {payload : Option (List Byte)}
    (same : last.frozen = (decryptInPlace payload sar).frozen) :
    RecordFits taken last := by
  rcases same_of_frozen same with ⟨ack, segN, len, data⟩
  cases payload with
  | none =>
      constructor
      · exact ack ▸ fits.started
      · exact data ▸ fits.first
      · rw [ack, segN, len]
        exact fits.whole
  | some payload =>
      constructor
      · exact ack ▸ fits.started
      · rw [data, ← fits.first]
        apply transSegmented_congr
        exact get_splice_outside (by omega)
      · rw [ack, segN, len]
        exact fits.whole

theorem segO_lt (pkt : SegmentPdu) : pkt.segO.toNat < 32 := by
  have mask : (0x1f : U16).toNat = 31 := rfl
  have small := @Nat.and_le_right (getBe16 pkt.trans 2 >>> 5).toNat 31
  rw [SegmentPdu.segO, transSegO, BitVec.toNat_setWidth, BitVec.toNat_and, mask]
  omega

theorem segN_lt (pkt : SegmentPdu) : pkt.segN.toNat < 32 := by
  have mask : (0x1f : Byte).toNat = 31 := rfl
  have small := @Nat.and_le_right (get pkt.trans 3).toNat 31
  rw [SegmentPdu.segN, transSegN, BitVec.toNat_and, mask]
  omega

/-- The mask of a stored segment. -/
theorem getLsbD_storeSegment (sar : MeshSarMsg) {index : Nat}
    (inMask : index < 32) :
    (storeSegment pkt sar).ack.getLsbD index =
      (sar.ack.getLsbD index || decide (index = pkt.segO.toNat)) := by
  rw [storeSegment_ack, BitVec.getLsbD_or,
    getLsbD_one_shiftLeft pkt.segO.toNat inMask]

theorem storeSegment_ack_ne (sar : MeshSarMsg) :
    (storeSegment pkt sar).ack ≠ 0 := by
  intro zero
  have isSet := @getLsbD_storeSegment pkt sar pkt.segO.toNat (segO_lt pkt)
  rw [zero] at isSet
  simp at isSet

/-- The length that the last segment gives. -/
theorem toNat_wholeLen (room : 3 ≤ pkt.segN.toNat * 12 + pkt.len.toNat)
    (short : pkt.len.toNat < 256) :
    (BitVec.ofNat 16 (pkt.segN.toNat * 12) + pkt.len - 3 : U16).toNat =
      pkt.segN.toNat * 12 + pkt.len.toNat - 3 := by
  have small := segN_lt pkt
  have sum : (BitVec.ofNat 16 (pkt.segN.toNat * 12) + pkt.len : U16).toNat =
      pkt.segN.toNat * 12 + pkt.len.toNat := by
    rw [BitVec.toNat_add, BitVec.toNat_ofNat]
    omega
  have three : (3 : U16) = BitVec.ofNat 16 3 := rfl
  rw [← sum, three]
  exact toNat_sub_size (by omega)

/-- The first octet is stored without the segmentation flag, and kept. -/
theorem transSegmented_newSar (pkt : SegmentPdu) :
    transSegmented (newSar pkt).data = false := by
  have first : get (newSar pkt).data 0 = get pkt.trans 0 &&& 0x7f :=
    get_splice_inside
      (Nat.lt_of_lt_of_eq (by omega) (MeshSarMsg.zero pkt.segN).sized.symm)
      (Nat.le_refl _) (by simp)
  rw [transSegmented, first]
  generalize get pkt.trans 0 = octet
  revert octet
  decide

theorem transSegmented_storeSegment (sar : MeshSarMsg) :
    transSegmented (storeSegment pkt sar).data = transSegmented sar.data := by
  apply transSegmented_congr
  rw [storeSegment_eq]
  exact get_splice_outside (by omega)

/-- A segment that is stored leaves a record behind that fits. -/
theorem recordFits_store {lenTaken : U16 → List Subtraction}
    (record : pkt.RecordOf st sar)
    (fits : ∀ old, st.sarIn.find pkt.src = some old →
      RecordFits (lenTaken pkt.src) old)
    (nonempty : 1 ≤ pkt.len.toNat) (short : pkt.len.toNat < 256) :
    RecordFits (noteLength pkt lenTaken pkt.src) (storeSegment pkt sar) := by
  have segN := record.continues.segN
  have small := segN_lt pkt
  constructor
  · exact storeSegment_ack_ne sar
  · rw [transSegmented_storeSegment]
    rcases record with ⟨found, _⟩ | ⟨_, isNew⟩
    · exact (fits sar found).first
    · exact isNew ▸ transSegmented_newSar pkt
  · rw [storeSegment_segN, segN, getLsbD_storeSegment sar (by omega)]
    intro several isSet
    have many : 1 ≤ pkt.segN.toNat := by
      by_contra none
      exact several (BitVec.eq_of_toNat_eq (by
        have zero : (0 : Byte).toNat = 0 := rfl
        omega))
    rw [noteLength, storeSegment_eq]
    dsimp only
    by_cases last : pkt.segN = pkt.segO
    · rw [if_pos last, if_pos last, if_pos rfl,
        toNat_wholeLen (by omega) short]
      constructor
      · rw [allFit_cons, SegmentPdu.wholeLen]
        dsimp only
        exact ⟨by omega, allFit_nil⟩
      · omega
    · rw [if_neg last, if_neg last]
      have inOld : sar.ack.getLsbD pkt.segN.toNat = true := by
        have apart : pkt.segN.toNat ≠ pkt.segO.toNat :=
          fun equal => last (BitVec.eq_of_toNat_eq equal)
        simpa [apart] using isSet
      rcases record with ⟨found, _⟩ | ⟨_, isNew⟩
      · apply (fits sar found).whole
        · rw [segN]
          exact several
        · rw [segN]
          exact inOld
      · rw [isNew] at inOld
        simp [newSar, MeshSarMsg.copyData, MeshSarMsg.zero] at inOld

/-! ## Complete messages -/

/-- A message of one segment that replaces every record of its source. -/
structure SegmentPdu.OneSegment (pkt : SegmentPdu) (st : NetState) : Prop where
  segN : pkt.segN = 0
  segO : pkt.segO = 0
  fresh : ¬pkt.Stale st
  new : ∀ old, st.sarIn.find pkt.src = some old → ¬pkt.Continues old

theorem fullAck_zero : fullAck 0 = 1 := by decide

/-- A message of one segment is complete at once. -/
theorem SegmentPdu.OneSegment.completes (one : pkt.OneSegment st) :
    completes pkt (newSar pkt) = true := by
  have stored : (storeSegment pkt (newSar pkt)).ack = 1 := by
    rw [storeSegment_ack, one.segO]
    simp [newSar, MeshSarMsg.copyData, MeshSarMsg.zero]
  rw [Net.completes, one.segN, fullAck_zero, stored]
  simp [newSar, MeshSarMsg.copyData, MeshSarMsg.zero]

/-- A segment completes a message of several segments, the last of which is
there, or else it is the only one. -/
theorem completes_cases (fresh : ¬pkt.Stale st) (record : pkt.RecordOf st sar)
    (fits : ∀ old, st.sarIn.find pkt.src = some old → RecordFits taken old)
    (complete : completes pkt sar = true) :
    (pkt.segN ≠ 0 ∧
      (storeSegment pkt sar).ack.getLsbD pkt.segN.toNat = true) ∨
    pkt.OneSegment st ∧ sar = newSar pkt := by
  rw [completes, Bool.and_eq_true, decide_eq_true_eq, decide_eq_true_eq]
    at complete
  rcases complete with ⟨full, missing⟩
  have small := segN_lt pkt
  by_cases several : pkt.segN = 0
  · right
    rw [several, fullAck_zero] at full missing
    have bits : ∀ index < 32, (sar.ack.getLsbD index ||
        decide (index = pkt.segO.toNat)) = decide (index = 0) := by
      intro index inMask
      rw [← @getLsbD_storeSegment pkt sar index inMask, full]
      have one : (1 : U32) = 1#32 := rfl
      rw [one, BitVec.getLsbD_one]
      simp
    have segO : pkt.segO = 0 := by
      have isSet := bits pkt.segO.toNat (segO_lt pkt)
      simp only [decide_true, Bool.or_true] at isSet
      exact BitVec.eq_of_toNat_eq (of_decide_eq_true isSet.symm)
    have empty : sar.ack = 0 := by
      apply BitVec.eq_of_getLsbD_eq
      intro index inMask
      by_cases isFirst : index = 0
      · subst isFirst
        by_contra isSet
        apply missing
        apply BitVec.eq_of_getLsbD_eq
        intro other inMask
        by_cases isFirst : other = 0
        · subst isFirst
          simpa using isSet
        · have clear := bits other inMask
          simp only [isFirst, decide_false, Bool.or_eq_false_iff] at clear
          rw [clear.1]
          have one : (1 : U32) = 1#32 := rfl
          rw [one, BitVec.getLsbD_one]
          simp [isFirst]
      · have clear := bits index inMask
        simp only [isFirst, decide_false, Bool.or_eq_false_iff] at clear
        simpa using clear.1
    rcases record with ⟨found, _⟩ | ⟨new, isNew⟩
    · exact absurd empty (fits sar found).started
    · exact ⟨⟨several, segO, fresh, new⟩, isNew⟩
  · left
    refine ⟨several, ?_⟩
    rw [full, getLsbD_fullAck (by omega), decide_eq_true (Nat.le_refl _)]

end Record

end Meshctl.Net
