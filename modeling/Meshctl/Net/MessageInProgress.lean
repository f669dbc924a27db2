import Meshctl.Net.Reassembly

/-! # A message that is being received

What the receiver keeps of a message while its segments arrive, and what one
arrival adds to it.
-/

namespace Meshctl.Net

open Bytes Execution

/-! ## The segments of a message -/

/-- The record of an access PDU of 16 to 384 bytes, as it is made for sending. -/
structure SegmentedAccess (sar : MeshSarMsg) : Prop where
  access : sar.ctl = false
  segmented : sar.segmented = true
  long : 16 ≤ sar.len.toNat
  short : sar.len.toNat ≤ 384
  segN : sar.segN.toNat = segMax sar.len.toNat

/-- The sender makes such records of payloads of 12 to 380 bytes. -/
theorem accessRecord_segmented (env : NetEnv) (st : NetState) (ttl : Byte)
    (src : U16) (dst : U32) (aad : Option Key) (keys : EncKeys)
    (buf : List Byte) {len : U16} (long : 12 ≤ len.toNat)
    (short : len.toNat ≤ 380) :
    SegmentedAccess (accessRecord env st ttl src dst aad keys buf len) := by
  have total : (len + 4).toNat = len.toNat + 4 := by
    rw [BitVec.toNat_add]
    exact Nat.mod_eq_of_lt (by simp; omega)
  have segN : (BitVec.ofNat 8 (segMax (len.toNat + 4)) : Byte).toNat =
      segMax (len.toNat + 4) := by
    rw [BitVec.toNat_ofNat, segMax, maxUnsegLen, maxSegLen]
    split <;> omega
  refine ⟨rfl, ?_, ?_, ?_, ?_⟩
  · change decide (BitVec.ofNat 8 (segMax (len.toNat + 4)) ≠ 0) = true
    rw [decide_eq_true_eq]
    intro zero
    rw [zero, segMax, maxUnsegLen, maxSegLen, if_neg (by omega)] at segN
    simp at segN
    omega
  · change 16 ≤ (len + 4).toNat
    omega
  · change (len + 4).toNat ≤ 384
    omega
  · change (BitVec.ofNat 8 (segMax (len.toNat + 4)) : Byte).toNat =
      segMax (len + 4).toNat
    rw [segN, total]

/-- The arguments of `seg_rxed`, read from a decrypted network PDU whose MIC was
cut off. -/
def receivedSegment (netIdx : U16) (ivIndex : U32) (msg : List Byte)
    (len : Byte) : SegmentPdu where
  netIdx := netIdx
  ivIndex := ivIndex
  ctl := pktCtl msg
  ttl := pktTtl msg
  seqNum := pktSeq msg
  src := pktSrc msg
  dst := pktDst msg
  trans := pktTrans msg
  len := len.setWidth 16 - 9

/-- The arguments agree, up to what follows the PDU in its buffer. -/
structure SegmentPdu.ReadFrom (pkt wire : SegmentPdu) : Prop where
  seqNum : pkt.seqNum = wire.seqNum
  src : pkt.src = wire.src
  dst : pkt.dst = wire.dst
  len : pkt.len = wire.len
  trans : ∀ index < wire.len.toNat, get pkt.trans index = get wire.trans index

/-- An arrival of segment `seg` of the message. Each transmission has its own
sequence number; only the IV index it was encrypted with decrypts it. -/
structure IsSegment (sar : MeshSarMsg) (seg : Byte) (pkt : SegmentPdu) :
    Prop where
  inMessage : seg.toNat ≤ sar.segN.toNat
  access : pkt.ctl = false
  ivIndex : pkt.ivIndex = sar.ivIndex
  wire : ∃ netIdx nid seq, pkt.ReadFrom (receivedSegment netIdx sar.ivIndex
    (segmentPdu sar seg nid seq).1 (segmentPdu sar seg nid seq).2)

/-- How much of the message a segment carries. -/
def segmentSize (sar : MeshSarMsg) (seg : Nat) : Nat :=
  if seg = sar.segN.toNat then sar.len.toNat - 12 * sar.segN.toNat else 12

theorem SegmentedAccess.lastSize {sar : MeshSarMsg}
    (message : SegmentedAccess sar) :
    1 ≤ sar.segN.toNat ∧ sar.segN.toNat ≤ 31 ∧
      12 * sar.segN.toNat < sar.len.toNat ∧
      sar.len.toNat ≤ 12 * sar.segN.toNat + 12 := by
  have long := message.long
  have short := message.short
  have segN := message.segN
  rw [segMax, maxUnsegLen, maxSegLen, if_neg (by omega)] at segN
  omega

theorem SegmentedAccess.segmentSize_pos {sar : MeshSarMsg}
    (message : SegmentedAccess sar) (seg : Nat) :
    1 ≤ segmentSize sar seg ∧ segmentSize sar seg ≤ 12 := by
  have sizes := message.lastSize
  rw [segmentSize]
  split <;> omega

/-- The length of a segment with its transport header. -/
theorem receivedSegment_len {sar : MeshSarMsg} (message : SegmentedAccess sar)
    (seg nid : Byte) (seq : U32) (netIdx : U16) (ivIndex : U32) :
    (receivedSegment netIdx ivIndex (segmentPdu sar seg nid seq).1
      (segmentPdu sar seg nid seq).2).len.toNat =
      4 + segmentSize sar seg.toNat := by
  have sizes := message.lastSize
  have same : sar.segN = seg ↔ seg.toNat = sar.segN.toNat :=
    ⟨fun equal => equal ▸ rfl, fun equal => BitVec.eq_of_toNat_eq equal.symm⟩
  simp only [receivedSegment, segmentPdu, message.segmented, if_true, ctlOffset,
    message.access, Bool.false_eq_true, if_false, same, segmentSize, Nat.sub_zero]
  by_cases last : seg.toNat = sar.segN.toNat
  · simp only [if_pos last]
    by_cases whole : sar.len.toNat % 12 = 0
    · rw [whole]
      simp
      omega
    · rw [if_neg (by omega)]
      simp only [BitVec.toNat_sub, BitVec.toNat_setWidth,
        BitVec.ofNat_eq_ofNat, BitVec.toNat_ofNat]
      omega
  · simp [if_neg last]

/-- What `seg_rxed` reads from a segment. -/
structure SegmentFacts (sar : MeshSarMsg) (seg : Byte) (pkt : SegmentPdu) :
    Prop where
  src : pkt.src = sar.src
  dst : pkt.dst = sar.dst.setWidth 16
  segO : pkt.segO = seg
  segN : pkt.segN = sar.segN
  seq0 : transSeq0 pkt.trans = (sar.seqAuth &&& 0x1fff).setWidth 16
  szmic : transSzmic pkt.trans = sar.szmic
  octet : get pkt.trans 0 = 0x80 ||| sar.akfAid
  payload : ∀ index < segmentSize sar seg.toNat,
    get pkt.trans (4 + index) = get sar.data (12 * seg.toNat + index)
  len : pkt.len.toNat = 4 + segmentSize sar seg.toNat

theorem SegmentPdu.ReadFrom.facts {sar : MeshSarMsg} {seg nid : Byte}
    {seq ivIndex : U32} {netIdx : U16} {pkt : SegmentPdu}
    (wire : pkt.ReadFrom (receivedSegment netIdx ivIndex
      (segmentPdu sar seg nid seq).1 (segmentPdu sar seg nid seq).2))
    (message : SegmentedAccess sar)
    (inMessage : seg.toNat ≤ sar.segN.toNat) : SegmentFacts sar seg pkt := by
  rcases message.lastSize with ⟨_, smallN, _⟩
  have size := message.segmentSize_pos seg.toNat
  have len := receivedSegment_len message seg nid seq netIdx ivIndex
  have sameTrans : ∀ index < 4 + segmentSize sar seg.toNat,
      get pkt.trans index =
        get (pktTrans (segmentPdu sar seg nid seq).1) index := by
    intro index inside
    exact wire.trans index (len ▸ inside)
  have header := trans_congr (fun index inHeader =>
    sameTrans index (by omega) : ∀ index < 4, get pkt.trans index = _)
  rcases segmentPdu_header message.access
    message.segmented (Nat.le_trans inMessage smallN) smallN with
    ⟨segO, segN, seq0, szmic⟩
  refine ⟨?_, ?_, header.1.trans segO, header.2.1.trans segN,
    header.2.2.1.trans seq0, header.2.2.2.trans szmic, ?_, ?_, ?_⟩
  · exact wire.src.trans (pktSrc_segmentPdu sar seg nid seq)
  · exact wire.dst.trans (pktDst_segmentPdu sar seg nid seq)
  · rw [sameTrans 0 (by omega), pktTrans, get_drop]
    exact get_segmentPdu_first message.access message.segmented
  · intro index inside
    rw [sameTrans _ (by omega), get_segmentPdu_payload message.access
      message.segmented (by omega), Nat.mul_comm]
  · rw [wire.len, len]

theorem IsSegment.facts {sar : MeshSarMsg} {seg : Byte} {pkt : SegmentPdu}
    (isSegment : IsSegment sar seg pkt) (message : SegmentedAccess sar) :
    SegmentFacts sar seg pkt := by
  rcases isSegment.wire with ⟨netIdx, nid, seq, wire⟩
  exact wire.facts message isSegment.inMessage

/-! ## A message in progress -/

section Progress

variable (sar : MeshSarMsg) (seqAuth : U32) (arrived : Set Nat)

def AllArrived : Prop := ∀ seg ≤ sar.segN.toNat, seg ∈ arrived

/-- The bytes of the record that are known. -/
structure HoldsData (record : MeshSarMsg) : Prop where
  octet : get record.data 0 = sar.akfAid &&& 0x7f
  payload : ∀ seg ∈ arrived, ∀ index < segmentSize sar seg,
    get record.data (1 + 12 * seg + index) = get sar.data (12 * seg + index)

/-- What the receiver keeps of the message when the segments `arrived` have
arrived. A complete message may be decrypted in place. -/
structure InProgress (record : MeshSarMsg) : Prop where
  src : record.src = sar.src
  dst : record.dst = (sar.dst.setWidth 16).setWidth 32
  ivIndex : record.ivIndex = sar.ivIndex
  seqAuth : record.seqAuth = seqAuth
  segN : record.segN = sar.segN
  szmic : record.szmic = sar.szmic
  inMessage : ∀ seg ∈ arrived, seg ≤ sar.segN.toNat
  ack : ∀ seg < 32, record.ack.getLsbD seg = true ↔ seg ∈ arrived
  len : sar.segN.toNat ∈ arrived → record.len.toNat = sar.len.toNat + 1
  data : ¬AllArrived sar arrived → HoldsData sar arrived record

variable {sar seqAuth arrived} {pkt : SegmentPdu} {seg : Byte}
  {record : MeshSarMsg}

/-- The mask is full exactly when all segments have arrived. -/
theorem InProgress.ack_eq_fullAck_iff
    (progress : InProgress sar seqAuth arrived record)
    (message : SegmentedAccess sar) :
    record.ack = fullAck sar.segN ↔ AllArrived sar arrived := by
  rcases message.lastSize with ⟨_, small, _⟩
  constructor
  · intro full seg inMessage
    rw [← progress.ack seg (by omega), full, getLsbD_fullAck small]
    exact decide_eq_true inMessage
  · intro all
    apply BitVec.eq_of_getLsbD_eq
    intro seg inMask
    rw [getLsbD_fullAck small, Bool.eq_iff_iff, progress.ack seg inMask,
      decide_eq_true_eq]
    exact ⟨progress.inMessage seg, all seg⟩

/-- A new record is in progress with nothing arrived. -/
theorem newSar_inProgress (facts : SegmentFacts sar seg pkt)
    (isSegment : IsSegment sar seg pkt) :
    InProgress sar pkt.seqAuth ∅ (newSar pkt) where
  src := facts.src
  dst := congrArg (BitVec.setWidth 32) facts.dst
  ivIndex := isSegment.ivIndex
  seqAuth := rfl
  segN := facts.segN
  szmic := facts.szmic
  inMessage := fun _ absurd => absurd.elim
  ack := by
    intro index inMask
    simp [newSar, MeshSarMsg.copyData, MeshSarMsg.zero]
  len := fun absurd => absurd.elim
  data := by
    intro _
    refine ⟨?_, fun _ absurd => absurd.elim⟩
    have first : get (newSar pkt).data 0 = get pkt.trans 0 &&& 0x7f := by
      rw [newSar, MeshSarMsg.copyData]
      dsimp only
      rw [get_splice_inside (by simp [MeshSarMsg.zero]) (by omega) (by simp)]
      rfl
    rw [first, facts.octet]
    ext index inRange
    interval_cases index <;> simp

/-- The bytes of the segment and of those before it are in their places. -/
theorem HoldsData.store (holds : HoldsData sar arrived record)
    (sameN : record.segN = sar.segN) (facts : SegmentFacts sar seg pkt)
    (message : SegmentedAccess sar)
    (inMessage : ∀ other ∈ insert seg.toNat arrived,
      other ≤ sar.segN.toNat) :
    HoldsData sar (insert seg.toNat arrived) (storeSegment pkt record) := by
  have data : (storeSegment pkt record).data =
      splice record.data (1 + 12 * seg.toNat) (slice pkt.trans 4 12) := by
    rw [storeSegment_eq, facts.segO]
    rfl
  have sized : record.data.length = 20 + 12 * sar.segN.toNat := by
    rw [record.sized, sameN]
  refine ⟨?_, ?_⟩
  · rw [data, get_splice_outside (by omega)]
    exact holds.octet
  · intro other member index inside
    have otherIn := inMessage other member
    have size := message.segmentSize_pos other
    rw [data]
    by_cases isNew : other = seg.toNat
    · subst isNew
      rw [get_splice_inside (by omega) (by omega) (by simp; omega)]
      have shifted : 1 + 12 * seg.toNat + index - (1 + 12 * seg.toNat) =
          index := by omega
      rw [shifted, get_slice (by omega)]
      exact facts.payload index inside
    · rw [get_splice_outside (by simp; omega)]
      have before := (Set.mem_insert_iff.mp member).resolve_left isNew
      exact holds.payload other before index inside

/-- Storing a segment adds it to those that have arrived. -/
theorem InProgress.store (progress : InProgress sar seqAuth arrived record)
    (facts : SegmentFacts sar seg pkt) (message : SegmentedAccess sar)
    (inMessage : seg.toNat ≤ sar.segN.toNat) :
    InProgress sar seqAuth (insert seg.toNat arrived)
      (storeSegment pkt record) := by
  rcases message.lastSize with ⟨_, small, lower, upper⟩
  have allIn : ∀ other ∈ insert seg.toNat arrived,
      other ≤ sar.segN.toNat := by
    intro other member
    rcases Set.mem_insert_iff.mp member with equal | before
    · exact equal ▸ inMessage
    · exact progress.inMessage other before
  have data : ¬AllArrived sar (insert seg.toNat arrived) →
      HoldsData sar (insert seg.toNat arrived) (storeSegment pkt record) := by
    intro notAll
    refine (progress.data fun all => notAll fun other inRange => ?_).store
      progress.segN facts message allIn
    exact Set.mem_insert_of_mem _ (all other inRange)
  rw [storeSegment_eq] at data ⊢
  refine ⟨progress.src, progress.dst, progress.ivIndex, progress.seqAuth,
    progress.segN, progress.szmic, allIn, ?_, ?_, data⟩
  · intro other inMask
    rw [BitVec.getLsbD_or, getLsbD_one_shiftLeft _ inMask, Bool.or_eq_true,
      progress.ack other inMask, decide_eq_true_eq, facts.segO,
      Set.mem_insert_iff, Or.comm]
  · intro lastIn
    dsimp only
    rw [facts.segN, facts.segO]
    by_cases last : sar.segN = seg
    · have len := facts.len
      rw [segmentSize, if_pos (congrArg BitVec.toNat last).symm] at len
      rw [if_pos last]
      simp only [BitVec.toNat_sub, BitVec.toNat_add, BitVec.ofNat_eq_ofNat,
        BitVec.toNat_ofNat, len]
      omega
    · rw [if_neg last]
      apply progress.len
      refine (Set.mem_insert_iff.mp lastIn).resolve_left fun equal => ?_
      exact last (BitVec.eq_of_toNat_eq equal)

/-- Between arrivals only the activity count changes. -/
theorem InProgress.of_frozen (progress : InProgress sar seqAuth arrived record)
    {other : MeshSarMsg} (same : other.frozen = record.frozen) :
    InProgress sar seqAuth arrived other := by
  have frozen : InProgress sar seqAuth arrived record.frozen :=
    ⟨progress.src, progress.dst, progress.ivIndex, progress.seqAuth,
      progress.segN, progress.szmic, progress.inMessage, progress.ack,
      progress.len, fun notAll => ⟨(progress.data notAll).octet,
        (progress.data notAll).payload⟩⟩
  rw [← same] at frozen
  exact ⟨frozen.src, frozen.dst, frozen.ivIndex, frozen.seqAuth, frozen.segN,
    frozen.szmic, frozen.inMessage, frozen.ack, frozen.len,
    fun notAll => ⟨(frozen.data notAll).octet, (frozen.data notAll).payload⟩⟩

/-- Decryption touches the data of a complete message only. -/
theorem InProgress.decrypted (progress : InProgress sar seqAuth arrived record)
    (all : AllArrived sar arrived) (payload : Option (List Byte)) :
    InProgress sar seqAuth arrived (decryptInPlace payload record) := by
  cases payload with
  | none => exact progress
  | some payload =>
      exact ⟨progress.src, progress.dst, progress.ivIndex, progress.seqAuth,
        progress.segN, progress.szmic, progress.inMessage, progress.ack,
        progress.len, fun notAll => absurd all notAll⟩

end Progress

/-! ## One arrival -/

/-- The message that was cut into segments, as it is handed up. -/
structure Reassembled (sar : MeshSarMsg) (seqAuth : U32)
    (message : HandedMessage) : Prop where
  ctl : message.ctl = false
  ivIndex : message.ivIndex = sar.ivIndex
  seqAuth : message.seqAuth = seqAuth
  src : message.src = sar.src
  dst : message.dst = sar.dst.setWidth 16
  szmic : message.szmic = sar.szmic
  octet : ∀ seg nid seq, get message.data 0 =
    get (pktTrans (segmentPdu sar seg nid seq).1) 0 &&& 0x7f
  pdu : slice message.data 1 sar.len.toNat = sar.data.take sar.len.toNat
  len : message.len.toNat = sar.len.toNat + 1

section Step

variable {sar : MeshSarMsg} {seqAuth : U32} {arrived : Set Nat}
  {pkt : SegmentPdu} {seg : Byte} {record : MeshSarMsg}

/-- All pieces together are the PDU. -/
theorem HoldsData.pdu (holds : HoldsData sar arrived record)
    (message : SegmentedAccess sar) (all : AllArrived sar arrived) :
    slice record.data 1 sar.len.toNat = sar.data.take sar.len.toNat := by
  rcases message.lastSize with ⟨_, small, lower, upper⟩
  have sized := sar.sized
  apply ext_get
  · simp
    omega
  · intro index inside
    rw [length_slice] at inside
    have inMessage : index / 12 ≤ sar.segN.toNat := by omega
    have inSegment : index % 12 < segmentSize sar (index / 12) := by
      rw [segmentSize]
      split <;> omega
    rw [get_slice inside, get_take inside]
    have split : 1 + index = 1 + 12 * (index / 12) + index % 12 := by omega
    have whole : 12 * (index / 12) + index % 12 = index := by omega
    rw [split, holds.payload _ (all _ inMessage) _ inSegment, whole]

theorem InProgress.reassembled
    (progress : InProgress sar seqAuth arrived record)
    (facts : SegmentFacts sar seg pkt) (message : SegmentedAccess sar)
    (isSegment : IsSegment sar seg pkt) (incomplete : ¬AllArrived sar arrived)
    (all : AllArrived sar (insert seg.toNat arrived)) :
    Reassembled sar seqAuth (handedMessage pkt (storeSegment pkt record)) := by
  have stored := progress.store facts message isSegment.inMessage
  have holds := (progress.data incomplete).store progress.segN facts message
    stored.inMessage
  refine ⟨isSegment.access, stored.ivIndex, stored.seqAuth, stored.src, ?_,
    stored.szmic, ?_, holds.pdu message all, stored.len (all _ (Nat.le_refl _))⟩
  · change (storeSegment pkt record).dst.setWidth 16 = sar.dst.setWidth 16
    rw [stored.dst]
    exact BitVec.setWidth_setWidth_of_le _ (by omega)
  · intro other nid seq
    rw [pktTrans, get_drop, get_segmentPdu_first message.access
      message.segmented]
    apply holds.octet.trans
    ext index inRange
    interval_cases index <;> simp

/-- The inbox slot of the sender when the segments `arrived` have arrived. -/
def Receiving (sar : MeshSarMsg) (seqAuth : U32) (arrived : Set Nat) :
    Option MeshSarMsg → Prop
  | none => arrived = ∅
  | some record => InProgress sar seqAuth arrived record

/-- A segment of the message is not stale, and its record is that of the
message. -/
theorem receiving_record {st : NetState}
    (receiving : Receiving sar seqAuth arrived (st.sarIn.find sar.src))
    (isSegment : IsSegment sar seg pkt) (facts : SegmentFacts sar seg pkt)
    (same : pkt.seqAuth = seqAuth) :
    ¬pkt.Stale st ∧ ∀ record, pkt.RecordOf st record →
      InProgress sar seqAuth arrived record := by
  have isSrc := facts.src
  cases slot : st.sarIn.find sar.src with
  | none =>
      rw [slot] at receiving
      rw [← isSrc] at slot
      refine ⟨?_, ?_⟩
      · intro ⟨old, found, _⟩
        rw [slot] at found
        cases found
      · intro record isRecord
        rcases isRecord with ⟨found, _⟩ | ⟨_, new⟩
        · rw [slot] at found
          cases found
        · rw [new, ← same, show arrived = ∅ from receiving]
          exact newSar_inProgress facts isSegment
  | some old =>
      rw [slot] at receiving
      rw [← isSrc] at slot
      have progress : InProgress sar seqAuth arrived old := receiving
      have continues : pkt.Continues old :=
        ⟨progress.src.trans isSrc.symm,
          progress.ivIndex.trans isSegment.ivIndex.symm,
          progress.seqAuth.trans same.symm,
          progress.segN.trans facts.segN.symm⟩
      refine ⟨?_, ?_⟩
      · intro ⟨other, found, newer⟩
        rw [slot, Option.some_inj] at found
        rw [← found, continues.ivIndex, continues.seqAuth] at newer
        exact BitVec.lt_irrefl _ newer
      · intro record isRecord
        rcases isRecord with ⟨found, _⟩ | ⟨none, _⟩
        · rw [slot, Option.some_inj] at found
          exact found ▸ progress
        · exact absurd continues (none old slot)

variable {env : NetEnv} {receiver : MsgReceiver} {st : NetState}

/-- The arrival of a segment of the message hands the message up exactly when
it is the last one missing. -/
theorem segRxed_own
    (receiving : Receiving sar seqAuth arrived (st.sarIn.find sar.src))
    (message : SegmentedAccess sar) (isSegment : IsSegment sar seg pkt)
    (same : pkt.seqAuth = seqAuth) :
    Receiving sar seqAuth (insert seg.toNat arrived)
        ((segRxed env receiver pkt st).nextState.sarIn.find sar.src) ∧
      (¬AllArrived sar arrived → AllArrived sar (insert seg.toNat arrived) →
        ∃ handed,
          (segRxed env receiver pkt st).observation.handed = some handed ∧
          Reassembled sar seqAuth handed) ∧
      (AllArrived sar arrived ∨ ¬AllArrived sar (insert seg.toNat arrived) →
        (segRxed env receiver pkt st).observation.handed = none) := by
  have facts := isSegment.facts message
  rcases receiving_record receiving isSegment facts same with ⟨fresh, isProgress⟩
  rcases segRxed_spec fresh with
    ⟨record, isRecord, stored⟩
  have progress := isProgress record isRecord
  have next := progress.store facts message isSegment.inMessage
  have completing : completes pkt record = true ↔
      AllArrived sar (insert seg.toNat arrived) ∧ ¬AllArrived sar arrived := by
    rw [completes, facts.segN, Bool.and_eq_true, decide_eq_true_eq,
      decide_eq_true_eq, next.ack_eq_fullAck_iff message, Ne,
      progress.ack_eq_fullAck_iff message]
  have handed := stored.handed
  refine ⟨?_, ?_, ?_⟩
  · rcases stored.left with ⟨last, payload, found, frozen, kept, _⟩
    rw [← facts.src, found]
    apply InProgress.of_frozen _ frozen
    by_cases complete : completes pkt record = true
    · exact next.decrypted (completing.mp complete).1 payload
    · rw [kept (by simpa using complete)]
      exact next
  · intro incomplete all
    rw [if_pos (completing.mpr ⟨all, incomplete⟩)] at handed
    exact ⟨_, handed, progress.reassembled facts message isSegment incomplete
      all⟩
  · intro notNow
    rw [if_neg] at handed
    · exact handed
    · intro complete
      rcases completing.mp complete with ⟨all, incomplete⟩
      exact notNow.elim incomplete (absurd all)

/-- A segment from elsewhere leaves the slot alone. -/
theorem segRxed_other (source : U16) (apart : pkt.src ≠ source) :
    (segRxed env receiver pkt st).nextState.sarIn.find source =
      st.sarIn.find source := by
  by_cases stale : pkt.Stale st
  · rw [segRxed_stale stale]
  · rcases segRxed_spec stale with
      ⟨_, _, stored⟩
    exact stored.others source apart.symm

/-- What a segment hands up comes from its source. -/
theorem segRxed_handed_src {handed : HandedMessage}
    (isHanded : (segRxed env receiver pkt st).observation.handed =
      some handed) : handed.src = pkt.src := by
  by_cases stale : pkt.Stale st
  · rw [segRxed_stale stale] at isHanded
    cases isHanded
  · rcases segRxed_spec stale with
      ⟨record, isRecord, stored⟩
    rw [stored.handed] at isHanded
    split at isHanded
    · rw [← Option.some_inj.mp isHanded]
      exact (storeSegment_src record).trans isRecord.continues.src
    · cases isHanded

end Step

end Meshctl.Net
