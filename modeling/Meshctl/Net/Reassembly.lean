import Meshctl.Net.Beacon

/-! # Receiving segmented messages

Segments of one message are copied into one record, which is found by their
source. A newer message, or one of another size, replaces the record.
-/

namespace Meshctl.Net

open Bytes Execution

/-- The arguments of `seg_rxed`. -/
structure SegmentPdu where
  netIdx : U16
  ivIndex : U32
  ctl : Bool
  ttl : Byte
  seqNum : U32
  src : U16
  dst : U16
  trans : List Byte
  len : U16

namespace SegmentPdu

variable (pkt : SegmentPdu)

def seqAuth : U32 := calcSeqAuth pkt.seqNum pkt.trans

def segN : Byte := transSegN pkt.trans

def segO : Byte := transSegO pkt.trans

end SegmentPdu

/-- A complete message, as the upper layer gets it. -/
structure HandedMessage where
  ctl : Bool
  netIdx : U16
  ivIndex : U32
  szmic : Bool
  ttl : Byte
  seqNum : U32
  seqAuth : U32
  src : U16
  dst : U16
  data : List Byte
  len : U16

/-- The data behind the first octet is what decryption leaves there, if it
writes anything back. -/
structure MsgResult where
  result : Bool
  payload : Option (List Byte)
  nextState : NetState

/-- The upper layer, `msg_rxed`. It never touches the list of messages that are
being received. -/
structure MsgReceiver where
  receive : HandedMessage → NetState → MsgResult
  keepsSarIn : ∀ message st, (receive message st).nextState.sarIn = st.sarIn

/-- An upper layer that drops every message. -/
def quietReceiver : MsgReceiver where
  receive _ st := ⟨false, none, st⟩
  keepsSarIn _ _ := rfl

/-- The copy of the twelve bytes of a segment: where it starts in the data of
the record, and how much data is allocated. -/
structure SegmentWrite where
  offset : Nat
  allocated : Nat
deriving DecidableEq

/-- What `seg_rxed` returned, wrote, handed up, and the record that it
acknowledged. -/
structure SegObservation where
  result : Bool
  write : Option SegmentWrite
  handed : Option HandedMessage
  acked : Option MeshSarMsg

def SegObservation.quiet (result : Bool) : SegObservation where
  result := result
  write := none
  handed := none
  acked := none

namespace NetState

variable (st : NetState)

def flushSarIn (src : U16) : NetState :=
  { st with sarIn := st.sarIn.remove src }

def setSarIn (sar : MeshSarMsg) : NetState :=
  { st with sarIn := st.sarIn.set sar }

end NetState

/-! ## The record of a segment -/

section Record

variable (pkt : SegmentPdu)

/-- The order of messages from one source. -/
def ivSeqAuth (ivIndex seqAuth : U32) : U64 := ivIndex ++ seqAuth

/-- The record from the same source, unless the segment abandons it; nothing
for a stale segment. -/
def reuseSar (st : NetState) : Option (Option MeshSarMsg × NetState) :=
  match st.sarIn.find pkt.src with
  | none => some (none, st)
  | some sar =>
      let new := ivSeqAuth pkt.ivIndex pkt.seqAuth
      let old := ivSeqAuth sar.ivIndex sar.seqAuth
      if old < new then
        some (none, st.flushSarIn sar.src)
      else if new < old then
        none
      else if pkt.segN ≠ sar.segN then
        some (none, st.flushSarIn sar.src)
      else
        some (some sar, st)

/-- A new record begins with the first octet of all segments, without the
segmentation flag. -/
def newSar : MeshSarMsg :=
  let sar : MeshSarMsg :=
    { MeshSarMsg.zero pkt.segN with
      netIdx := pkt.netIdx, ivIndex := pkt.ivIndex, ctl := pkt.ctl
      ttl := pkt.ttl, seqAuth := pkt.seqAuth, src := pkt.src
      dst := pkt.dst.setWidth 32, segmented := true
      szmic := transSzmic pkt.trans
      ackTo := isUnicast pkt.dst, msgTo := true }
  sar.copyData 0 [get pkt.trans 0 &&& 0x7f]

def sarForSegment (st : NetState) : Option (MeshSarMsg × NetState) :=
  match reuseSar pkt st with
  | none => none
  | some (some sar, st) => some (sar, st)
  | some (none, st) =>
      let sar := newSar pkt
      some (sar, { st with sarIn := st.sarIn.append sar })

/-- Only the last segment tells the length of the message. -/
def storeSegment (sar : MeshSarMsg) : MeshSarMsg :=
  let sar :=
    if pkt.segN = pkt.segO then
      { sar with len := BitVec.ofNat 16 (pkt.segN.toNat * 12) + pkt.len - 3 }
    else
      sar
  let sar := sar.copyData (1 + 12 * pkt.segO.toNat) (slice pkt.trans 4 12)
  { sar with ack := sar.ack ||| ((1 : U32) <<< pkt.segO.toNat) }

def handedMessage (sar : MeshSarMsg) : HandedMessage where
  ctl := pkt.ctl
  netIdx := sar.netIdx
  ivIndex := sar.ivIndex
  szmic := sar.szmic
  ttl := sar.ttl
  seqNum := if pkt.ctl then sar.seqAuth else pkt.seqNum
  seqAuth := sar.seqAuth
  src := sar.src
  dst := sar.dst.setWidth 16
  data := sar.data
  len := sar.len

/-- Whether to acknowledge at once: not when nothing is new, and otherwise when
the message is complete or its last segments have all arrived. -/
def acksSegment (oldAck ack : U32) (complete : Bool) : Bool :=
  let lastAckMask := (0xffffffff : U32) <<< pkt.segO.toNat
  if oldAck = ack then
    false
  else if lastAckMask &&& ack = lastAckMask &&& fullAck pkt.segN then
    true
  else
    complete

end Record

/-! ### Which record it is -/

section Match

variable (pkt : SegmentPdu) (st : NetState)

/-- An older message than the one in progress from the same source. -/
def SegmentPdu.Stale : Prop :=
  ∃ sar, st.sarIn.find pkt.src = some sar ∧
    ivSeqAuth pkt.ivIndex pkt.seqAuth < ivSeqAuth sar.ivIndex sar.seqAuth

/-- The segment continues a record. -/
structure SegmentPdu.Continues (sar : MeshSarMsg) : Prop where
  src : sar.src = pkt.src
  ivIndex : sar.ivIndex = pkt.ivIndex
  seqAuth : sar.seqAuth = pkt.seqAuth
  segN : sar.segN = pkt.segN

/-- The record in progress that the segment continues, or else a new one. -/
def SegmentPdu.RecordOf (sar : MeshSarMsg) : Prop :=
  st.sarIn.find pkt.src = some sar ∧ pkt.Continues sar ∨
    (∀ old, st.sarIn.find pkt.src = some old → ¬pkt.Continues old) ∧
      sar = newSar pkt

variable {pkt st}

theorem ivSeqAuth_inj {ivIndex seqAuth ivIndex' seqAuth' : U32} :
    ivSeqAuth ivIndex seqAuth = ivSeqAuth ivIndex' seqAuth' ↔
      ivIndex = ivIndex' ∧ seqAuth = seqAuth' := by
  constructor
  · intro equal
    have high : (ivIndex ++ seqAuth).extractLsb' 32 32 =
        (ivIndex' ++ seqAuth').extractLsb' 32 32 :=
      congrArg (BitVec.extractLsb' 32 32) equal
    have low : (ivIndex ++ seqAuth).extractLsb' 0 32 =
        (ivIndex' ++ seqAuth').extractLsb' 0 32 :=
      congrArg (BitVec.extractLsb' 0 32) equal
    rw [BitVec.extractLsb'_append_eq_left, BitVec.extractLsb'_append_eq_left]
      at high
    rw [BitVec.extractLsb'_append_eq_right,
      BitVec.extractLsb'_append_eq_right] at low
    exact ⟨high, low⟩
  · intro ⟨sameIv, sameSeq⟩
    rw [sameIv, sameSeq]

theorem SegmentPdu.RecordOf.continues {sar : MeshSarMsg}
    (record : pkt.RecordOf st sar) : pkt.Continues sar := by
  rcases record with ⟨_, continues⟩ | ⟨_, new⟩
  · exact continues
  · rw [new]
    exact ⟨rfl, rfl, rfl, rfl⟩

theorem sarForSegment_stale (stale : pkt.Stale st) :
    sarForSegment pkt st = none := by
  rcases stale with ⟨sar, found, newer⟩
  have notOlder := BitVec.lt_asymm newer
  simp only [sarForSegment, reuseSar, found, if_neg notOlder, if_pos newer]

/-- The record of a segment that is not stale is found under its source
afterwards; the records of other sources stay. -/
theorem sarForSegment_spec (fresh : ¬pkt.Stale st) :
    ∃ sar sarIn, sarForSegment pkt st = some (sar, { st with sarIn }) ∧
      pkt.RecordOf st sar ∧ sarIn.find pkt.src = some sar ∧
      ∀ other ≠ pkt.src, sarIn.find other = st.sarIn.find other := by
  cases found : st.sarIn.find pkt.src with
  | none =>
      refine ⟨newSar pkt, st.sarIn.append (newSar pkt), ?_, ?_, ?_, ?_⟩
      · simp only [sarForSegment, reuseSar, found]
      · exact Or.inr ⟨fun old present => by simp [found] at present, rfl⟩
      · exact KeyedList.find_append_self _ _
      · exact fun other apart => KeyedList.find_append_ne _ apart
  | some old =>
      have isSrc : old.src = pkt.src := KeyedList.key_of_find found
      have notNewer : ¬ivSeqAuth pkt.ivIndex pkt.seqAuth <
          ivSeqAuth old.ivIndex old.seqAuth :=
        fun newer => fresh ⟨old, found, newer⟩
      by_cases continues : pkt.Continues old
      · refine ⟨old, st.sarIn, ?_, Or.inl ⟨found, continues⟩, found,
          fun _ _ => rfl⟩
        have same : ivSeqAuth old.ivIndex old.seqAuth =
            ivSeqAuth pkt.ivIndex pkt.seqAuth :=
          ivSeqAuth_inj.mpr ⟨continues.ivIndex, continues.seqAuth⟩
        simp [sarForSegment, reuseSar, found, same, continues.segN]
      · refine ⟨newSar pkt, (st.sarIn.remove pkt.src).append (newSar pkt),
          ?_, ?_, ?_, ?_⟩
        · by_cases older : ivSeqAuth old.ivIndex old.seqAuth <
              ivSeqAuth pkt.ivIndex pkt.seqAuth
          · simp only [sarForSegment, reuseSar, found, if_pos older,
              NetState.flushSarIn, isSrc]
          · have same := ivSeqAuth_inj.mp
              (BitVec.le_antisymm (BitVec.not_lt.mp older)
                (BitVec.not_lt.mp notNewer))
            have otherSize : pkt.segN ≠ old.segN := fun equal =>
              continues ⟨isSrc, same.1.symm, same.2.symm, equal.symm⟩
            simp only [sarForSegment, reuseSar, found, if_neg notNewer,
              if_neg older, if_pos otherSize, NetState.flushSarIn, isSrc]
        · refine Or.inr ⟨fun other present => ?_, rfl⟩
          rw [found, Option.some_inj] at present
          exact present ▸ continues
        · exact KeyedList.find_append_self _ _
        · intro other apart
          have apartNew : other ≠ (newSar pkt).src := apart
          rw [KeyedList.find_append_ne _ apartNew,
            KeyedList.find_remove_ne _ apart]

end Match

/-! ## Handing up and acknowledging -/

/-- Only heartbeats are recognized, and nothing but reported. -/
def ctlRxed (trans : List Byte) : Bool := get trans 0 = netOpHeartbeat

def decryptInPlace (payload : Option (List Byte)) (sar : MeshSarMsg) :
    MeshSarMsg :=
  match payload with
  | none => sar
  | some payload => sar.copyData 1 payload

section Receive

variable (env : NetEnv) (receiver : MsgReceiver)

/-- Hand a message up if one is complete. -/
def handUp (handed : Option HandedMessage) (sar : MeshSarMsg)
    (st : NetState) : Bool × MeshSarMsg × NetState :=
  match handed with
  | none => (false, sar, st)
  | some message =>
      if message.ctl then
        (ctlRxed message.data, sar, st)
      else
        let answer := receiver.receive message st
        let sar := decryptInPlace answer.payload sar
        (answer.result, sar, answer.nextState.setSarIn sar)

/-- The control message that acknowledges what has arrived of a record. -/
def sarAck (sar : MeshSarMsg) : List Byte :=
  let ack := List.replicate 7 0
  let ack := setTransOpcode ack netOpSegAcknowledge
  let ack := setTransSeq0 ack sar.seqAuth
  setTransAck ack sar.ack

def sendSarAck (sar : MeshSarMsg) (st : NetState) : NetState :=
  let st := st.setSarIn { sar with activityCnt := 0 }
  (netCtlMsgSend env 0xff (sar.dst.setWidth 16) sar.src (sarAck sar) 7 st).2

/-- The tail of `seg_rxed`. Messages to groups are never acknowledged. -/
def ackSegment (pkt : SegmentPdu) (oldAck : U32) (complete : Bool)
    (sar : MeshSarMsg) (st : NetState) : Option MeshSarMsg × NetState :=
  if !isUnicast pkt.dst then
    (none, st)
  else
    let sar := { sar with activityCnt := sar.activityCnt + 1 }
    let st := st.setSarIn sar
    if acksSegment pkt oldAck sar.ack complete then
      (some sar, sendSarAck env sar st)
    else
      (none, st)

def segRxed (pkt : SegmentPdu) (st : NetState) :
    StepResult NetState SegObservation :=
  match sarForSegment pkt st with
  | none => ⟨st, SegObservation.quiet false⟩
  | some (sar, st) =>
      let oldAck := sar.ack
      let write : SegmentWrite :=
        { offset := 1 + 12 * pkt.segO.toNat, allocated := sar.data.length }
      let sar := storeSegment pkt sar
      let st := st.setSarIn sar
      let full := fullAck pkt.segN
      let complete := sar.ack = full && oldAck ≠ full
      let handed := if complete then some (handedMessage pkt sar) else none
      let (result, sar, st) := handUp receiver handed sar st
      let (acked, st) := ackSegment env pkt oldAck complete sar st
      ⟨st, { result, write := some write, handed, acked }⟩

/-- Repeat the acknowledgement while the message is being received. -/
def sarInAckTimeout (src : U16) (st : NetState) :
    StepResult NetState SegObservation :=
  match st.sarIn.find src with
  | none => ⟨st, SegObservation.quiet false⟩
  | some sar =>
      if !sar.ackTo then
        ⟨st, SegObservation.quiet false⟩
      else if sar.activityCnt ≠ 0 || sar.ack ≠ fullAck sar.segN then
        ⟨sendSarAck env sar st,
          { SegObservation.quiet true with acked := some sar }⟩
      else
        ⟨st, SegObservation.quiet true⟩

def sarInMsgTimeout (src : U16) (st : NetState) : NetState :=
  st.flushSarIn src

/-! ## The machine -/

/-- A segment arrives, a timer of the record from a source fires, or something
else happens in the network layer. -/
inductive ReceiveInput where
  | segment (pkt : SegmentPdu)
  | ackTimeout (src : U16)
  | msgTimeout (src : U16)
  | other (input : NetInput)

def receiveStep (st : NetState) :
    ReceiveInput → StepResult NetState SegObservation
  | .segment pkt => segRxed env receiver pkt st
  | .ackTimeout src => sarInAckTimeout env src st
  | .msgTimeout src => ⟨sarInMsgTimeout src st, SegObservation.quiet false⟩
  | .other input =>
      let result := netStep env st input
      ⟨result.nextState, SegObservation.quiet result.observation.result⟩

def receiveModel : Model NetState ReceiveInput SegObservation where
  step := receiveStep env receiver

end Receive

/-! ## What receiving a segment changes -/

section Spec

variable {env : NetEnv} {receiver : MsgReceiver} {pkt : SegmentPdu}
  {st : NetState}

theorem netCtlMsgSend_sarIn (ttl : Byte) (src dst : U16) (buf : List Byte)
    (len : U16) (st : NetState) :
    (netCtlMsgSend env ttl src dst buf len st).2.sarIn = st.sarIn :=
  (netCtlMsgSend_run ttl src dst buf len st).sarIn

theorem sendSarAck_sarIn (sar : MeshSarMsg) (st : NetState) :
    (sendSarAck env sar st).sarIn =
      st.sarIn.set { sar with activityCnt := 0 } :=
  netCtlMsgSend_sarIn _ _ _ _ _ _

/-- A message is handed up when its last missing segment is stored. -/
def completes (pkt : SegmentPdu) (sar : MeshSarMsg) : Bool :=
  (storeSegment pkt sar).ack = fullAck pkt.segN && sar.ack ≠ fullAck pkt.segN

/-- The effects of a segment that is stored in the record `sar`. -/
structure StoredIn (pkt : SegmentPdu) (before : NetState) (sar : MeshSarMsg)
    (result : StepResult NetState SegObservation) : Prop where
  write : result.observation.write = some
    ⟨1 + 12 * pkt.segO.toNat, 20 + 12 * pkt.segN.toNat⟩
  handed : result.observation.handed =
    if completes pkt sar then some (handedMessage pkt (storeSegment pkt sar))
    else none
  /-- Only decryption of a complete message changes what was stored. -/
  left : ∃ last payload,
    result.nextState.sarIn.find pkt.src = some last ∧
    last.frozen = (decryptInPlace payload (storeSegment pkt sar)).frozen ∧
    (completes pkt sar = false → payload = none) ∧
    ∀ acked, result.observation.acked = some acked →
      acked.frozen = last.frozen
  others : ∀ other ≠ pkt.src,
    result.nextState.sarIn.find other = before.sarIn.find other

/-- Storing changes the length, the data and the mask. -/
theorem storeSegment_eq (sar : MeshSarMsg) :
    storeSegment pkt sar =
      { sar.copyData (1 + 12 * pkt.segO.toNat) (slice pkt.trans 4 12) with
        ack := sar.ack ||| ((1 : U32) <<< pkt.segO.toNat)
        len := if pkt.segN = pkt.segO then
          BitVec.ofNat 16 (pkt.segN.toNat * 12) + pkt.len - 3 else sar.len } := by
  simp only [storeSegment, MeshSarMsg.copyData]
  split <;> rfl

@[simp] theorem storeSegment_src (sar : MeshSarMsg) :
    (storeSegment pkt sar).src = sar.src := by
  rw [storeSegment_eq]
  rfl

@[simp] theorem storeSegment_ack (sar : MeshSarMsg) :
    (storeSegment pkt sar).ack =
      sar.ack ||| ((1 : U32) <<< pkt.segO.toNat) := by
  rw [storeSegment_eq]

@[simp] theorem storeSegment_segN (sar : MeshSarMsg) :
    (storeSegment pkt sar).segN = sar.segN := by
  rw [storeSegment_eq]
  rfl

@[simp] theorem decryptInPlace_src (payload : Option (List Byte))
    (sar : MeshSarMsg) : (decryptInPlace payload sar).src = sar.src := by
  cases payload <;> rfl

/-- Handing up leaves the record in its place, its data decrypted or not. -/
theorem handUp_spec (handed : Option HandedMessage) {sar : MeshSarMsg}
    (found : st.sarIn.find sar.src = some sar) :
    ∃ payload,
      (handUp receiver handed sar st).2.1 = decryptInPlace payload sar ∧
      (handUp receiver handed sar st).2.2.sarIn.find sar.src =
        some (decryptInPlace payload sar) ∧
      (∀ other ≠ sar.src,
        (handUp receiver handed sar st).2.2.sarIn.find other =
          st.sarIn.find other) ∧
      (handed = none → payload = none) := by
  cases handed with
  | none => exact ⟨none, rfl, found, fun _ _ => rfl, fun _ => rfl⟩
  | some message =>
      rw [handUp]
      split
      next => exact ⟨none, rfl, found, fun _ _ => rfl, fun _ => rfl⟩
      next =>
        refine ⟨(receiver.receive message st).payload, rfl, ?_, ?_,
          fun absurd => (by cases absurd)⟩
        · simp only [NetState.setSarIn, receiver.keepsSarIn]
          exact KeyedList.find_set_self found (decryptInPlace_src _ _)
        · intro other apart
          simp only [NetState.setSarIn, receiver.keepsSarIn]
          apply KeyedList.find_set_ne
          rw [decryptInPlace_src]
          exact apart

/-- Acknowledging changes the activity count only. -/
theorem ackSegment_spec (oldAck : U32) (complete : Bool) {sar : MeshSarMsg}
    (found : st.sarIn.find sar.src = some sar) :
    ∃ last, (ackSegment env pkt oldAck complete sar st).2.sarIn.find sar.src =
        some last ∧ last.frozen = sar.frozen ∧
      (∀ acked, (ackSegment env pkt oldAck complete sar st).1 = some acked →
        acked.frozen = sar.frozen) ∧
      ∀ other ≠ sar.src,
        (ackSegment env pkt oldAck complete sar st).2.sarIn.find other =
          st.sarIn.find other := by
  rw [ackSegment]
  split
  next => exact ⟨sar, found, rfl, fun _ absurd => (by cases absurd),
    fun _ _ => rfl⟩
  next =>
    have tickled : (st.setSarIn { sar with
        activityCnt := sar.activityCnt + 1 }).sarIn.find sar.src =
        some { sar with activityCnt := sar.activityCnt + 1 } :=
      KeyedList.find_set_self found rfl
    dsimp only
    split
    next =>
      refine ⟨{ sar with activityCnt := 0 }, ?_, rfl, ?_, ?_⟩
      · rw [sendSarAck_sarIn]
        exact KeyedList.find_set_self tickled rfl
      · intro acked equal
        rw [← Option.some_inj.mp equal]
        rfl
      · intro other apart
        rw [sendSarAck_sarIn]
        refine (KeyedList.find_set_ne _ ?_).trans (KeyedList.find_set_ne _ ?_)
        · exact apart
        · exact apart
    next =>
      exact ⟨_, tickled, rfl, fun _ absurd => (by cases absurd),
        fun other apart => KeyedList.find_set_ne _ apart⟩

theorem segRxed_stale (stale : pkt.Stale st) :
    segRxed env receiver pkt st = ⟨st, SegObservation.quiet false⟩ := by
  simp only [segRxed, sarForSegment_stale stale]

/-- A segment that is not stale is stored in its record. -/
theorem segRxed_spec (fresh : ¬pkt.Stale st) :
    ∃ sar, pkt.RecordOf st sar ∧
      StoredIn pkt st sar (segRxed env receiver pkt st) := by
  rcases sarForSegment_spec fresh with
    ⟨sar, sarIn, selected, record, found, others⟩
  have isSrc : (storeSegment pkt sar).src = pkt.src := by
    rw [storeSegment_src, record.continues.src]
  have stored : (({ st with sarIn } : NetState).setSarIn
      (storeSegment pkt sar)).sarIn.find (storeSegment pkt sar).src =
      some (storeSegment pkt sar) := by
    rw [← isSrc] at found
    exact KeyedList.find_set_self found rfl
  have otherStored : ∀ other ≠ pkt.src,
      (({ st with sarIn } : NetState).setSarIn
        (storeSegment pkt sar)).sarIn.find other = st.sarIn.find other := by
    intro other apart
    rw [← others other apart]
    apply KeyedList.find_set_ne
    rw [isSrc]
    exact apart
  refine ⟨sar, record, ?_⟩
  rcases handUp_spec (if completes pkt sar then
    some (handedMessage pkt (storeSegment pkt sar)) else none) stored with
    ⟨payload, decrypted, left, same, kept⟩
  generalize middle : handUp receiver (if completes pkt sar then
    some (handedMessage pkt (storeSegment pkt sar)) else none)
    (storeSegment pkt sar)
    (({ st with sarIn } : NetState).setSarIn (storeSegment pkt sar)) = answer
    at decrypted left same
  rcases answer with ⟨result, last, after⟩
  dsimp only at decrypted left same
  have lastSrc : last.src = pkt.src := by
    rw [decrypted, decryptInPlace_src, isSrc]
  rw [← decrypted, isSrc, ← lastSrc] at left
  rcases ackSegment_spec sar.ack (completes pkt sar)
    left with ⟨final, finalLeft, finalFrozen, acked, finalSame⟩
  have unfolded : segRxed env receiver pkt st =
      ⟨(ackSegment env pkt sar.ack (completes pkt sar) last after).2,
        { result
          write := some ⟨1 + 12 * pkt.segO.toNat, sar.data.length⟩
          handed := if completes pkt sar then
            some (handedMessage pkt (storeSegment pkt sar)) else none
          acked :=
            (ackSegment env pkt sar.ack (completes pkt sar) last after).1 }⟩ := by
    simp only [segRxed, selected]
    rw [completes] at middle ⊢
    rw [middle]
  rw [unfolded]
  refine ⟨?_, rfl, ?_, ?_⟩
  · rw [sar.sized, record.continues.segN]
  · refine ⟨final, payload, ?_, ?_, ?_, ?_⟩
    · rw [← lastSrc]
      exact finalLeft
    · rw [finalFrozen, decrypted]
    · intro incomplete
      exact kept (if_neg (by simp [incomplete]))
    · intro acknowledged isAcked
      rw [finalFrozen]
      exact acked acknowledged isAcked
  · intro other apart
    rw [finalSame other (lastSrc ▸ apart), same other (isSrc ▸ apart)]
    exact otherStored other apart

end Spec

end Meshctl.Net
