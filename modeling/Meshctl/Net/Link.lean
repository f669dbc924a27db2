import Meshctl.Net.MessageInProgress

/-! # A link between two nodes

A sender and a receiver of segmented messages. The channel between them may
delay, reorder, repeat and drop segments and acknowledgements: whatever was
once written may arrive at any later time, any number of times.
-/

namespace Meshctl.Net

open Bytes Execution

/-! ## Acknowledgements on the wire -/

/-- The control message that carries the acknowledgement of a record. -/
def ackRecord (sar : MeshSarMsg) (st : NetState) : MeshSarMsg :=
  ctlRecord st st.defaultTtl (sar.dst.setWidth 16) sar.src (sarAck sar) 7

/-- An acknowledgement in flight, and the record it was composed for. -/
structure SarAck where
  acked : MeshSarMsg
  message : MeshSarMsg

/-- The arguments of `ack_rxed`, read from the network PDU. -/
def SarAck.input (ack : SarAck) (nid : Byte) (seq : U32) : NetInput :=
  let msg := (segmentPdu ack.message 0 nid seq).1
  .ack (pktSrc msg) (pktDst msg) (pktObo msg) (pktSeq0 msg) (pktAck msg)

theorem ctlRecord_data (st : NetState) (ttl : Byte) (src dst : U16)
    (buf : List Byte) (len : U16) :
    (ctlRecord st ttl src dst buf len).data =
      splice (List.replicate 20 0) 0 (slice buf 0 len.toNat) := by
  simp only [ctlRecord, MeshSarMsg.copyData, MeshSarMsg.zero]
  congr 1

/-- A control message is carried behind its header, after its opcode. -/
theorem get_segmentPdu_control (st : NetState) (ttl : Byte) (src dst : U16)
    {buf : List Byte} {len : U16} (nid : Byte) (seq : U32) {index : Nat}
    (inside : index + 1 < len.toNat) (short : len.toNat ≤ 12) :
    get (segmentPdu (ctlRecord st ttl src dst buf len) 0 nid seq).1
      (10 + index) = get buf (1 + index) := by
  have data := ctlRecord_data st ttl src dst buf len
  have isControl : (ctlRecord st ttl src dst buf len).ctl = true := rfl
  have notSegmented :
      (ctlRecord st ttl src dst buf len).segmented = false := rfl
  generalize ctlRecord st ttl src dst buf len = record at *
  simp only [segmentPdu, notSegmented, Bool.false_eq_true, if_false]
  rw [get_splice_inside (by simp; omega) (by omega) (by simp; omega),
    get_slice (by omega), ctlOffset, isControl, if_pos rfl, data,
    get_splice_inside (by simp; omega) (by omega) (by simp; omega),
    get_slice (by omega)]
  congr 1
  omega

/-- The flags of the acknowledgement are the mask of the record. -/
theorem pktAck_ackRecord (sar : MeshSarMsg) (st : NetState) (nid : Byte)
    (seq : U32) : pktAck (segmentPdu (ackRecord sar st) 0 nid seq).1 = sar.ack := by
  have field : ∀ index < 4,
      get (segmentPdu (ackRecord sar st) 0 nid seq).1 (12 + index) =
        get (sarAck sar) (3 + index) := by
    intro index inField
    have start : 12 + index = 10 + (2 + index) := by omega
    have small : (7 : U16).toNat = 7 := rfl
    rw [start, ackRecord, get_segmentPdu_control _ _ _ _ _ _ (by omega)
      (by omega)]
    congr 1
    omega
  have mask : getBe32 (sarAck sar) 3 = sar.ack := by
    rw [sarAck, setTransAck]
    exact getBe32_putBe32 (by simp [setTransSeq0, setTransOpcode])
  rw [pktAck, ← mask]
  exact getBe32_congr field

/-! ## The machine -/

/-- Beside the nodes, all segments that the receiver has received and all
acknowledgements that it has composed, oldest first. -/
structure LinkState where
  sender : NetState
  receiver : NetState
  received : List BuiltPkt
  acks : List SarAck

inductive LinkInput where
  /-- Something happens at the sender. -/
  | sender (input : NetInput)
  /-- A packet that was written arrives at the receiver. -/
  | segment (index : Nat) (netIdx : U16)
  /-- An acknowledgement arrives at the sender. -/
  | ack (index : Nat) (nid : Byte) (seq : U32)
  | receiverAckTimeout (src : U16)
  | receiverMsgTimeout (src : U16)

/-- Beacons are not part of the link; acknowledgements come from the channel. -/
def NetInput.isLocal : NetInput → Bool
  | .beacon .. => false
  | .ack .. => false
  | _ => true

/-- What the receiver reads from a packet. -/
def BuiltPkt.arrival (pkt : BuiltPkt) (netIdx : U16) : SegmentPdu :=
  receivedSegment netIdx pkt.sar.ivIndex pkt.plain
    (pkt.len - micSize pkt.sar.ctl)

/-- A segmented message to the address. -/
def MeshSarMsg.SegmentedTo (sar : MeshSarMsg) (addr : U16) : Prop :=
  sar.segmented = true ∧ sar.dst = addr.setWidth 32

instance (sar : MeshSarMsg) (addr : U16) : Decidable (sar.SegmentedTo addr) :=
  inferInstanceAs (Decidable (_ ∧ _))

section Link

variable (senderEnv receiverEnv : NetEnv) (upper : MsgReceiver) (addr : U16)

/-- The segment that arrives at the address of the receiver. -/
def deliverable (index : Nat) (link : LinkState) : Option BuiltPkt :=
  if index ∈ link.sender.written then
    link.sender.built[index]?.filter (·.sar.SegmentedTo addr)
  else
    none

/-- The receiver has taken a step, and may have composed an acknowledgement. -/
def afterReceiving (result : StepResult NetState SegObservation)
    (link : LinkState) : LinkState :=
  let composed := result.observation.acked.map fun sar =>
    ⟨sar, ackRecord sar result.nextState⟩
  { link with
    receiver := result.nextState, acks := link.acks ++ composed.toList }

def linkStep (link : LinkState) : LinkInput → StepResult LinkState Unit
  | .sender input =>
      if input.isLocal then
        ⟨{ link with
          sender := (netStep senderEnv link.sender input).nextState }, ()⟩
      else
        ⟨link, ()⟩
  | .segment index netIdx =>
      match deliverable addr index link with
      | none => ⟨link, ()⟩
      | some pkt =>
          let result := segRxed receiverEnv upper (pkt.arrival netIdx)
            link.receiver
          let link := { link with received := link.received ++ [pkt] }
          ⟨afterReceiving result link, ()⟩
  | .ack index nid seq =>
      match link.acks[index]? with
      | none => ⟨link, ()⟩
      | some ack =>
          ⟨{ link with
            sender :=
              (netStep senderEnv link.sender (ack.input nid seq)).nextState },
            ()⟩
  | .receiverAckTimeout src =>
      ⟨afterReceiving (sarInAckTimeout receiverEnv src link.receiver) link, ()⟩
  | .receiverMsgTimeout src =>
      ⟨{ link with receiver := sarInMsgTimeout src link.receiver }, ()⟩

def linkModel : Model LinkState LinkInput Unit where
  step := linkStep senderEnv receiverEnv upper addr

end Link

end Meshctl.Net
