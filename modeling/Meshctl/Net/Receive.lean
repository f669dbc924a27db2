import Meshctl.Net.AccessReceive
import Meshctl.Net.MessageInProgress

/-! # Receiving network packets

`net_data_ready`, from the data of the GATT connection up to the upper layer.
Every call notes the subtractions whose results it uses.
-/

namespace Meshctl.Net

open Bytes Crypto Execution

/-- The state of the network layer, and a history of the lengths of messages:
how the length in the record from a source was computed. -/
structure RxState where
  net : NetState
  lenTaken : U16 → List Subtraction

/-- Nothing is being received. -/
def RxState.start (st : NetState) : RxState where
  net := { st with sarIn := KeyedList.empty }
  lenTaken _ := []

structure RxObservation where
  result : Bool
  uses : List Subtraction

/-! ## Decoding -/

instance (header : List Byte) : Decidable (legalSource header) :=
  inferInstanceAs (Decidable (_ ∧ _))

/-- `mesh_crypto_packet_decode` decrypts what is behind the header, and finds
the MIC in the last bytes of the packet. -/
def packetDecodeUses (env : DecodeEnv) (rx : RxPacket) (parts : NetKeyParts) :
    List Subtraction :=
  let header := shownHeader env.aes parts.privacyKey rx.ivIndex rx.packet
  if rx.size.toNat < 14 ∨ ¬legalSource header then
    []
  else
    let packetLen : Length := ⟨rx.size.setWidth 16, []⟩
    ccmUses (packetLen.sub 7) (netMicSize header) ++
      (packetLen.sub (netMicSize header)).taken

/-! ## Control messages -/

def filterStatus : Byte := 0x03

def blacklistFilter : Byte := 0x01

/-- `proxy_ctl_rxed` reads the length first of all. -/
def proxyCtlRxed (trans : List Byte) (len : Length) (rx : RxState) :
    StepResult RxState RxObservation :=
  if len.value < 1 then
    ⟨rx, ⟨false, len.taken⟩⟩
  else if get trans 0 = filterStatus then
    if len.value ≠ 4 then
      ⟨rx, ⟨false, len.taken⟩⟩
    else
      let blacklist := get trans 1 = blacklistFilter
      ⟨{ rx with net := { rx.net with blacklist } }, ⟨true, len.taken⟩⟩
  else
    ⟨rx, ⟨false, len.taken⟩⟩

/-- The length of a control message is only printed, with the bytes of what is
not a heartbeat. -/
def ctlUses (trans : List Byte) (len : Length) : List Subtraction :=
  if ctlRxed trans then [] else len.taken

/-! ## Segments -/

section Receive

variable (env : RxEnv)

/-- The length of the whole message, before the transport header of the last
segment is subtracted. -/
def SegmentPdu.wholeLen (pkt : SegmentPdu) : Subtraction where
  minuend := pkt.segN.toNat * 12 + pkt.len.toNat
  subtrahend := 3

/-- What a stored segment adds to the history. -/
def noteLength (pkt : SegmentPdu) (lenTaken : U16 → List Subtraction) :
    U16 → List Subtraction :=
  if pkt.segN = pkt.segO then
    fun src => if src = pkt.src then [pkt.wholeLen] else lenTaken src
  else
    lenTaken

/-- What the upper layer uses of a complete message. Its keys, labels and nodes
are not changed while segments are stored. -/
def handedUses (st : NetState) (taken : List Subtraction)
    (message : HandedMessage) : List Subtraction :=
  if message.ctl then
    ctlUses message.data ⟨message.len, taken⟩
  else
    (msgRxed env st message ⟨message.len, taken⟩).uses

/-- `seg_rxed`. It uses the length of the last segment of a message. -/
def segmentRxed (pkt : SegmentPdu) (len : Length) (rx : RxState) :
    StepResult RxState RxObservation :=
  let answer := segRxed env.net (msgReceiver env) pkt rx.net
  if answer.observation.write.isNone then
    ⟨{ rx with net := answer.nextState }, ⟨answer.observation.result, []⟩⟩
  else
    let lenTaken := noteLength pkt rx.lenTaken
    let last := if pkt.segN = pkt.segO then len.taken else []
    let handed := answer.observation.handed.elim []
      (handedUses env rx.net (lenTaken pkt.src))
    ⟨⟨answer.nextState, lenTaken⟩, ⟨answer.observation.result, last ++ handed⟩⟩

/-! ## Packets -/

/-- The length of the transport PDU of a decoded packet. -/
def packetTransLen (msg : List Byte) (size : Byte) : Length :=
  let len := size - micSize (pktCtl msg)
  { value := len.setWidth 16 - 9
    taken := [⟨size.toNat, (micSize (pktCtl msg)).toNat⟩, ⟨len.toNat, 9⟩] }

/-- The arguments of `seg_rxed`. -/
def packetSegment (netIdx : U16) (ivIndex : U32) (msg : List Byte)
    (size : Byte) : SegmentPdu :=
  receivedSegment netIdx ivIndex msg (size - micSize (pktCtl msg))

/-- An access message that is not segmented. -/
def packetMessage (netIdx : U16) (ivIndex : U32) (msg : List Byte)
    (size : Byte) : HandedMessage where
  ctl := false
  netIdx := netIdx
  ivIndex := ivIndex
  szmic := false
  ttl := pktTtl msg
  seqNum := pktSeq msg
  seqAuth := pktSeq msg
  src := pktSrc msg
  dst := pktDst msg
  data := pktTrans msg
  len := (packetTransLen msg size).value

/-- A packet that was decoded with a key. -/
def packetRxed (netIdx : U16) (packet : RxPacket) (msg : List Byte)
    (rx : RxState) : StepResult RxState RxObservation :=
  let len := packetTransLen msg packet.size
  if packet.proxy then
    if pktDst msg ≠ 0 then
      ⟨rx, ⟨false, []⟩⟩
    else
      proxyCtlRxed (pktTrans msg) len rx
  else if pktCtl msg && pktOpcode msg = netOpSegAcknowledge then
    let answer := ackRxed env.net (pktSrc msg) (pktDst msg) (pktObo msg)
      (pktSeq0 msg) (pktAck msg) rx.net
    ⟨{ rx with net := answer.2 }, ⟨answer.1, []⟩⟩
  else if pktSegmented msg then
    segmentRxed env (packetSegment netIdx packet.ivIndex msg packet.size) len rx
  else if !pktCtl msg then
    let answer := msgRxed env rx.net
      (packetMessage netIdx packet.ivIndex msg packet.size) len
    let net := answer.delivered.elim rx.net (env.deliver · rx.net)
    ⟨{ rx with net }, ⟨answer.result, answer.uses⟩⟩
  else
    ⟨rx, ⟨ctlRxed (pktTrans msg), ctlUses (pktTrans msg) len⟩⟩

def packetReady (packet : RxPacket) (rx : RxState) :
    StepResult RxState RxObservation :=
  let decode := netPacketDecode env.toDecodeEnv rx.net.netKeys packet
  let decodeUses := decode.tried.flatMap (packetDecodeUses env.toDecodeEnv packet)
  match decode.netKey with
  | none => ⟨rx, ⟨false, decodeUses⟩⟩
  | some netKey =>
      let answer := packetRxed env netKey.idx packet decode.packet rx
      ⟨answer.nextState,
        ⟨answer.observation.result, decodeUses ++ answer.observation.uses⟩⟩

/-- `net_data_ready`. -/
def netDataReady (msg : List Byte) (len : Byte) (rx : RxState) :
    StepResult RxState RxObservation :=
  if 10 ≤ len.toNat ∧ get msg 0 = proxyMeshBeacon then
    let answer := processBeacon env.net (msg.drop 1) (len - 1) rx.net
    ⟨{ rx with net := answer.nextState }, ⟨answer.accepted, []⟩⟩
  else
    match rxPacket rx.net.ivIndex msg len with
    | none => ⟨rx, ⟨false, []⟩⟩
    | some packet => packetReady env packet rx

/-! ## The machine -/

/-- Data arrives from the GATT connection, a timer of the record from a source
fires, or something else happens in the network layer. -/
inductive RxInput where
  | data (msg : List Byte) (len : Byte)
  | ackTimeout (src : U16)
  | msgTimeout (src : U16)
  | other (input : NetInput)

def rxStep (rx : RxState) : RxInput → StepResult RxState RxObservation
  | .data msg len => netDataReady env msg len rx
  | .ackTimeout src =>
      let answer := sarInAckTimeout env.net src rx.net
      ⟨{ rx with net := answer.nextState }, ⟨answer.observation.result, []⟩⟩
  | .msgTimeout src =>
      ⟨{ rx with net := sarInMsgTimeout src rx.net }, ⟨false, []⟩⟩
  | .other input =>
      let answer := netStep env.net rx.net input
      ⟨{ rx with net := answer.nextState }, ⟨answer.observation.result, []⟩⟩

def rxModel : Model RxState RxInput RxObservation where
  step := rxStep env

end Receive

end Meshctl.Net
