import Meshctl.Net.LengthSafety

/-! # What the upper layer is told of a message

A delivered message is the decrypted payload of the packet that completed it,
with the source, IV index and sequence number of that packet. Messages to
virtual addresses are delivered under a wrong source.
-/

namespace Meshctl.Net

open Bytes Crypto Execution

/-! ## Decryption -/

theorem length_aesCcmDecrypt (cipher : AesBlock → AesBlock) (stale : AesBlock)
    (nonce msg out : List Byte) (aad : Nat → Byte) (aadLen encMsgLen : U16)
    (outMic : Bool) (micSize : Nat) :
    (aesCcmDecrypt cipher (.apart msg 0) stale nonce aad aadLen encMsgLen outMic
      micSize out).memory.length = out.length := by
  rw [aesCcmDecrypt]
  dsimp only
  split
  next => rfl
  next =>
    apply Execution.foldl_range_invariant _ _ _
      (fun _ (state : CcmState (List Byte)) =>
        state.memory.length = out.length) rfl
    intro j _ state same
    rw [decryptBlock]
    dsimp only
    rw [CipherBuffers.writeAll_apart, length_splice, same]

section Decrypt

variable {env : RxEnv} {pdu : AccessPdu}

/-- What a successful decryption left in an output of the length of the
message. -/
def Opens (env : RxEnv) (pdu : AccessPdu) (key : Key) (text : List Byte) :
    Prop :=
  ∃ out : List Byte, out.length = pdu.len.value.toNat ∧
    (decryptWith env pdu key out).result = true ∧
    text = (decryptWith env pdu key out).out

theorem length_decryptWith (key : Key) (out : List Byte) :
    (decryptWith env pdu key out).out.length = out.length :=
  length_aesCcmDecrypt _ _ _ _ _ _ _ _ _ _

/-- Decryption writes the payload in front of what the output held. -/
theorem Opens.take_eq {key : Key} {text whole : List Byte}
    (opens : Opens env pdu key text)
    (isLen : pdu.len.value.toNat = whole.length)
    (reads : ∀ i < whole.length, get pdu.trans i = get whole i)
    (room : pdu.micSize < whole.length) :
    text.take (whole.length - pdu.micSize) =
        ccmPlain (env.aes key) pdu.nonce pdu.micSize whole ∧
      whole.drop (whole.length - pdu.micSize) =
        sentTag (env.aes key) pdu.nonce (labelByte pdu.aad) (labelLen pdu.aad)
          pdu.micSize (ccmPlain (env.aes key) pdu.nonce pdu.micSize whole) := by
  rcases opens with ⟨out, length, accepts, isText⟩
  have small : whole.length < 2 ^ 16 := isLen ▸ pdu.len.value.isLt
  have isMicSize : pdu.micSize = 4 ∨ pdu.micSize = 8 := by
    rw [AccessPdu.micSize]
    cases pdu.szmic
    · exact Or.inl rfl
    · exact Or.inr rfl
  have isValue : pdu.len.value = BitVec.ofNat 16 whole.length := by
    rw [← isLen, BitVec.ofNat_toNat, BitVec.setWidth_eq]
  have decrypted := @aesCcmDecrypt_eq _ (env.aes key) (.apart pdu.trans 0)
    env.stale pdu.nonce (labelByte pdu.aad) (labelLen pdu.aad) pdu.micSize out
    (CipherBuffers.apart_streams _ _) whole reads isMicSize room small
    (labelLen_short pdu.aad) false
  rw [decryptWith] at accepts isText
  dsimp only at accepts isText
  rw [isValue, decrypted] at accepts isText
  dsimp only at accepts isText
  rw [CipherBuffers.writeAll_apart] at isText
  rw [Bool.false_or, decide_eq_true_eq] at accepts
  refine ⟨?_, accepts⟩
  have plainLength := @length_ccmPlain (env.aes key) pdu.nonce pdu.micSize whole
  apply ext_get
  · rw [isText, plainLength, List.length_take, length_splice]
    omega
  · intro i inside
    rw [isText, List.length_take, length_splice] at inside
    rw [isText, get_take (by omega), get_splice_inside (by omega) (by omega)
      (by omega), Nat.sub_zero]

/-! ### Application keys -/

/-- The two copies of a key. -/
def MeshAppKey.HasCopy (appKey : MeshAppKey) (parts : AppKeyParts) : Prop :=
  parts = appKey.current ∨ parts = appKey.new

theorem length_decryptCopy (parts : AppKeyParts) (status : Bool)
    (before : AppDecrypt) :
    (decryptCopy env pdu parts status before).2.outMsg.length =
      before.outMsg.length := by
  rw [decryptCopy]
  split
  next => exact length_decryptWith _ _
  next => rfl

theorem decryptCopy_opens {parts : AppKeyParts} {before : AppDecrypt}
    (length : before.outMsg.length = pdu.len.value.toNat)
    (succeeds : (decryptCopy env pdu parts false before).1 = true) :
    Opens env pdu parts.key
      (decryptCopy env pdu parts false before).2.outMsg := by
  rw [decryptCopy] at succeeds ⊢
  split at succeeds
  next tries =>
    rw [if_pos tries]
    exact ⟨before.outMsg, length, succeeds, rfl⟩
  next => cases succeeds

theorem length_tryDecrypt (before : AppDecrypt) (appKey : MeshAppKey) :
    (tryDecrypt env pdu before appKey).outMsg.length =
      before.outMsg.length := by
  rw [tryDecrypt]
  split
  next => rfl
  next =>
    dsimp only
    split
    · exact (length_decryptCopy _ _ _).trans (length_decryptCopy _ _ _)
    · exact (length_decryptCopy _ _ _).trans (length_decryptCopy _ _ _)

theorem tryDecrypt_opens {before : AppDecrypt} {appKey : MeshAppKey}
    (length : before.outMsg.length = pdu.len.value.toNat)
    (unknown : before.appIdx = appIdxInvalid)
    (known : (tryDecrypt env pdu before appKey).appIdx ≠ appIdxInvalid) :
    (tryDecrypt env pdu before appKey).appIdx = appKey.idx ∧
      ∃ parts, appKey.HasCopy parts ∧
        Opens env pdu parts.key (tryDecrypt env pdu before appKey).outMsg := by
  have first := @decryptCopy_tried env pdu appKey.current false before
  have second := @decryptCopy_tried env pdu appKey.new
    (decryptCopy env pdu appKey.current false before).1
    (decryptCopy env pdu appKey.current false before).2
  rw [tryDecrypt] at known ⊢
  split at known
  next => exact absurd unknown known
  next tries =>
    rw [if_neg tries]
    dsimp only at known ⊢
    split at known
    next succeeds =>
      rw [if_pos succeeds]
      refine ⟨rfl, ?_⟩
      by_cases done : (decryptCopy env pdu appKey.current false before).1 = true
      · -- The other copy is left alone.
        refine ⟨appKey.current, Or.inl rfl, ?_⟩
        have skipped : decryptCopy env pdu appKey.new
            (decryptCopy env pdu appKey.current false before).1
            (decryptCopy env pdu appKey.current false before).2 =
            ((decryptCopy env pdu appKey.current false before).1,
              (decryptCopy env pdu appKey.current false before).2) := by
          rw [decryptCopy, if_neg (by simp [done])]
        rw [skipped]
        exact decryptCopy_opens length done
      · refine ⟨appKey.new, Or.inr rfl, ?_⟩
        rw [Bool.eq_false_of_not_eq_true done] at succeeds ⊢
        exact decryptCopy_opens ((length_decryptCopy _ _ _).trans length) succeeds
    next =>
      exact absurd (second.appIdx.trans (first.appIdx.trans unknown)) known

theorem foldl_tryDecrypt_opens {before : AppDecrypt}
    (length : before.outMsg.length = pdu.len.value.toNat)
    (unknown : before.appIdx = appIdxInvalid) (appKeys : List MeshAppKey)
    (known : (appKeys.foldl (tryDecrypt env pdu) before).appIdx ≠
      appIdxInvalid) :
    ∃ appKey ∈ appKeys,
      (appKeys.foldl (tryDecrypt env pdu) before).appIdx = appKey.idx ∧
      ∃ parts, appKey.HasCopy parts ∧ Opens env pdu parts.key
        (appKeys.foldl (tryDecrypt env pdu) before).outMsg := by
  induction appKeys generalizing before with
  | nil => exact absurd unknown known
  | cons appKey rest induction =>
      rw [List.foldl_cons] at known ⊢
      by_cases here : (tryDecrypt env pdu before appKey).appIdx = appIdxInvalid
      · rcases induction ((length_tryDecrypt before appKey).trans length) here
          known with ⟨other, inRest, opened⟩
        exact ⟨other, List.mem_cons_of_mem _ inRest, opened⟩
      · rw [foldl_tryDecrypt_known here]
        exact ⟨appKey, List.mem_cons_self, tryDecrypt_opens length unknown here⟩

theorem accessPktDecrypt_opens {appKeys : List MeshAppKey}
    (known : (accessPktDecrypt env pdu appKeys).appIdx ≠ appIdxInvalid) :
    ∃ appKey ∈ appKeys,
      (accessPktDecrypt env pdu appKeys).appIdx = appKey.idx ∧
      ∃ parts, appKey.HasCopy parts ∧ Opens env pdu parts.key
        (accessPktDecrypt env pdu appKeys).outMsg :=
  foldl_tryDecrypt_opens (by simp) rfl appKeys known

end Decrypt

/-! ## Deliveries of `msg_rxed` -/

section Message

variable {env : RxEnv} {st : NetState} {message : HandedMessage}
  {access : DeliveredAccess}

/-- A key, and a label, that the message can be delivered with. -/
inductive MessageKey (st : NetState) (message : HandedMessage)
    (access : DeliveredAccess) : Key → Option Key → Prop where
  | device {key : Key} (isDevice : transAkf message.data = false)
      (appIdx : access.appIdx = appIdxDev) (known : key ∈ deviceKeys st message) :
      MessageKey st message access key none
  | application {appKey : MeshAppKey} {parts : AppKeyParts}
      (isApplication : transAkf message.data = true)
      (unlabelled : isVirtual message.dst = false)
      (known : appKey ∈ st.appKeys) (appIdx : access.appIdx = appKey.idx)
      (copy : appKey.HasCopy parts) :
      MessageKey st message access parts.key none
  | labelled {appKey : MeshAppKey} {parts : AppKeyParts} {virt : MeshVirtAddr}
      (isApplication : transAkf message.data = true)
      (isLabel : virt.va16 = message.dst) (registered : virt ∈ st.virtAddrs)
      (dst : access.dst = virt.va32)
      (known : appKey ∈ st.appKeys) (appIdx : access.appIdx = appKey.idx)
      (copy : appKey.HasCopy parts) :
      MessageKey st message access parts.key (some virt.va128)

/-- Whether the message goes through `virtual_rxed`. -/
def HandedMessage.usesLabel (message : HandedMessage) : Bool :=
  transAkf message.data && isVirtual message.dst

/-- Where `msg_rxed` takes the arguments of the upper layer from. -/
structure DeliveredFrom (env : RxEnv) (st : NetState) (message : HandedMessage)
    (len : Length) (access : DeliveredAccess) : Prop where
  src : access.src = if message.usesLabel then message.dst else message.src
  ivIndex : access.ivIndex = message.ivIndex
  seqNum : access.seqNum = message.seqNum
  size : access.len = (accessPdu message len).msgLen.value
  opened : ∃ key label, MessageKey st message access key label ∧
    Opens env { accessPdu message len with aad := label } key access.data

theorem deviceRxed_delivered {pdu : AccessPdu} {result : Bool} {out : List Byte}
    {keys : List Key} (length : out.length = pdu.len.value.toNat)
    (delivered : (deviceRxed env message pdu result out keys).delivered =
      some access) :
    access.src = message.src ∧ access.ivIndex = message.ivIndex ∧
      access.seqNum = message.seqNum ∧ access.appIdx = appIdxDev ∧
      access.len = pdu.msgLen.value ∧
      ∃ key ∈ keys, Opens env pdu key access.data := by
  induction keys generalizing result out with
  | nil => cases delivered
  | cons key rest induction =>
      rw [deviceRxed] at delivered
      dsimp only at delivered
      split at delivered
      next accepts =>
        have isAccess := Option.some_inj.mp delivered
        subst isAccess
        exact ⟨rfl, rfl, rfl, rfl, rfl, key, List.mem_cons_self, out, length,
          accepts, rfl⟩
      next =>
        rcases induction ((length_decryptWith key out).trans length) delivered
          with ⟨src, ivIndex, seqNum, appIdx, size, other, inRest, opens⟩
        exact ⟨src, ivIndex, seqNum, appIdx, size, other,
          List.mem_cons_of_mem _ inRest, opens⟩

theorem appRx_delivered {pdu : AccessPdu} {src : U16} {dst : U32}
    {appKeys : List MeshAppKey}
    (delivered : (appRx message pdu src dst
      (accessPktDecrypt env pdu appKeys)).delivered = some access) :
    access.src = src ∧ access.dst = dst ∧ access.ivIndex = message.ivIndex ∧
      access.seqNum = message.seqNum ∧ access.len = pdu.msgLen.value ∧
      ∃ appKey ∈ appKeys, access.appIdx = appKey.idx ∧
        ∃ parts, appKey.HasCopy parts ∧
          Opens env pdu parts.key access.data := by
  rw [appRx] at delivered
  split at delivered
  next known =>
    have isAccess := Option.some_inj.mp delivered
    subst isAccess
    exact ⟨rfl, rfl, rfl, rfl, rfl, accessPktDecrypt_opens known⟩
  next => cases delivered

/-- Some label was the first that a key was found with. -/
theorem foldl_tryVirtDecrypt_delivered {pdu : AccessPdu}
    (virtAddrs : List MeshVirtAddr) {rx : MsgRx} (none : rx.delivered = none)
    (delivered : (virtAddrs.foldl (tryVirtDecrypt env st message pdu)
      rx).delivered = some access) :
    ∃ virt ∈ virtAddrs, virt.va16 = message.dst ∧
      (appRx message { pdu with aad := some virt.va128 } message.dst virt.va32
        (accessPktDecrypt env { pdu with aad := some virt.va128 }
          st.appKeys)).delivered = some access := by
  induction virtAddrs generalizing rx with
  | nil =>
      rw [List.foldl_nil, none] at delivered
      cases delivered
  | cons virt rest induction =>
      rw [List.foldl_cons] at delivered
      by_cases here : (tryVirtDecrypt env st message pdu rx virt).delivered =
        Option.none
      · rcases induction here delivered with ⟨other, inRest, found⟩
        exact ⟨other, List.mem_cons_of_mem _ inRest, found⟩
      · refine ⟨virt, List.mem_cons_self, ?_⟩
        rw [tryVirtDecrypt] at here
        split at here
        next => exact absurd none here
        next tries =>
          have isLabel : virt.va16 = message.dst := by
            by_contra apart
            exact tries (by simp [Ne.symm apart])
          have done :
              (tryVirtDecrypt env st message pdu rx virt).result = true := by
            rw [tryVirtDecrypt, if_neg tries]
            dsimp only at here ⊢
            rw [appRx] at here ⊢
            split at here
            next known => rw [if_pos known]
            next => exact absurd rfl here
          have stays : rest.foldl (tryVirtDecrypt env st message pdu)
              (tryVirtDecrypt env st message pdu rx virt) =
              tryVirtDecrypt env st message pdu rx virt := by
            apply List.foldl_fixed'
            intro other
            rw [tryVirtDecrypt, if_pos (by simp [done])]
          rw [stays, tryVirtDecrypt, if_neg tries] at delivered
          exact ⟨isLabel, delivered⟩

theorem msgRxed_delivered {len : Length}
    (delivered : (msgRxed env st message len).delivered = some access) :
    DeliveredFrom env st message len access := by
  rw [msgRxed] at delivered
  dsimp only at delivered
  split at delivered
  next notAkf =>
    have isDevice : transAkf message.data = false := by simpa using notAkf
    rcases deviceRxed_delivered (by simp) delivered with
      ⟨src, ivIndex, seqNum, appIdx, size, key, known, opens⟩
    have noLabel : message.usesLabel = false := by
      rw [HandedMessage.usesLabel, isDevice, Bool.false_and]
    exact ⟨by rw [src, noLabel]; rfl, ivIndex, seqNum, size, key, none,
      .device isDevice appIdx known, opens⟩
  next notDevice =>
    have isApplication : transAkf message.data = true := by simpa using notDevice
    split at delivered
    next labelled =>
      have usesLabel : message.usesLabel = true := by
        rw [HandedMessage.usesLabel, isApplication, labelled, Bool.true_and]
      rcases foldl_tryVirtDecrypt_delivered st.virtAddrs rfl delivered with
        ⟨virt, registered, isLabel, found⟩
      rcases appRx_delivered found with ⟨src, dst, ivIndex, seqNum, size, appKey,
        known, appIdx, parts, copy, opens⟩
      exact ⟨by rw [src, usesLabel]; rfl, ivIndex, seqNum, size, parts.key,
        some virt.va128,
        .labelled isApplication isLabel registered dst known appIdx copy, opens⟩
    next unlabelled =>
      have notVirtual : isVirtual message.dst = false :=
        Bool.eq_false_of_not_eq_true unlabelled
      have noLabel : message.usesLabel = false := by
        rw [HandedMessage.usesLabel, notVirtual, Bool.and_false]
      rcases appRx_delivered delivered with ⟨src, _, ivIndex, seqNum, size,
        appKey, known, appIdx, parts, copy, opens⟩
      exact ⟨by rw [src, noLabel]; rfl, ivIndex, seqNum, size, parts.key, none,
        .application isApplication notVirtual known appIdx copy, opens⟩

end Message

/-! ## Access messages of packets -/

/-- An access message, the decoded packet that completed it, and what is stored
of its transport PDU. -/
structure ReceivedAccess where
  packet : RxPacket
  msg : List Byte
  message : HandedMessage
  len : Length
  stored : List Byte

namespace ReceivedAccess

variable (received : ReceivedAccess)

/-- The encrypted access payload and its MIC. -/
def pdu : List Byte :=
  (received.stored.take received.message.len.toNat).drop 1

def micSize : Nat := if received.message.szmic then 8 else 4

/-- The only argument of `node_local_data_handler` that is not the message. -/
def delivered (env : RxEnv) (st : NetState) : Option DeliveredAccess :=
  (msgRxed env st received.message received.len).delivered

end ReceivedAccess

section Packet

variable (env : RxEnv)

/-- A record stores an octet and twelve bytes for each segment. -/
def reassembledAccess (packet : RxPacket) (msg : List Byte) (segN : Nat)
    (message : HandedMessage) : Option ReceivedAccess :=
  if message.ctl then
    none
  else
    some
      { packet, msg, message, len := ⟨message.len, []⟩
        stored := message.data.take (13 + 12 * segN) }

/-- What `net_data_ready` hands to `msg_rxed`. -/
def packetAccess (netIdx : U16) (packet : RxPacket) (msg : List Byte)
    (st : NetState) : Option ReceivedAccess :=
  if packet.proxy || pktCtl msg && pktOpcode msg = netOpSegAcknowledge then
    none
  else if pktSegmented msg then
    let pkt := packetSegment netIdx packet.ivIndex msg packet.size
    (segRxed env.net (msgReceiver env) pkt st).observation.handed.bind
      (reassembledAccess packet msg pkt.segN.toNat)
  else if !pktCtl msg then
    some
      { packet, msg
        message := packetMessage netIdx packet.ivIndex msg packet.size
        len := packetTransLen msg packet.size, stored := pktTrans msg }
  else
    none

def receivedAccess (st : NetState) : RxInput → Option ReceivedAccess
  | .data msg len =>
      if 10 ≤ len.toNat ∧ get msg 0 = proxyMeshBeacon then
        none
      else
        (rxPacket st.ivIndex msg len).bind fun packet =>
          let decode := netPacketDecode env.toDecodeEnv st.netKeys packet
          decode.netKey.bind fun netKey =>
            packetAccess env netKey.idx packet decode.packet st
  | _ => none

/-- What a step delivers. -/
def deliveredAccess (st : NetState) (input : RxInput) :
    Option DeliveredAccess :=
  (receivedAccess env st input).bind (·.delivered env st)

end Packet

/-! ### Nothing else is delivered -/

section Upper

variable {env : RxEnv} {st : NetState} {pkt : SegmentPdu}

/-- Another upper layer in the place of the one of `env`. -/
def RxEnv.withUpper (env : RxEnv)
    (deliver : DeliveredAccess → NetState → NetState)
    (keepsSarIn : ∀ access st, (deliver access st).sarIn = st.sarIn) : RxEnv where
  toDecodeEnv := env.toDecodeEnv
  net := env.net
  deliver := deliver
  keepsSarIn := keepsSarIn

variable {deliver : DeliveredAccess → NetState → NetState}
  {keepsSarIn : ∀ access st, (deliver access st).sarIn = st.sarIn}

theorem deviceRxed_withUpper (message : HandedMessage) (pdu : AccessPdu)
    (result : Bool) (out : List Byte) (keys : List Key) :
    deviceRxed (env.withUpper deliver keepsSarIn) message pdu result out keys =
      deviceRxed env message pdu result out keys := by
  induction keys generalizing result out with
  | nil => rfl
  | cons key rest induction =>
      rw [deviceRxed, deviceRxed, induction]
      rfl

theorem msgRxed_withUpper (st : NetState) (message : HandedMessage)
    (len : Length) :
    msgRxed (env.withUpper deliver keepsSarIn) st message len =
      msgRxed env st message len := by
  rw [msgRxed, msgRxed, deviceRxed_withUpper]
  rfl

/-- A receiver matters only for the message that is handed to it. -/
theorem segRxed_receiver {netEnv : NetEnv} {first second : MsgReceiver}
    (same : ∀ message, (segRxed netEnv first pkt st).observation.handed =
      some message → message.ctl = false → ∀ sarIn,
      first.receive message { st with sarIn } =
        second.receive message { st with sarIn }) :
    segRxed netEnv first pkt st = segRxed netEnv second pkt st := by
  by_cases stale : pkt.Stale st
  · rw [segRxed_stale stale, segRxed_stale stale]
  · rcases sarForSegment_spec stale with ⟨sar, sarIn, selected, _⟩
    have handed : (segRxed netEnv first pkt st).observation.handed =
        if completes pkt sar then some (handedMessage pkt (storeSegment pkt sar))
        else none := by
      simp only [segRxed, selected]
      rfl
    have sameHandUp : handUp first (if completes pkt sar then
          some (handedMessage pkt (storeSegment pkt sar)) else none)
          (storeSegment pkt sar)
          (({ st with sarIn } : NetState).setSarIn (storeSegment pkt sar)) =
        handUp second (if completes pkt sar then
          some (handedMessage pkt (storeSegment pkt sar)) else none)
          (storeSegment pkt sar)
          (({ st with sarIn } : NetState).setSarIn (storeSegment pkt sar)) := by
      rw [← handed]
      cases isHanded : (segRxed netEnv first pkt st).observation.handed with
      | none => rfl
      | some message =>
          rw [handUp, handUp]
          cases isCtl : message.ctl with
          | true => rfl
          | false =>
              have sameAnswer := same message isHanded isCtl
                (sarIn.set (storeSegment pkt sar))
              rw [NetState.setSarIn]
              dsimp only
              rw [sameAnswer]
    rw [completes] at sameHandUp
    simp only [segRxed, selected]
    rw [sameHandUp]

theorem segmentRxed_withUpper {rx : RxState} {packet : RxPacket}
    {msg : List Byte} {len : Length}
    (same : ∀ message, (segRxed env.net (msgReceiver env) pkt
      rx.net).observation.handed = some message →
      ∀ received ∈ reassembledAccess packet msg pkt.segN.toNat message,
      ∀ access ∈ received.delivered env rx.net,
        deliver access = env.deliver access) :
    segmentRxed (env.withUpper deliver keepsSarIn) pkt len rx =
      segmentRxed env pkt len rx := by
  have sameSegment : segRxed env.net (msgReceiver env) pkt rx.net =
      segRxed env.net (msgReceiver (env.withUpper deliver keepsSarIn)) pkt
        rx.net := by
    apply segRxed_receiver
    intro message handed notCtl sarIn
    have isReceived : reassembledAccess packet msg pkt.segN.toNat message =
        some { packet, msg, message, len := ⟨message.len, []⟩
               stored := message.data.take (13 + 12 * pkt.segN.toNat) } :=
      if_neg (by simp [notCtl])
    have sameDeliver := same message handed _ isReceived
    -- The records are not looked at to decrypt a message.
    have sameKeys : msgRxed env { rx.net with sarIn } message
        ⟨message.len, []⟩ = msgRxed env rx.net message ⟨message.len, []⟩ := rfl
    simp only [msgReceiver, msgRxed_withUpper, sameKeys]
    cases delivered :
        (msgRxed env rx.net message ⟨message.len, []⟩).delivered with
    | none => rfl
    | some access =>
        simp only [Option.elim_some]
        rw [← sameDeliver access delivered]
        rfl
  have sameUses : handedUses (env.withUpper deliver keepsSarIn) rx.net =
      handedUses env rx.net := by
    funext taken message
    rw [handedUses, handedUses, msgRxed_withUpper]
  rw [segmentRxed, segmentRxed, sameUses, sameSegment]
  rfl

theorem packetRxed_withUpper {rx : RxState} {netIdx : U16} {packet : RxPacket}
    {msg : List Byte}
    (same : ∀ received ∈ packetAccess env netIdx packet msg rx.net,
      ∀ access ∈ received.delivered env rx.net,
        deliver access = env.deliver access) :
    packetRxed (env.withUpper deliver keepsSarIn) netIdx packet msg rx =
      packetRxed env netIdx packet msg rx := by
  rw [packetAccess] at same
  rw [packetRxed, packetRxed]
  dsimp only at same ⊢
  by_cases proxy : packet.proxy = true
  · rw [if_pos proxy, if_pos proxy]
  · rw [if_neg proxy, if_neg proxy]
    by_cases isAck :
        (pktCtl msg && pktOpcode msg = netOpSegAcknowledge) = true
    · rw [if_pos isAck, if_pos isAck]
      rfl
    · rw [if_neg (by simp [proxy, isAck])] at same
      rw [if_neg isAck, if_neg isAck]
      by_cases segmented : pktSegmented msg = true
      · rw [if_pos segmented] at same
        rw [if_pos segmented, if_pos segmented]
        apply segmentRxed_withUpper
        intro message handed received isReceived
        exact same received (Option.mem_bind_iff.mpr ⟨message, handed, isReceived⟩)
      · rw [if_neg segmented] at same
        rw [if_neg segmented, if_neg segmented]
        by_cases isAccess : (!pktCtl msg) = true
        · rw [if_pos isAccess] at same
          have sameDelivered := same _ rfl
          rw [if_pos isAccess, if_pos isAccess, msgRxed_withUpper]
          cases delivered : (msgRxed env rx.net
              (packetMessage netIdx packet.ivIndex msg packet.size)
              (packetTransLen msg packet.size)).delivered with
          | none => rfl
          | some access =>
              simp only [Option.elim_some]
              rw [← sameDelivered access delivered]
              rfl
        · rw [if_neg isAccess, if_neg isAccess]

/-- A step depends on what the upper layer does with the delivered message, and
on nothing else that it does. -/
theorem rxStep_withUpper {rx : RxState} {input : RxInput}
    (same : ∀ access ∈ deliveredAccess env rx.net input,
      deliver access = env.deliver access) :
    rxStep (env.withUpper deliver keepsSarIn) rx input = rxStep env rx input := by
  cases input with
  | ackTimeout src => rfl
  | msgTimeout src => rfl
  | other input => rfl
  | data msg len =>
      change netDataReady _ msg len rx = netDataReady env msg len rx
      rw [deliveredAccess, receivedAccess] at same
      rw [netDataReady, netDataReady]
      split
      next => rfl
      next notBeacon =>
        rw [if_neg notBeacon] at same
        cases isPacket : rxPacket rx.net.ivIndex msg len with
        | none => rfl
        | some packet =>
            rw [isPacket, Option.bind_some] at same
            dsimp only at same ⊢
            rw [packetReady, packetReady]
            dsimp only
            have sameDecode : (env.withUpper deliver keepsSarIn).toDecodeEnv =
                env.toDecodeEnv := rfl
            rw [sameDecode]
            cases found : (netPacketDecode env.toDecodeEnv rx.net.netKeys
                packet).netKey with
            | none => rfl
            | some netKey =>
                rw [found, Option.bind_some] at same
                dsimp only
                rw [packetRxed_withUpper]
                intro received isReceived access delivered
                exact same access
                  (Option.mem_bind_iff.mpr ⟨received, isReceived, delivered⟩)

end Upper

/-! ## What is reported -/

namespace ReceivedAccess

variable (received : ReceivedAccess)

/-- What the message is decrypted with, but for the key. -/
def accessPdu : AccessPdu := Net.accessPdu received.message received.len

/-- The payload of the message as `key` decrypts it. -/
def payload (env : RxEnv) (key : Key) : List Byte :=
  ccmPlain (env.aes key) received.accessPdu.nonce received.micSize received.pdu

/-- The MIC is that of the payload. -/
def Authentic (env : RxEnv) (key : Key) (label : Option Key) : Prop :=
  received.pdu.drop (received.pdu.length - received.micSize) =
    sentTag (env.aes key) received.accessPdu.nonce (labelByte label)
      (labelLen label) received.micSize (received.payload env key)

/-- The data and the length are those of the decrypted payload, without the
MIC. No payload at all is not authenticated. -/
structure IsPayload (env : RxEnv) (st : NetState) (access : DeliveredAccess) :
    Prop where
  room : received.micSize ≤ received.pdu.length
  size : access.len.toNat = received.pdu.length - received.micSize
  decrypted : ∃ key label, MessageKey st received.message access key label ∧
    access.data.take access.len.toNat = received.payload env key ∧
    (access.len ≠ 0 → received.Authentic env key label)

/-- `access` tells of the packet that completed the message. -/
structure Reports (env : RxEnv) (st : NetState) (access : DeliveredAccess) :
    Prop where
  src : access.src = pktSrc received.msg
  ivIndex : access.ivIndex = received.packet.ivIndex
  seqNum : access.seqNum = pktSeq received.msg
  payload : received.IsPayload env st access

/-- What is wrong with no message: it is not to a label, unless that is also its
source, and what is stored of it has room for the header and the MIC, and for
all that its length says. -/
structure Reportable : Prop where
  source : received.message.usesLabel = true →
    pktSrc received.msg = received.message.dst
  room : 1 + received.micSize ≤ received.message.len.toNat
  stored : received.message.len.toNat ≤ received.stored.length

/-- The message agrees with the packet that completed it. -/
structure Completed : Prop where
  src : received.message.src = pktSrc received.msg
  ivIndex : received.message.ivIndex = received.packet.ivIndex
  seqNum : received.message.seqNum = pktSeq received.msg
  first : transSegmented received.message.data = false
  len : received.len.value = received.message.len
  stored : received.stored <+: received.message.data

end ReceivedAccess

section Reported

variable {env : RxEnv} {st : NetState} {received : ReceivedAccess}
  {access : DeliveredAccess}

theorem ReceivedAccess.length_pdu (received : ReceivedAccess) :
    received.pdu.length =
      min received.message.len.toNat received.stored.length - 1 := by
  rw [ReceivedAccess.pdu, List.length_drop, List.length_take]

theorem ReceivedAccess.micSize_eq (received : ReceivedAccess) :
    received.accessPdu.micSize = received.micSize := rfl

theorem ReceivedAccess.micSize_cases (received : ReceivedAccess) :
    received.micSize = 4 ∨ received.micSize = 8 := by
  rw [ReceivedAccess.micSize]
  cases received.message.szmic
  · exact Or.inl rfl
  · exact Or.inr rfl

/-- The lengths that `msg_rxed` subtracts the header and the MIC from. -/
theorem ReceivedAccess.Completed.toNat_len (completed : received.Completed)
    (room : 1 + received.micSize ≤ received.message.len.toNat) :
    received.accessPdu.len.value.toNat = received.message.len.toNat - 1 ∧
      received.accessPdu.msgLen.value.toNat =
        received.message.len.toNat - 1 - received.micSize := by
  have header : transHeader received.message.data = 1 := by
    rw [transHeader, completed.first]
    rfl
  have behind : received.accessPdu.len.value.toNat =
      received.message.len.toNat - 1 := by
    rw [← completed.len] at room ⊢
    change (received.len.sub (transHeader received.message.data)).value.toNat = _
    rw [header]
    exact toNat_sub_size (by omega)
  refine ⟨behind, ?_⟩
  rw [← behind]
  exact toNat_sub_size (by rw [behind, received.micSize_eq]; omega)

/-- What is read behind the header is what is stored there. -/
theorem ReceivedAccess.Completed.get_trans (completed : received.Completed)
    {index : Nat} (inside : index < received.pdu.length) :
    get received.accessPdu.trans index = get received.pdu index := by
  have header : transHeader received.message.data = 1 := by
    rw [transHeader, completed.first]
    rfl
  have length := received.length_pdu
  rcases completed.stored with ⟨rest, isData⟩
  change get (received.message.data.drop (transHeader received.message.data))
    index = get ((received.stored.take received.message.len.toNat).drop 1) index
  rw [header, get_drop, get_drop, get_take (by omega), ← isData,
    get_append_left (by omega)]

/-- A message that is delivered is reported as it is if and only if nothing is
wrong with it. -/
theorem ReceivedAccess.Completed.reports_iff (completed : received.Completed)
    (delivered : received.delivered env st = some access) :
    received.Reports env st access ↔ received.Reportable := by
  have origin := msgRxed_delivered delivered
  have length := received.length_pdu
  have isMicSize := received.micSize_cases
  constructor
  · intro reports
    have room := reports.payload.room
    have size := reports.payload.size
    have enough : 1 + received.micSize ≤ received.message.len.toNat := by omega
    have isLen := (completed.toNat_len enough).2
    rw [origin.size] at size
    change received.accessPdu.msgLen.value.toNat = _ at size
    constructor
    · intro usesLabel
      rw [← reports.src, origin.src, if_pos usesLabel]
    · exact enough
    · omega
  · intro reportable
    have enough := reportable.room
    have stored := reportable.stored
    rcases completed.toNat_len enough with ⟨wholeLen, isLen⟩
    have isPdu : received.pdu.length = received.message.len.toNat - 1 := by omega
    have size : access.len.toNat =
        received.pdu.length - received.micSize := by
      rw [origin.size, isPdu]
      exact isLen
    rcases origin.opened with ⟨key, label, known, opens⟩
    constructor
    · rw [origin.src]
      split
      next usesLabel => exact (reportable.source usesLabel).symm
      next => exact completed.src
    · rw [origin.ivIndex, completed.ivIndex]
    · rw [origin.seqNum, completed.seqNum]
    · constructor
      · omega
      · exact size
      · refine ⟨key, label, known, ?_⟩
        by_cases empty : received.pdu.length = received.micSize
        · have none : access.len.toNat = 0 := by omega
          constructor
          · rw [none, ReceivedAccess.payload, ccmPlain, empty, Nat.sub_self]
            rfl
          · intro nonempty
            exact absurd (BitVec.eq_of_toNat_eq none) nonempty
        · have decrypted := opens.take_eq (wholeLen.trans isPdu.symm)
            (fun _ inside => completed.get_trans inside)
            (Nat.lt_of_le_of_ne (by change received.micSize ≤ _; omega)
              (Ne.symm empty))
          rw [size]
          exact ⟨decrypted.1, fun _ => decrypted.2⟩

end Reported

instance (received : ReceivedAccess) : Decidable received.Reportable :=
  decidable_of_iff ((received.message.usesLabel = true →
      pktSrc received.msg = received.message.dst) ∧
      1 + received.micSize ≤ received.message.len.toNat ∧
      received.message.len.toNat ≤ received.stored.length)
    ⟨fun ⟨source, room, stored⟩ => ⟨source, room, stored⟩,
      fun ⟨source, room, stored⟩ => ⟨source, room, stored⟩⟩

/-! ## Runs -/

section Runs

variable {env : RxEnv} {rx : RxState}

theorem packetAccess_completed (fits : RecordsFit rx) {netIdx : U16}
    {packet : RxPacket} {msg : List Byte} {received : ReceivedAccess}
    (isReceived : packetAccess env netIdx packet msg rx.net = some received) :
    received.packet = packet ∧ received.msg = msg ∧ received.Completed := by
  rw [packetAccess] at isReceived
  split at isReceived
  next => cases isReceived
  next =>
    split at isReceived
    next =>
      rcases Option.bind_eq_some_iff.mp isReceived with
        ⟨message, handed, reassembled⟩
      rw [reassembledAccess] at reassembled
      split at reassembled
      next => cases reassembled
      next notCtl =>
        generalize isPkt : packetSegment netIdx packet.ivIndex msg packet.size =
          pkt at handed reassembled
        have isSrc : pkt.src = pktSrc msg := isPkt ▸ rfl
        have isIvIndex : pkt.ivIndex = packet.ivIndex := isPkt ▸ rfl
        have isSeq : pkt.seqNum = pktSeq msg := isPkt ▸ rfl
        by_cases stale : pkt.Stale rx.net
        · rw [segRxed_stale stale] at handed
          cases handed
        · rcases @segRxed_spec env.net (msgReceiver env) pkt rx.net stale with
            ⟨sar, record, stored⟩
          rw [stored.handed] at handed
          split at handed
          next =>
            have continues := record.continues
            have isMessage := Option.some_inj.mp handed
            rw [← Option.some_inj.mp reassembled, ← isMessage]
            have access : pkt.ctl = false := by
              rw [← isMessage] at notCtl
              exact Bool.eq_false_of_not_eq_true notCtl
            refine ⟨rfl, rfl, ?_⟩
            constructor
            · exact (storeSegment_src sar).trans (continues.src.trans isSrc)
            · change (storeSegment pkt sar).ivIndex = packet.ivIndex
              rw [storeSegment_eq]
              exact continues.ivIndex.trans isIvIndex
            · exact (if_neg (by simp [access])).trans isSeq
            · refine (transSegmented_storeSegment sar).trans ?_
              rcases record with ⟨found, _⟩ | ⟨_, isNew⟩
              · exact (fits pkt.src sar found).first
              · exact isNew ▸ transSegmented_newSar pkt
            · rfl
            · exact List.take_prefix _ _
          next => cases handed
    next notSegmented =>
      split at isReceived
      next =>
        rw [← Option.some_inj.mp isReceived]
        refine ⟨rfl, rfl, ?_⟩
        constructor
        · rfl
        · rfl
        · rfl
        · change decide (get (msg.drop 9) 0 &&& 0x80 ≠ 0) = false
          rw [get_drop]
          exact Bool.eq_false_of_not_eq_true notSegmented
        · rfl
        · exact List.prefix_refl _
      next => cases isReceived

theorem receivedAccess_completed (fits : RecordsFit rx) {input : RxInput}
    {received : ReceivedAccess}
    (isReceived : receivedAccess env rx.net input = some received) :
    received.Completed := by
  cases input with
  | ackTimeout src => cases isReceived
  | msgTimeout src => cases isReceived
  | other input => cases isReceived
  | data msg len =>
      rw [receivedAccess] at isReceived
      split at isReceived
      next => cases isReceived
      next =>
        rcases Option.bind_eq_some_iff.mp isReceived with ⟨packet, _, decoded⟩
        rcases Option.bind_eq_some_iff.mp decoded with ⟨netKey, _, isAccess⟩
        exact (packetAccess_completed fits isAccess).2.2

/-- The lengths of a message that is not segmented are never wrong. -/
theorem packetAccess_unsegmented {netIdx : U16} {packet : RxPacket}
    {msg : List Byte} {received : ReceivedAccess} {access : DeliveredAccess}
    (ends : EndsInZeros msg packet.size.toNat)
    (filled : packet.size.toNat ≤ msg.length)
    (unsegmented : pktSegmented msg = false)
    (fits : RecordsFit rx)
    (isReceived : packetAccess env netIdx packet msg rx.net = some received)
    (delivered : received.delivered env rx.net = some access) :
    1 + received.micSize ≤ received.message.len.toNat ∧
      received.message.len.toNat ≤ received.stored.length := by
  have completed := (packetAccess_completed fits isReceived).2.2
  rcases (msgRxed_delivered delivered).opened with ⟨_, _, _, _, _, accepts, _⟩
  have accepted := decryptWith_accepts accepts
  rw [packetAccess] at isReceived
  split at isReceived
  next => cases isReceived
  next =>
    rw [if_neg (by simp [unsegmented])] at isReceived
    split at isReceived
    next notCtl =>
      have isAccess : pktCtl msg = false := by simpa using notCtl
      have room := ends.room_access isAccess
      have isReceived := (Option.some_inj.mp isReceived).symm
      have isLen : received.message.len.toNat = transSize msg packet.size := by
        rw [isReceived]
        exact ends.toNat_transLen (Nat.le_of_succ_le room)
      have isMicSize : received.micSize = 4 := by
        rw [isReceived]
        rfl
      have isStored : received.stored.length = msg.length - 9 := by
        rw [isReceived]
        exact List.length_drop
      have header : transHeader received.message.data = 1 := by
        rw [transHeader, completed.first]
        rfl
      have value : received.accessPdu.len.value.toNat =
          received.message.len.toNat - 1 := by
        change (received.len.sub
          (transHeader received.message.data)).value.toNat = _
        rw [header, ← completed.len]
        apply toNat_sub_size
        rw [completed.len, isLen, transSize]
        omega
      change 5 ≤ received.accessPdu.len.value.toNat at accepted
      rw [value] at accepted
      rw [isMicSize, isStored]
      rw [transSize] at isLen
      omega
    next => cases isReceived

end Runs

/-! ### A message to a label -/

def thisAppKey : MeshAppKey where
  idx := 0
  netIdx := 0
  current := { key := 7, akfAid := 0x40 }
  new := { key := 0, akfAid := 0xff }

def thisLabel : MeshVirtAddr where
  va16 := 0x8001
  va32 := 0x10000
  va128 := 9

def labelledNode : NetState :=
  { oneKeyNode with appKeys := [thisAppKey], virtAddrs := [thisLabel] }

/-- Three bytes from node 2, with the number 1. -/
def threeBytesTo (dst : U16) (label : Option Key) : RxInput :=
  .data (0x00 :: (packetEncode addKey .zero
    ([0x01, 0x05, 0x00, 0x00, 0x01, 0x00, 0x02] ++ be16 dst ++ [0x40] ++
      applicationEncrypt addKey .zero 0x40 1 2 dst 0 7 label [1, 2, 3] 3 ++
      List.replicate 4 0) 21 0 0 0).2) 22

end Meshctl.Net
