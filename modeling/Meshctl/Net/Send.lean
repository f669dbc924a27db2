import Meshctl.Net.Completion

/-! # Sending messages

The two entries of the upper layers, the acknowledgements and timers that send
segments again, and the session they happen in.
-/

namespace Meshctl.Net

open Bytes

/-! ## Keys -/

structure EncKeys where
  akfAid : Byte
  appEncKey : Key
  netIdx : U16

def getEncKeys (st : NetState) (appIdx dst : U16) : Option EncKeys :=
  if appIdx = appIdxDev then
    -- Default to the remote device key when provisioner.
    let remote := if st.provisioner then st.nodes.nodeFindByAddr dst else none
    match remote.or st.nodes.localRecord with
    | none => none
    | some node =>
        some { akfAid := 0, appEncKey := node.devKey, netIdx := node.primaryNetIdx }
  else
    match st.findAppKeyByIdx appIdx with
    | none => none
    | some appKey =>
        match st.findNetKeyByIdx appKey.netIdx with
        | none => none
        | some netKey =>
            let phaseTwo := netKey.phase = 2
            let part :=
              if phaseTwo ∧ appKey.new.akfAid ≠ 0xff then appKey.new
              else appKey.current
            some { akfAid := part.akfAid, appEncKey := part.key
                   netIdx := appKey.netIdx }

/-! ## Control messages -/

variable (env : NetEnv)

/-- The record of an unsegmented control message, on the stack of the sender. -/
def ctlRecord (st : NetState) (ttl : Byte) (src dst : U16) (buf : List Byte)
    (len : U16) : MeshSarMsg :=
  let netIdx :=
    match getEncKeys st appIdxDev dst with
    | some keys => keys.netIdx
    | none => 0
  let sar : MeshSarMsg :=
    { MeshSarMsg.zero 0 with
      proxy := dst = 0, netIdx, ctl := true, ivIndex := st.transmitIv, ttl, src
      dst := dst.setWidth 32, len }
  sar.copyData 0 (slice buf 0 len.toNat)

def netCtlMsgSend (ttl : Byte) (src dst : U16) (buf : List Byte) (len : U16)
    (st : NetState) : Bool × NetState :=
  match st.nodes.localRecord with
  | none => (false, st)
  | some node =>
      if 12 < len ∨ get buf 0 &&& 0x80 ≠ 0 then
        (false, st)
      else
        let src := if src = 0 then node.primary else src
        if src = 0 then
          (false, st)
        else
          let ttl := if ttl = 0xff then st.defaultTtl else ttl
          let sar := ctlRecord st ttl src dst buf len
          (true, sendSeg env (sendPktCmplt env) sar 0 st)

/-! ## Access messages -/

/-- The address a message really goes to, with the label of a virtual one. -/
def resolveDst (st : NetState) (dst : U32) : Option (U32 × Option Key) :=
  if isVirtual dst then
    match st.findVirtByDst dst with
    | none => none
    | some virt => some (virt.va16.setWidth 32, some virt.va128)
  else
    some (dst, none)

/-- The record of an access message, its encrypted payload included. The length
is passed on to the encryption as a byte. -/
def accessRecord (st : NetState) (ttl : Byte) (src : U16) (dst : U32)
    (aad : Option Key) (keys : EncKeys) (buf : List Byte) (len : U16) :
    MeshSarMsg :=
  let segN : Byte := BitVec.ofNat 8 (segMax (len.toNat + 4))
  let sar : MeshSarMsg :=
    { MeshSarMsg.zero segN with
      segmented := segN ≠ 0, ttl, seqAuth := st.seqNum
      ivIndex := st.transmitIv, netIdx := keys.netIdx, src, dst
      akfAid := keys.akfAid, len := len + 4 }
  sar.copyData 0 (env.applicationEncrypt keys.akfAid sar.seqAuth src
    (dst.setWidth 16) sar.ivIndex keys.appEncKey aad buf (len.setWidth 8))

def sendSegs (sar : MeshSarMsg) : List Nat → NetState → NetState
  | [], st => st
  | seg :: rest, st =>
      sendSegs sar rest
        (sendSeg env (sendPktCmplt env) sar (BitVec.ofNat 8 seg) st)

/-- The segments in the order of the two loops: all of them once, or five times
where nobody acknowledges them. -/
def segmentRounds (sar : MeshSarMsg) : List Nat :=
  let acklessRetries := if !isUnicast sar.dst && sar.segN ≠ 0 then 4 else 0
  (List.replicate (acklessRetries + 1)
    (List.range (sar.segN.toNat + 1))).flatten

/-- Only segmented messages to unicast addresses are acknowledged, and only one
for a destination waits at a time. -/
def awaitsAck (sar : MeshSarMsg) : Bool := sar.segN ≠ 0 && isUnicast sar.dst

/-- The second half of `net_access_layer_send`. -/
def sendAccessRecord (sar : MeshSarMsg) (st : NetState) : NetState :=
  if awaitsAck sar then
    let st := st.flushSarOut sar.dst
    let st := sendSegs env sar (segmentRounds sar) st
    let sar := { sar with ackTo := true, msgTo := true }
    { st with msgOut := st.msgOut.append sar }
  else
    sendSegs env sar (segmentRounds sar) st

def netAccessLayerSend (ttl : Byte) (src : U16) (dst : U32) (appIdx : U16)
    (buf : List Byte) (len : U16) (st : NetState) : Bool × NetState :=
  match st.nodes.localRecord with
  | none => (false, st)
  | some node =>
      let src := if src = 0 then node.primary else src
      if 384 < len ∨ src = 0 ∨ dst = 0 then
        (false, st)
      else
        let ttl := if ttl = 0xff then st.defaultTtl else ttl
        match resolveDst st dst with
        | none => (false, st)
        | some (dst, aad) =>
            match getEncKeys st appIdx (dst.setWidth 16) with
            | none => (false, st)
            | some keys =>
                let sar := accessRecord env st ttl src dst aad keys buf len
                (true, sendAccessRecord env sar st)

/-! ## Acknowledgements and timers -/

/-- Only the source and the mask of an acknowledgement are looked at. -/
def ackRxed (src _dst : U16) (_obo : Bool) (_seq0 : U16) (ackFlags : U32)
    (st : NetState) : Bool × NetState :=
  match st.findSarOutByDst src with
  | none => (true, st)
  | some sar =>
      let full := fullAck sar.segN
      let sar := { sar with ack := sar.ack ||| (ackFlags &&& full) }
      if sar.ack = full then
        (true, st.flushSarOut sar.dst)
      else
        let sar := { sar with activityCnt := sar.activityCnt + 1 }
        let st := st.setSarOut sar
        if st.pktOut.isEmpty then
          (true, resendSegs env (sendPktCmplt env) sar st)
        else
          (true, st)

def sarOutAckTimeout (dst : U32) (st : NetState) : NetState :=
  match st.msgOut.find dst with
  | none => st
  | some sar =>
      let sar := { sar with activityCnt := sar.activityCnt + 1 }
      let st := st.setSarOut sar
      if st.pktOut.isEmpty then
        resendSegs env (sendPktCmplt env) sar st
      else
        st

def sarOutMsgTimeout (dst : U32) (st : NetState) : NetState :=
  st.flushSarOut dst

/-- The reply to an outstanding `AcquireWrite`. On success the packet is written
and its completion handler called. -/
def acquireWriteReply (index : Nat) (success : Bool) (st : NetState) :
    NetState :=
  match st.acquiring[index]? with
  | none => st
  | some ref =>
      let st := { st with acquiring := st.acquiring.eraseIdx index }
      if success then sendPktCmplt env ref st else st

/-! ## Sessions -/

def ivUpdInit : Byte := 0

def ivUpdNormal : Byte := 1

def ivUpdUpdating : Byte := 2

def netSessionOpen (dataIn : Nat) (provisioner : Bool) (cb : Option Nat)
    (st : NetState) : Bool × NetState :=
  match st.proxyIn with
  | some _ => (false, st)
  | none =>
      (true, { st with
        proxyIn := some dataIn, ivUpdState := ivUpdInit, blacklist := false
        provisioner, openCb := cb, pktOut := [] })

/-- All queues end up empty. (The loop of the source that frees the packets
keeps reading the list cell it has just freed.) -/
def netSessionClose (dataIn : Nat) (st : NetState) : NetState :=
  { st with
    proxyIn := if st.proxyIn = some dataIn then none else st.proxyIn
    sarIn := KeyedList.empty, msgOut := KeyedList.empty, pktOut := [] }

/-! ## What sending changes -/

section Runs

variable {env : NetEnv}

/-- Control messages are sent unsegmented, with the IV index in force. -/
def IsControl (iv : U32) (sar : MeshSarMsg) : Prop :=
  sar.ivIndex = iv ∧ sar.ctl = true ∧ sar.segmented = false

theorem netCtlMsgSend_run (ttl : Byte) (src dst : U16) (buf : List Byte)
    (len : U16) (st : NetState) :
    TxRun (IsControl st.transmitIv) st
      (netCtlMsgSend env ttl src dst buf len st).2 := by
  rw [netCtlMsgSend]
  cases st.nodes.localRecord with
  | none => exact Relation.ReflTransGen.refl
  | some node =>
      dsimp only
      generalize (if src = 0 then node.primary else src) = source
      split
      · exact Relation.ReflTransGen.refl
      · split
        · exact Relation.ReflTransGen.refl
        · exact sendSeg_run sendPktCmplt_transmits
            (Or.inr ⟨rfl, rfl, rfl⟩) (Nat.zero_le _)

theorem sendSegs_run {Fresh : MeshSarMsg → Prop} {sar : MeshSarMsg}
    (fresh : Fresh sar) {segs : List Nat}
    (inMessage : ∀ seg ∈ segs, seg ≤ sar.segN.toNat) (st : NetState) :
    TxRun Fresh st (sendSegs env sar segs st) := by
  induction segs generalizing st with
  | nil => exact Relation.ReflTransGen.refl
  | cons seg rest induction =>
      rcases List.forall_mem_cons.mp inMessage with ⟨segIn, restIn⟩
      exact (sendSeg_run sendPktCmplt_transmits (Or.inr fresh)
        (toNat_ofNat_seg segIn)).trans (induction restIn _)

theorem segmentRounds_inMessage (sar : MeshSarMsg) :
    ∀ seg ∈ segmentRounds sar, seg ≤ sar.segN.toNat := by
  intro seg member
  rcases List.mem_flatten.mp member with ⟨round, isRound, inRound⟩
  rw [List.eq_of_mem_replicate isRound] at inRound
  exact Nat.le_of_lt_succ (List.mem_range.mp inRound)

/-- An access message is refused, or its record is sent. -/
theorem netAccessLayerSend_cases (ttl : Byte) (src : U16) (dst : U32)
    (appIdx : U16) (buf : List Byte) (len : U16) (st : NetState) :
    (netAccessLayerSend env ttl src dst appIdx buf len st).2 = st ∨
    len ≤ 384 ∧ ∃ ttl' src' dst' aad keys,
      resolveDst st dst = some (dst', aad) ∧
      (netAccessLayerSend env ttl src dst appIdx buf len st).2 =
        sendAccessRecord env
          (accessRecord env st ttl' src' dst' aad keys buf len) st := by
  rw [netAccessLayerSend]
  cases st.nodes.localRecord with
  | none => exact Or.inl rfl
  | some node =>
      dsimp only
      generalize (if src = 0 then node.primary else src) = source
      split
      next => exact Or.inl rfl
      next accepted =>
        cases destination : resolveDst st dst with
        | none => exact Or.inl rfl
        | some resolved =>
            dsimp only
            cases getEncKeys st appIdx (resolved.1.setWidth 16) with
            | none => exact Or.inl rfl
            | some keys =>
                have short : len ≤ 384 := by
                  rw [not_or, BitVec.lt_def] at accepted
                  rw [BitVec.le_def]
                  omega
                exact Or.inr ⟨short, _, _, _, _, keys, rfl, rfl⟩

/-- Sending a record is a run of packets cut from it. A record that waits for
acknowledgement then replaces the outgoing message to its destination. -/
theorem sendAccessRecord_cases {Fresh : MeshSarMsg → Prop} {sar : MeshSarMsg}
    (fresh : Fresh sar) (st : NetState) :
    (awaitsAck sar = true ∧ ∃ sent,
      TxRun Fresh (st.flushSarOut sar.dst) sent ∧
      sendAccessRecord env sar st =
        { sent with msgOut :=
            (sent.msgOut.append { sar with ackTo := true, msgTo := true }) }) ∨
    awaitsAck sar = false ∧
      TxRun Fresh st (sendAccessRecord env sar st) := by
  rw [sendAccessRecord]
  cases awaitsAck sar with
  | true =>
      exact Or.inl ⟨rfl, _,
        sendSegs_run fresh (segmentRounds_inMessage sar) _, rfl⟩
  | false =>
      exact Or.inr ⟨rfl, sendSegs_run fresh (segmentRounds_inMessage sar) _⟩

/-- An acknowledgement is for no outgoing message, completes one, or marks
segments of one and may send the others again. -/
theorem ackRxed_cases (src dst : U16) (obo : Bool) (seq0 : U16)
    (ackFlags : U32) (st : NetState) :
    (st.findSarOutByDst src = none ∧
      (ackRxed env src dst obo seq0 ackFlags st).2 = st) ∨
    ∃ sar, st.findSarOutByDst src = some sar ∧
      let marked := sar.ack ||| (ackFlags &&& fullAck sar.segN)
      (marked = fullAck sar.segN ∧
        (ackRxed env src dst obo seq0 ackFlags st).2 =
          st.flushSarOut sar.dst ∨
      marked ≠ fullAck sar.segN ∧
        TxRun (fun _ => False)
          (st.setSarOut { sar with
            ack := marked, activityCnt := sar.activityCnt + 1 })
          (ackRxed env src dst obo seq0 ackFlags st).2) := by
  rw [ackRxed]
  cases found : st.findSarOutByDst src with
  | none => exact Or.inl ⟨rfl, rfl⟩
  | some sar =>
      have present := KeyedList.mem_of_find found
      refine Or.inr ⟨sar, rfl, ?_⟩
      dsimp only
      split
      next complete => exact Or.inl ⟨complete, rfl⟩
      next incomplete =>
        refine Or.inr ⟨incomplete, ?_⟩
        split
        next =>
          apply resendSegs_run sendPktCmplt_transmits
          exact KeyedList.mem_set_self present rfl
        next => exact Relation.ReflTransGen.refl

theorem sarOutAckTimeout_cases (dst : U32) (st : NetState) :
    sarOutAckTimeout env dst st = st ∨
    ∃ sar ∈ st.msgOut.records,
      TxRun (fun _ => False)
        (st.setSarOut { sar with activityCnt := sar.activityCnt + 1 })
        (sarOutAckTimeout env dst st) := by
  rw [sarOutAckTimeout]
  cases found : st.msgOut.find dst with
  | none => exact Or.inl rfl
  | some sar =>
      have present := KeyedList.mem_of_find found
      refine Or.inr ⟨sar, present, ?_⟩
      dsimp only
      split
      next =>
        apply resendSegs_run sendPktCmplt_transmits
        exact KeyedList.mem_set_self present rfl
      next => exact Relation.ReflTransGen.refl

theorem acquireWriteReply_run (index : Nat) (success : Bool) (st : NetState) :
    TxRun (fun _ => False) st (acquireWriteReply env index success st) := by
  rw [acquireWriteReply]
  split
  · exact Relation.ReflTransGen.refl
  · have replied : TxStep (fun _ => False) st
        { st with acquiring := st.acquiring.eraseIdx index } :=
      TxStep.queue _ _ _
    dsimp only
    split
    · exact (sendPktCmplt_transmits _ _).head replied
    · exact Relation.ReflTransGen.single replied

end Runs

end Meshctl.Net
