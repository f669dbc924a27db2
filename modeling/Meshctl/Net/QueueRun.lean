import Meshctl.Net.BeaconSafety

/-! # Nested completions as a flat run

A completion handler runs inside the write that it completes, and the writes it
starts complete inside the handler. Whatever is called, nothing is done to the
queue after a nested call returns that could not be done by an idle queue.
Unrolled, sending is therefore a run of a machine without nesting: it is idle,
about to write a packet, or in the completion handler of one.
-/

namespace Meshctl.Net

open Execution

inductive QueuePhase where
  | idle
  | writing (ref : Nat)
  | completed (ref : Nat)

/-- The queue, the history of its writes and the sequence counter are the
same. -/
structure SameQueue (before after : NetState) : Prop where
  built : after.built = before.built
  seqNum : after.seqNum = before.seqNum
  pktOut : after.pktOut = before.pktOut
  written : after.written = before.written
  acquiring : after.acquiring = before.acquiring

/-- Build a packet and put it at the end of the queue. -/
def enqueued (sar : MeshSarMsg) (seg nid : Byte) (data : List Byte)
    (len : Byte) (st : NetState) : NetState :=
  { (recordBuilt sar seg nid st).2 with
    pktOut := st.pktOut ++ [{ ref := st.built.length, data, len }] }

inductive QueueStep (env : NetEnv) :
    QueuePhase × NetState → QueuePhase × NetState → Prop
  | other {st st' : NetState} (same : SameQueue st st') :
      QueueStep env (.idle, st) (.idle, st')
  | wait {st : NetState} (sar : MeshSarMsg) (seg nid : Byte)
      (data : List Byte) (len : Byte) (busy : st.pktOut ≠ []) :
      QueueStep env (.idle, st) (.idle, enqueued sar seg nid data len st)
  | start {st : NetState} (sar : MeshSarMsg) (seg nid : Byte)
      (data : List Byte) (len : Byte) (empty : st.pktOut = []) :
      QueueStep env (.idle, st)
        (.writing st.built.length, enqueued sar seg nid data len st)
  | sent {st : NetState} (ref : Nat)
      (outcome : env.gatt st.written.length = .sent) :
      QueueStep env (.writing ref, st)
        (.completed ref, { st with written := st.written ++ [ref] })
  | queued {st : NetState} (ref : Nat) :
      QueueStep env (.writing ref, st)
        (.idle, { st with
          written := st.written ++ [ref], acquiring := st.acquiring ++ [ref] })
  | refused {st : NetState} (ref : Nat) :
      QueueStep env (.writing ref, st)
        (.idle, { st with written := st.written ++ [ref] })
  | next {st : NetState} (ref : Nat) (pkt : MeshPkt) (rest : List MeshPkt)
      (more : (dequeue ref st).pktOut = pkt :: rest) :
      QueueStep env (.completed ref, st) (.writing pkt.ref, dequeue ref st)
  | last {st : NetState} (ref : Nat) (empty : (dequeue ref st).pktOut = []) :
      QueueStep env (.completed ref, st) (.idle, dequeue ref st)

abbrev QueueRun (env : NetEnv) :
    QueuePhase × NetState → QueuePhase × NetState → Prop :=
  Relation.ReflTransGen (QueueStep env)

/-- From an idle queue to an idle queue. -/
abbrev Sends (env : NetEnv) (before after : NetState) : Prop :=
  QueueRun env (.idle, before) (.idle, after)

/-- A handler is unrolled, as long as no more than `depth` completions nest. -/
def Unrolls (env : NetEnv) (depth : Nat) (cmplt : Completion) : Prop :=
  ∀ ref st, CalledForHead ref st → cmpltDepth st ≤ depth →
    QueueRun env (.completed ref, st) (.idle, cmplt ref st)

section Unrolling

variable {env : NetEnv} {cmplt : Completion} {depth : Nat}

theorem Sends.refl (st : NetState) : Sends env st st :=
  Relation.ReflTransGen.refl

theorem Sends.other {before after : NetState} (same : SameQueue before after) :
    Sends env before after :=
  Relation.ReflTransGen.single (QueueStep.other same)

theorem Sends.setSarOut (sar : MeshSarMsg) (st : NetState) :
    Sends env st (st.setSarOut sar) := Sends.other ⟨rfl, rfl, rfl, rfl, rfl⟩

/-! ## Writes -/

theorem meshGattWrite_unrolls (unrolls : Unrolls env depth cmplt) {ref : Nat}
    {st : NetState} (head : CalledForHead ref st)
    (bounded : cmpltDepth st ≤ depth) :
    QueueRun env (.writing ref, st) (.idle, meshGattWrite env cmplt ref st) := by
  simp only [meshGattWrite]
  cases outcome : env.gatt st.written.length with
  | sent =>
      apply Relation.ReflTransGen.head (QueueStep.sent ref outcome)
      exact unrolls ref _ head bounded
  | queued => exact Relation.ReflTransGen.single (QueueStep.queued ref)
  | refused => exact Relation.ReflTransGen.single (QueueStep.refused ref)

/-- A packet that was just built waits behind others, or is written at once. -/
theorem sendMeshPkt_unrolls (unrolls : Unrolls env depth cmplt)
    (sar : MeshSarMsg) (seg nid : Byte) (data : List Byte) (len : Byte)
    {st : NetState} (bounded : activeCount st < depth) :
    Sends env st
      (sendMeshPkt env cmplt { ref := st.built.length, data, len }
        (recordBuilt sar seg nid st).2) := by
  simp only [sendMeshPkt, recordBuilt_pktOut]
  cases queue : st.pktOut with
  | nil =>
      have empty : (!([] : List MeshPkt).isEmpty) = false := rfl
      rw [empty, if_neg Bool.false_ne_true]
      have started := @QueueStep.start env st sar seg nid data len queue
      rw [enqueued, queue] at started
      apply Relation.ReflTransGen.head started
      apply meshGattWrite_unrolls unrolls
      · exact ⟨{ ref := st.built.length, data, len }, [], rfl, rfl⟩
      · have same : activeCount (recordBuilt sar seg nid st).2 =
            activeCount st := by
          rw [activeCount, recordBuilt_msgOut, activeCount]
        change 1 + activeCount (recordBuilt sar seg nid st).2 ≤ depth
        omega
  | cons pkt rest =>
      have busy : (!(pkt :: rest).isEmpty) = true := rfl
      rw [if_pos busy, ← queue]
      apply Relation.ReflTransGen.single
      exact QueueStep.wait sar seg nid data len (by simp [queue])

theorem sendSeg_unrolls (unrolls : Unrolls env depth cmplt) (sar : MeshSarMsg)
    (seg : Byte) {st : NetState} (bounded : activeCount st < depth) :
    Sends env st (sendSeg env cmplt sar seg st) := by
  rw [sendSeg]
  cases st.findNetKeyByIdx sar.netIdx with
  | none => exact Sends.refl st
  | some netKey => exact sendMeshPkt_unrolls unrolls sar seg _ _ _ bounded

/-! ## Sending again -/

section Resend

variable (unrolls : Unrolls env depth cmplt)
  (transmits : ∀ Fresh, cmplt.Transmits Fresh)
include unrolls transmits

theorem resendFrom_unrolls {sar : MeshSarMsg} {segs : List Nat}
    (inMessage : ∀ seg ∈ segs, seg ≤ sar.segN.toNat) {st : NetState}
    (bounded : activeCount st < depth) :
    Sends env st (resendFrom env cmplt sar segs st) := by
  induction segs generalizing st with
  | nil => exact Sends.refl st
  | cons seg rest induction =>
      rcases List.forall_mem_cons.mp inMessage with ⟨segIn, restIn⟩
      rw [resendFrom]
      split
      next =>
        have first := @sendSeg_unrolls env cmplt depth unrolls sar
          (BitVec.ofNat 8 seg) st bounded
        apply Relation.ReflTransGen.trans first
        apply induction restIn
        have sent : TxRun (fun _ => True) st
            (sendSeg env cmplt sar (BitVec.ofNat 8 seg) st) :=
          sendSeg_run (transmits _) (Or.inr trivial) (toNat_ofNat_seg segIn)
        exact Nat.lt_of_le_of_lt sent.activeCount_le bounded
      next => exact induction restIn bounded

theorem resendSegs_unrolls {sar : MeshSarMsg} {st : NetState}
    (bounded : activeCount (st.setSarOut sar.frozen) < depth) :
    Sends env st (resendSegs env cmplt sar st) := by
  apply Relation.ReflTransGen.trans (Sends.setSarOut sar.frozen st)
  apply resendFrom_unrolls unrolls transmits
  · intro seg member
    exact Nat.le_of_lt_succ (List.mem_range.mp member)
  · exact bounded

theorem resendUnackedSegs_unrolls (dsts : List U32) {st : NetState}
    (bounded : activeCount st ≤ depth) :
    Sends env st (resendUnackedSegs env cmplt dsts st) := by
  induction dsts generalizing st with
  | nil => exact Sends.refl st
  | cons dst rest induction =>
      rw [resendUnackedSegs]
      cases found : st.msgOut.find dst with
      | none => exact induction bounded
      | some sar =>
          dsimp only
          split
          next active =>
            have present := KeyedList.mem_of_find found
            have fewer := countP_clear_lt present active
            have resent : TxRun (fun _ => True) st
                (resendSegs env cmplt sar st) :=
              resendSegs_run (transmits _) present
            have first := @resendSegs_unrolls env cmplt depth unrolls transmits
              sar st (Nat.lt_of_lt_of_le fewer bounded)
            apply Relation.ReflTransGen.trans first
            exact induction (Nat.le_trans resent.activeCount_le bounded)
          next => exact induction bounded

theorem continueQueue_unrolls {ref : Nat} {st : NetState}
    (bounded : cmpltDepth (dequeue ref st) ≤ depth) :
    QueueRun env (.completed ref, st)
      (.idle, continueQueue env cmplt (dequeue ref st)) := by
  rw [continueQueue]
  split
  next queue =>
    apply Relation.ReflTransGen.head (QueueStep.last ref queue)
    apply resendUnackedSegs_unrolls unrolls transmits
    exact Nat.le_trans (Nat.le_add_left _ _) bounded
  next pkt rest queue =>
    apply Relation.ReflTransGen.head (QueueStep.next ref pkt rest queue)
    exact meshGattWrite_unrolls unrolls ⟨pkt, rest, queue, rfl⟩ bounded

end Resend

/-! ## The completion handler -/

theorem sendPktCmplt_unrolls (env : NetEnv) (depth : Nat) :
    Unrolls env depth (sendPktCmplt env) := by
  induction depth with
  | zero =>
      intro ref st head bounded
      have shorter := cmpltDepth_dequeue_head head
      omega
  | succ depth induction =>
      intro ref st head bounded
      have shorter := cmpltDepth_dequeue_head head
      rw [sendPktCmplt_eq]
      exact continueQueue_unrolls induction (fun _ => sendPktCmplt_transmits)
        (by omega)

/-- This does not depend on the packet the handler is called for. -/
theorem sendPktCmplt_run (ref : Nat) (st : NetState) :
    QueueRun env (.completed ref, st) (.idle, sendPktCmplt env ref st) := by
  rw [sendPktCmplt_eq]
  exact continueQueue_unrolls (sendPktCmplt_unrolls env _)
    (fun _ => sendPktCmplt_transmits) (Nat.le_refl _)

end Unrolling

/-! ## Everything that sends -/

section Senders

variable {env : NetEnv}

theorem sendSeg_sends (sar : MeshSarMsg) (seg : Byte) (st : NetState) :
    Sends env st (sendSeg env (sendPktCmplt env) sar seg st) :=
  sendSeg_unrolls (sendPktCmplt_unrolls env (activeCount st + 1)) sar seg
    (Nat.lt_succ_self _)

theorem resendSegs_sends (sar : MeshSarMsg) (st : NetState) :
    Sends env st (resendSegs env (sendPktCmplt env) sar st) :=
  resendSegs_unrolls (sendPktCmplt_unrolls env _)
    (fun _ => sendPktCmplt_transmits) (Nat.lt_succ_self _)

theorem netCtlMsgSend_sends (ttl : Byte) (src dst : U16) (buf : List Byte)
    (len : U16) (st : NetState) :
    Sends env st (netCtlMsgSend env ttl src dst buf len st).2 := by
  rw [netCtlMsgSend]
  cases st.nodes.localRecord with
  | none => exact Sends.refl st
  | some node =>
      dsimp only
      generalize (if src = 0 then node.primary else src) = source
      split
      · exact Sends.refl st
      · split
        · exact Sends.refl st
        · exact sendSeg_sends _ _ _

theorem sendSegs_sends (sar : MeshSarMsg) (segs : List Nat) (st : NetState) :
    Sends env st (sendSegs env sar segs st) := by
  induction segs generalizing st with
  | nil => exact Sends.refl st
  | cons seg rest induction =>
      exact (sendSeg_sends sar _ st).trans (induction _)

theorem sendAccessRecord_sends (sar : MeshSarMsg) (st : NetState) :
    Sends env st (sendAccessRecord env sar st) := by
  rw [sendAccessRecord]
  split
  · have flushed : Sends env st (st.flushSarOut sar.dst) :=
      Sends.other ⟨rfl, rfl, rfl, rfl, rfl⟩
    have sent := @sendSegs_sends env sar (segmentRounds sar)
      (st.flushSarOut sar.dst)
    exact (flushed.trans sent).trans (Sends.other ⟨rfl, rfl, rfl, rfl, rfl⟩)
  · exact sendSegs_sends _ _ _

theorem netAccessLayerSend_sends (ttl : Byte) (src : U16) (dst : U32)
    (appIdx : U16) (buf : List Byte) (len : U16) (st : NetState) :
    Sends env st (netAccessLayerSend env ttl src dst appIdx buf len st).2 := by
  rcases @netAccessLayerSend_cases env ttl src dst appIdx buf len st with
    same | ⟨_, _, _, _, _, _, _, sent⟩
  · rw [same]
  · rw [sent]
    exact sendAccessRecord_sends _ st

theorem ackRxed_sends (src dst : U16) (obo : Bool) (seq0 : U16)
    (ackFlags : U32) (st : NetState) :
    Sends env st (ackRxed env src dst obo seq0 ackFlags st).2 := by
  rw [ackRxed]
  cases st.findSarOutByDst src with
  | none => exact Sends.refl st
  | some sar =>
      dsimp only
      split
      · exact Sends.other ⟨rfl, rfl, rfl, rfl, rfl⟩
      · split
        · exact (Sends.setSarOut _ st).trans (resendSegs_sends _ _)
        · exact Sends.setSarOut _ st

theorem sarOutAckTimeout_sends (dst : U32) (st : NetState) :
    Sends env st (sarOutAckTimeout env dst st) := by
  rw [sarOutAckTimeout]
  cases st.msgOut.find dst with
  | none => exact Sends.refl st
  | some sar =>
      dsimp only
      split
      · exact (Sends.setSarOut _ st).trans (resendSegs_sends _ _)
      · exact Sends.setSarOut _ st

theorem sendWhite_sends (white : List Byte) (st : NetState) :
    Sends env st (sendWhite env white st) :=
  netCtlMsgSend_sends _ _ _ _ _ st

theorem setupWhitelist_sends (st : NetState) :
    Sends env st (setupWhitelist env st) :=
  setupWhitelist_relates Sends.refl Relation.ReflTransGen.trans
    (fun white st _ _ => sendWhite_sends white st) st

end Senders

/-! ## The machine -/

section Inputs

variable (env : NetEnv)

/-- Whether a beacon resets the sequence counter. -/
def beaconRestartsSeq (data : List Byte) (size : Byte) (st : NetState) : Bool :=
  let ivUpdate := recognizedIvUpdate data st
  match enforceWindows (st.ivUpdState = ivUpdInit) ivUpdate (beaconIvIndex data)
    st with
  | none => false
  | some windows =>
      size = 22 && acceptsBeacon env data st &&
        !(ivUpdate && ivUpdUpdating < st.ivUpdState) &&
        restartsSeq ivUpdate (beaconIvIndex data) windows

def restartsCounter (input : NetInput) (st : NetState) : Bool :=
  match input with
  | .beacon data size => beaconRestartsSeq env data size st
  | _ => false

/-- How an input reaches the queue, before anything is sent. -/
inductive Enters (st : NetState) :
    NetInput → QueuePhase → NetState → Prop
  | call {input : NetInput} {ready : NetState}
      (built : ready.built = st.built) (pktOut : ready.pktOut = st.pktOut)
      (written : ready.written = st.written)
      (acquiring : ready.acquiring = st.acquiring)
      (counter : ready.seqNum =
        if restartsCounter env input st then 0 else st.seqNum) :
      Enters st input .idle ready
  | reply (index ref : Nat) (outstanding : st.acquiring[index]? = some ref) :
      Enters st (.writeReply index true) (.completed ref)
        { st with acquiring := st.acquiring.eraseIdx index }
  | failed (index : Nat) :
      Enters st (.writeReply index false) .idle
        { st with acquiring := st.acquiring.eraseIdx index }
  | opened {ready : NetState} (dataIn : Nat) (provisioner : Bool)
      (cb : Option Nat) (same : SameQueue { st with pktOut := [] } ready) :
      Enters st (.sessionOpen dataIn provisioner cb) .idle ready
  | closed {ready : NetState} (dataIn : Nat)
      (same : SameQueue { st with pktOut := [] } ready) :
      Enters st (.sessionClose dataIn) .idle ready

variable {env}

theorem Enters.same {input : NetInput} {st : NetState}
    (keeps : restartsCounter env input st = false) :
    Enters env st input .idle st :=
  .call rfl rfl rfl rfl (by rw [keeps, if_neg Bool.false_ne_true])

/-- Before anything is sent, the packets are the same, and the counter is unless
a beacon resets it. -/
theorem Enters.counter {input : NetInput} {phase : QueuePhase}
    {st ready : NetState} (enters : Enters env st input phase ready) :
    ready.built = st.built ∧
      ready.seqNum = if restartsCounter env input st then 0 else st.seqNum := by
  cases enters with
  | call built pktOut written acquiring counter => exact ⟨built, counter⟩
  | reply => exact ⟨rfl, rfl⟩
  | failed => exact ⟨rfl, rfl⟩
  | opened dataIn provisioner cb same => exact ⟨same.built, same.seqNum⟩
  | closed dataIn same => exact ⟨same.built, same.seqNum⟩

/-- An early return of `process_beacon` leaves the counter alone. -/
theorem beaconRestartsSeq_unchanged {data : List Byte} {size : Byte}
    {st : NetState}
    (same : (beaconIvIndex data = st.ivIndex && recognizedIvUpdate data st =
      st.ivUpdate && st.ivUpdState ≠ ivUpdInit) = true) :
    beaconRestartsSeq env data size st = false := by
  simp only [Bool.and_eq_true, decide_eq_true_eq] at same
  rcases same with ⟨⟨sameIndex, sameUpdate⟩, _⟩
  simp only [beaconRestartsSeq]
  cases passed : enforceWindows (st.ivUpdState = ivUpdInit)
    (recognizedIvUpdate data st) (beaconIvIndex data) st with
  | none => rfl
  | some windows =>
      rcases enforceWindows_eq passed with ⟨ivUpdState, equal⟩
      rw [equal]
      simp [restartsSeq, sameIndex, sameUpdate]

/-- A beacon takes its IV state over before it sends. -/
theorem processBeacon_enters (data : List Byte) (size : Byte)
    (st : NetState) :
    ∃ ready, Enters env st (.beacon data size) .idle ready ∧
      Sends env ready (processBeacon env data size st).nextState := by
  have unchanged (keeps : beaconRestartsSeq env data size st = false) :
      ∃ ready, Enters env st (.beacon data size) .idle ready ∧
        Sends env ready st := ⟨st, .same keeps, Sends.refl st⟩
  rw [processBeacon]
  split
  next isSize =>
    apply unchanged
    have wrong : decide (size = 22) = false := decide_eq_false isSize
    simp only [beaconRestartsSeq, wrong, Bool.false_and]
    split <;> rfl
  next isSize =>
    dsimp only
    split
    next same => exact unchanged (beaconRestartsSeq_unchanged same)
    next =>
      split
      next rejected =>
        apply unchanged
        rw [Bool.not_eq_true'] at rejected
        simp only [beaconRestartsSeq]
        split <;> simp [rejected]
      next accepted =>
        split
        next late =>
          apply unchanged
          simp only [beaconRestartsSeq]
          split <;> simp [late]
        next early =>
          rw [beaconUpdate]
          cases passed : enforceWindows (st.ivUpdState = ivUpdInit)
            (recognizedIvUpdate data st) (beaconIvIndex data) st with
          | none =>
              apply unchanged
              simp only [beaconRestartsSeq, passed]
          | some windows =>
              have restarts : beaconRestartsSeq env data size st =
                  restartsSeq (recognizedIvUpdate data st) (beaconIvIndex data)
                    windows := by
                have isSize : size = 22 := by simpa using isSize
                have accepted : acceptsBeacon env data st = true := by
                  simpa using accepted
                rw [Bool.not_eq_true] at early
                simp only [beaconRestartsSeq, passed, isSize, accepted, early]
                simp
              rcases enforceWindows_eq passed with ⟨ivUpdState, isWindows⟩
              rcases takeOver_eq (recognizedIvUpdate data st)
                (beaconIvIndex data) windows with ⟨_, _, taken⟩
              refine ⟨takeOver (recognizedIvUpdate data st)
                (beaconIvIndex data) windows, ?_, ?_⟩
              · rw [← restarts, isWindows] at taken
                rw [isWindows, taken]
                exact .call rfl rfl rfl rfl rfl
              · dsimp only
                split
                · exact setupWhitelist_sends _
                · exact Sends.refl _

/-- Every input reaches the queue in one of these ways, and then sends. -/
theorem netStep_enters (st : NetState) (input : NetInput) :
    ∃ phase ready, Enters env st input phase ready ∧
      QueueRun env (phase, ready) (.idle, (netStep env st input).nextState) := by
  cases input with
  | beacon data size => exact ⟨.idle, processBeacon_enters data size st⟩
  | accessSend ttl src dst appIdx buf len =>
      exact ⟨.idle, st, .same rfl, netAccessLayerSend_sends _ _ _ _ _ _ st⟩
  | ctlSend ttl src dst buf len =>
      exact ⟨.idle, st, .same rfl, netCtlMsgSend_sends _ _ _ _ _ st⟩
  | ack src dst obo seq0 ackFlags =>
      exact ⟨.idle, st, .same rfl, ackRxed_sends src dst obo seq0 ackFlags st⟩
  | ackTimeout dst =>
      exact ⟨.idle, st, .same rfl, sarOutAckTimeout_sends dst st⟩
  | msgTimeout dst =>
      exact ⟨.idle, st, .same rfl, Sends.other ⟨rfl, rfl, rfl, rfl, rfl⟩⟩
  | writeReply index success =>
      change ∃ phase ready, Enters env st (.writeReply index success) phase ready ∧
        QueueRun env (phase, ready) (.idle, acquireWriteReply env index success st)
      rw [acquireWriteReply]
      cases outstanding : st.acquiring[index]? with
      | none => exact ⟨.idle, st, .same rfl, Sends.refl st⟩
      | some ref =>
          cases success with
          | true =>
              exact ⟨.completed ref, _, .reply index ref outstanding,
                sendPktCmplt_run ref _⟩
          | false => exact ⟨.idle, _, .failed index, Sends.refl _⟩
  | sessionOpen dataIn provisioner cb =>
      change ∃ phase ready, Enters env st (.sessionOpen dataIn provisioner cb)
        phase ready ∧ QueueRun env (phase, ready)
          (.idle, (netSessionOpen dataIn provisioner cb st).2)
      rw [netSessionOpen]
      cases st.proxyIn with
      | some _ => exact ⟨.idle, st, .same rfl, Sends.refl st⟩
      | none =>
          refine ⟨.idle, _, .opened dataIn provisioner cb ?_, Sends.refl _⟩
          exact ⟨rfl, rfl, rfl, rfl, rfl⟩
  | sessionClose dataIn =>
      refine ⟨.idle, _, .closed dataIn ?_, Sends.refl _⟩
      exact ⟨rfl, rfl, rfl, rfl, rfl⟩

end Inputs

end Meshctl.Net
