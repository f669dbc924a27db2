import Meshctl.Net.BeaconSafety

/-! # The transmit queue moves on

Only the completion of the write at its head advances the queue, and a write that
fails never completes. Every function that sends is described by what it does to
a queue that flows, and to one that is stuck.
-/

namespace Meshctl.Net

open Bytes Execution

/-! ## Queues -/

/-- The write of the head of the queue is outstanding, and nothing else is. -/
def Flows (st : NetState) : Prop :=
  st.acquiring = (st.pktOut.take 1).map MeshPkt.ref

/-- The write of the head is not outstanding, or not yet. -/
structure Waits (st : NetState) : Prop where
  nonempty : st.pktOut ≠ []
  idle : st.acquiring = []

section Moves

variable (env : NetEnv)

/-- None of the writes that were started is refused. -/
def NoRefusal (before after : NetState) : Prop :=
  ∀ index, before.written.length ≤ index → index < after.written.length →
    env.gatt index ≠ .refused

/-- The queue flows after the writes that were started, unless one of them was
refused. -/
structure Attempts (before after : NetState) : Prop where
  writes : before.written.length ≤ after.written.length
  flows : NoRefusal env before after → Flows after
  stops : ¬NoRefusal env before after → Waits after

/-- What sending does: a queue that flows is filled and emptied by writes, and
one that is stuck stays so. -/
structure Moves (before after : NetState) : Prop where
  attempts : Flows before → Attempts env before after
  empty : Flows before → before.pktOut = [] →
    after.written.length = before.written.length → after.pktOut = []
  stuck : Waits before → Waits after ∧
    after.written.length = before.written.length

variable {env}

theorem NoRefusal.nothing {before after : NetState}
    (same : after.written.length = before.written.length) :
    NoRefusal env before after := by
  intro index low high
  omega

theorem NoRefusal.split {first second third : NetState}
    (writes : first.written.length ≤ second.written.length)
    (writes' : second.written.length ≤ third.written.length) :
    NoRefusal env first third ↔
      NoRefusal env first second ∧ NoRefusal env second third := by
  constructor
  · intro none
    exact ⟨fun index low high => none index low (by omega),
      fun index low high => none index (by omega) high⟩
  · intro ⟨left, right⟩ index low high
    by_cases early : index < second.written.length
    · exact left index low early
    · exact right index (by omega) high

theorem Attempts.of_flows {before after : NetState}
    (same : after.written.length = before.written.length)
    (flows : Flows after) : Attempts env before after :=
  ⟨Nat.le_of_eq same.symm, fun _ => flows,
    fun refused => absurd (NoRefusal.nothing same) refused⟩

/-- The fields that matter are left alone. -/
theorem Moves.of_same {before after : NetState}
    (pktOut : after.pktOut = before.pktOut)
    (acquiring : after.acquiring = before.acquiring)
    (written : after.written = before.written) : Moves env before after := by
  have length : after.written.length = before.written.length := by rw [written]
  constructor
  · intro flows
    rw [Flows, ← pktOut, ← acquiring] at flows
    exact Attempts.of_flows length flows
  · intro _ empty _
    rw [pktOut, empty]
  · intro waits
    refine ⟨⟨?_, ?_⟩, length⟩
    · rw [pktOut]
      exact waits.nonempty
    · rw [acquiring]
      exact waits.idle

theorem Moves.refl (st : NetState) : Moves env st st := .of_same rfl rfl rfl

theorem Attempts.trans {first second third : NetState}
    (left : Attempts env first second) (right : Moves env second third) :
    Attempts env first third := by
  by_cases none : NoRefusal env first second
  · have later := right.attempts (left.flows none)
    have split := @NoRefusal.split env _ _ _ left.writes later.writes
    constructor
    · exact Nat.le_trans left.writes later.writes
    · exact fun all => later.flows (split.mp all).2
    · exact fun refused => later.stops fun all => refused (split.mpr ⟨none, all⟩)
  · rcases right.stuck (left.stops none) with ⟨waits, same⟩
    have split := @NoRefusal.split env _ _ _ left.writes (Nat.le_of_eq same.symm)
    constructor
    · exact Nat.le_trans left.writes (Nat.le_of_eq same.symm)
    · exact fun all => absurd (split.mp all).1 none
    · exact fun _ => waits

theorem Moves.trans {first second third : NetState}
    (left : Moves env first second) (right : Moves env second third) :
    Moves env first third := by
  constructor
  · exact fun flows => (left.attempts flows).trans right
  · intro flows empty same
    have before := left.attempts flows
    by_cases none : NoRefusal env first second
    · have middle := before.flows none
      have low := before.writes
      have high := (right.attempts middle).writes
      exact right.empty middle (left.empty flows empty (by omega)) (by omega)
    · have later := (right.stuck (before.stops none)).2
      exact absurd (NoRefusal.nothing (later.symm.trans same)) none
  · intro waits
    rcases left.stuck waits with ⟨still, same⟩
    rcases right.stuck still with ⟨after, same'⟩
    exact ⟨after, same'.trans same⟩

/-! ## Writes -/

/-- A completion handler does its part, as long as no more than `depth`
completions nest. -/
def Completes (env : NetEnv) (depth : Nat) (cmplt : Completion) : Prop :=
  ∀ ref st, CalledForHead ref st → st.acquiring = [] →
    cmpltDepth st ≤ depth → Attempts env st (cmplt ref st)

variable {cmplt : Completion} {depth : Nat}

theorem meshGattWrite_attempts (completes : Completes env depth cmplt)
    {ref : Nat} {st : NetState} (head : CalledForHead ref st)
    (idle : st.acquiring = []) (bounded : cmpltDepth st ≤ depth) :
    Attempts env st (meshGattWrite env cmplt ref st) ∧
      st.written.length < (meshGattWrite env cmplt ref st).written.length := by
  have nonempty : st.pktOut ≠ [] := by
    rcases head with ⟨pkt, rest, queue, _⟩
    simp [queue]
  -- The write that is started is the first of the writes of the attempt.
  have first {after : NetState}
      (more : st.written.length + 1 ≤ after.written.length) :
      NoRefusal env st after ↔ env.gatt st.written.length ≠ .refused ∧
        NoRefusal env { st with written := st.written ++ [ref] } after := by
    have length : ({ st with written := st.written ++ [ref] } :
        NetState).written.length = st.written.length + 1 := by simp
    rw [NoRefusal, NoRefusal, length]
    constructor
    · exact fun none => ⟨none _ (Nat.le_refl _) more,
        fun index low high => none index (by omega) high⟩
    · intro ⟨here, later⟩ index low high
      by_cases isFirst : index = st.written.length
      · exact isFirst ▸ here
      · exact later index (by omega) high
  simp only [meshGattWrite]
  cases outcome : env.gatt st.written.length with
  | sent =>
      have attempts := completes ref { st with written := st.written ++ [ref] }
        head idle bounded
      have writes := attempts.writes
      simp only [List.length_append, List.length_singleton] at writes
      refine ⟨⟨by dsimp only; omega, ?_, ?_⟩, by dsimp only; omega⟩
      · intro none
        exact attempts.flows ((first writes).mp none).2
      · intro refused
        apply attempts.stops
        intro later
        exact refused ((first writes).mpr ⟨by rw [outcome]; simp, later⟩)
  | queued =>
      rcases head with ⟨pkt, rest, queue, isRef⟩
      have flows : Flows { st with
          written := st.written ++ [ref]
          acquiring := st.acquiring ++ [ref] } := by
        simp [Flows, idle, queue, isRef]
      refine ⟨⟨by simp, fun _ => flows, ?_⟩, by simp⟩
      intro refused
      refine absurd ((first (by simp)).mpr ⟨by rw [outcome]; simp, ?_⟩) refused
      exact NoRefusal.nothing rfl
  | refused =>
      refine ⟨⟨by simp, ?_, fun _ => ⟨nonempty, idle⟩⟩, by simp⟩
      intro none
      exact absurd outcome ((first (by simp)).mp none).1

/-- A packet behind others waits; the first one of a queue is written at once. -/
theorem sendMeshPkt_moves (completes : Completes env depth cmplt)
    (pkt : MeshPkt) {st : NetState} (bounded : activeCount st < depth) :
    Moves env st (sendMeshPkt env cmplt pkt st) := by
  simp only [sendMeshPkt]
  cases queue : st.pktOut with
  | nil =>
      simp only [List.isEmpty_nil, Bool.not_true, Bool.false_eq_true, if_false,
        List.nil_append]
      have started (flows : Flows st) := by
        have idle : st.acquiring = [] := by
          rw [Flows, queue] at flows
          exact flows
        exact meshGattWrite_attempts completes
          (⟨pkt, [], rfl, rfl⟩ : CalledForHead pkt.ref { st with pktOut := [pkt] })
          idle (by change 1 + activeCount st ≤ depth; omega)
      constructor
      · intro flows
        have attempts := (started flows).1
        exact ⟨attempts.writes, attempts.flows, attempts.stops⟩
      · intro flows _ same
        have wrote := (started flows).2
        dsimp only at wrote
        omega
      · exact fun waits => absurd queue waits.nonempty
  | cons head rest =>
      have full : (!(head :: rest).isEmpty) = true := rfl
      rw [if_pos full]
      constructor
      · intro flows
        rw [Flows, queue] at flows
        exact Attempts.of_flows rfl flows
      · intro _ empty
        cases queue.symm.trans empty
      · exact fun waits => ⟨⟨by simp, waits.idle⟩, rfl⟩

theorem sendSeg_moves (completes : Completes env depth cmplt)
    (sar : MeshSarMsg) (seg : Byte) {st : NetState}
    (bounded : activeCount st < depth) :
    Moves env st (sendSeg env cmplt sar seg st) := by
  rw [sendSeg]
  cases st.findNetKeyByIdx sar.netIdx with
  | none => exact Moves.refl st
  | some netKey =>
      have built : Moves env st (recordBuilt sar seg netKey.sendPart.nid st).2 := by
        rcases recordBuilt_eq sar seg netKey.sendPart.nid st with ⟨_, _, equal⟩
        rw [equal]
        exact .of_same rfl rfl rfl
      apply built.trans
      apply sendMeshPkt_moves completes
      rw [activeCount, recordBuilt_msgOut]
      exact bounded

section Resend

variable (completes : Completes env depth cmplt)
  (transmits : ∀ Fresh, cmplt.Transmits Fresh)
include completes transmits

theorem resendFrom_moves {sar : MeshSarMsg} {segs : List Nat}
    (inMessage : ∀ seg ∈ segs, seg ≤ sar.segN.toNat) {st : NetState}
    (bounded : activeCount st < depth) :
    Moves env st (resendFrom env cmplt sar segs st) := by
  induction segs generalizing st with
  | nil => exact Moves.refl st
  | cons seg rest induction =>
      rcases List.forall_mem_cons.mp inMessage with ⟨segIn, restIn⟩
      rw [resendFrom]
      split
      next =>
        have moved := @sendSeg_moves env cmplt depth completes sar
          (BitVec.ofNat 8 seg) st bounded
        apply moved.trans
        apply induction restIn
        have sent : TxRun (fun _ => True) st
            (sendSeg env cmplt sar (BitVec.ofNat 8 seg) st) :=
          sendSeg_run (transmits _) (Or.inr trivial) (toNat_ofNat_seg segIn)
        exact Nat.lt_of_le_of_lt sent.activeCount_le bounded
      next => exact induction restIn bounded

theorem resendSegs_moves {sar : MeshSarMsg} {st : NetState}
    (bounded : activeCount (st.setSarOut sar.frozen) < depth) :
    Moves env st (resendSegs env cmplt sar st) := by
  have cleared : Moves env st (st.setSarOut sar.frozen) := .of_same rfl rfl rfl
  apply cleared.trans
  apply resendFrom_moves completes transmits
  · intro seg member
    exact Nat.le_of_lt_succ (List.mem_range.mp member)
  · exact bounded

theorem resendUnackedSegs_moves (dsts : List U32) {st : NetState}
    (bounded : activeCount st ≤ depth) :
    Moves env st (resendUnackedSegs env cmplt dsts st) := by
  induction dsts generalizing st with
  | nil => exact Moves.refl st
  | cons dst rest induction =>
      rw [resendUnackedSegs]
      cases found : st.msgOut.find dst with
      | none => exact induction bounded
      | some sar =>
          dsimp only
          split
          next active =>
            have present := KeyedList.mem_of_find found
            have fewer := countP_clear_lt present active
            have resent : TxRun (fun _ => True) st
                (resendSegs env cmplt sar st) :=
              resendSegs_run (transmits _) present
            have moved := @resendSegs_moves env cmplt depth completes transmits
              sar st (Nat.lt_of_lt_of_le fewer bounded)
            apply moved.trans
            exact induction (Nat.le_trans resent.activeCount_le bounded)
          next => exact induction bounded

/-- After a completion the next packet is written, or the empty queue filled. -/
theorem continueQueue_attempts {st : NetState} (idle : st.acquiring = [])
    (bounded : cmpltDepth st ≤ depth) :
    Attempts env st (continueQueue env cmplt st) ∧
      (st.written.length < (continueQueue env cmplt st).written.length ∨
        (continueQueue env cmplt st).pktOut = [] ∧ st.pktOut = []) := by
  rw [continueQueue]
  cases queue : st.pktOut with
  | nil =>
      have flows : Flows st := by
        rw [Flows, idle, queue]
        rfl
      have active : activeCount st ≤ depth :=
        Nat.le_trans (Nat.le_add_left _ _) bounded
      have moved := @resendUnackedSegs_moves env cmplt depth completes transmits
        (st.msgOut.records.map MeshSarMsg.dst) st active
      have attempts := moved.attempts flows
      refine ⟨attempts, ?_⟩
      rcases Nat.lt_or_eq_of_le attempts.writes with wrote | same
      · exact Or.inl wrote
      · exact Or.inr ⟨moved.empty flows queue same.symm, rfl⟩
  | cons pkt rest =>
      have started := meshGattWrite_attempts completes
        (⟨pkt, rest, queue, rfl⟩ : CalledForHead pkt.ref st) idle bounded
      exact ⟨started.1, Or.inl started.2⟩

end Resend

/-! ## Completions -/

theorem dequeue_head {ref : Nat} {st : NetState} (head : CalledForHead ref st) :
    dequeue ref st = { st with pktOut := st.pktOut.tail } := by
  rcases head with ⟨pkt, rest, queue, isRef⟩
  rw [dequeue, queue]
  exact if_pos isRef

theorem sendPktCmplt_completes (env : NetEnv) (depth : Nat) :
    Completes env depth (sendPktCmplt env) := by
  induction depth with
  | zero =>
      intro ref st head idle bounded
      have shorter := cmpltDepth_dequeue_head head
      omega
  | succ depth induction =>
      intro ref st head idle bounded
      have shorter := cmpltDepth_dequeue_head head
      rw [sendPktCmplt_eq, dequeue_head head]
      rw [dequeue_head head] at shorter
      have continued := @continueQueue_attempts env _ depth induction
        (fun _ => sendPktCmplt_transmits)
        { st with pktOut := st.pktOut.tail } idle (by omega)
      exact ⟨continued.1.writes, continued.1.flows, continued.1.stops⟩

/-- The completion of the head removes it, or starts another write. -/
theorem sendPktCmplt_advances {ref : Nat} {st : NetState}
    (head : CalledForHead ref st) (idle : st.acquiring = []) :
    st.written.length < (sendPktCmplt env ref st).written.length ∨
      (sendPktCmplt env ref st).pktOut = st.pktOut.tail := by
  rw [sendPktCmplt_eq, dequeue_head head]
  have continued := @continueQueue_attempts env _
    (cmpltDepth { st with pktOut := st.pktOut.tail })
    (sendPktCmplt_completes env _) (fun _ => sendPktCmplt_transmits)
    { st with pktOut := st.pktOut.tail } idle (Nat.le_refl _)
  rcases continued.2 with wrote | ⟨isEmpty, wasLast⟩
  · exact Or.inl wrote
  · exact Or.inr (isEmpty.trans wasLast.symm)

end Moves

/-! ## Everything that sends -/

section Senders

variable {env : NetEnv}

theorem sendPktCmplt_sendSeg (sar : MeshSarMsg) (seg : Byte) (st : NetState) :
    Moves env st (sendSeg env (sendPktCmplt env) sar seg st) :=
  sendSeg_moves (sendPktCmplt_completes env (activeCount st + 1)) sar seg
    (Nat.lt_succ_self _)

theorem sendPktCmplt_resendSegs (sar : MeshSarMsg) (st : NetState) :
    Moves env st (resendSegs env (sendPktCmplt env) sar st) :=
  resendSegs_moves (sendPktCmplt_completes env _)
    (fun _ => sendPktCmplt_transmits) (Nat.lt_succ_self _)

theorem netCtlMsgSend_moves (ttl : Byte) (src dst : U16) (buf : List Byte)
    (len : U16) (st : NetState) :
    Moves env st (netCtlMsgSend env ttl src dst buf len st).2 := by
  rw [netCtlMsgSend]
  cases st.nodes.localRecord with
  | none => exact Moves.refl st
  | some node =>
      dsimp only
      generalize (if src = 0 then node.primary else src) = source
      split
      · exact Moves.refl st
      · split
        · exact Moves.refl st
        · exact sendPktCmplt_sendSeg _ _ _

theorem sendSegs_moves (sar : MeshSarMsg) (segs : List Nat) (st : NetState) :
    Moves env st (sendSegs env sar segs st) := by
  induction segs generalizing st with
  | nil => exact Moves.refl st
  | cons seg rest induction =>
      exact (sendPktCmplt_sendSeg sar _ st).trans (induction _)

theorem sendAccessRecord_moves (sar : MeshSarMsg) (st : NetState) :
    Moves env st (sendAccessRecord env sar st) := by
  rw [sendAccessRecord]
  split
  · have flushed : Moves env st (st.flushSarOut sar.dst) := .of_same rfl rfl rfl
    have sent := @sendSegs_moves env sar (segmentRounds sar)
      (st.flushSarOut sar.dst)
    exact (flushed.trans sent).trans (.of_same rfl rfl rfl)
  · exact sendSegs_moves _ _ _

theorem netAccessLayerSend_moves (ttl : Byte) (src : U16) (dst : U32)
    (appIdx : U16) (buf : List Byte) (len : U16) (st : NetState) :
    Moves env st (netAccessLayerSend env ttl src dst appIdx buf len st).2 := by
  rcases @netAccessLayerSend_cases env ttl src dst appIdx buf len st with
    same | ⟨_, _, _, _, _, _, _, sent⟩
  · rw [same]
    exact Moves.refl st
  · rw [sent]
    exact sendAccessRecord_moves _ st

theorem setSarOut_moves (sar : MeshSarMsg) (st : NetState) :
    Moves env st (st.setSarOut sar) := .of_same rfl rfl rfl

theorem ackRxed_moves (src dst : U16) (obo : Bool) (seq0 : U16)
    (ackFlags : U32) (st : NetState) :
    Moves env st (ackRxed env src dst obo seq0 ackFlags st).2 := by
  rw [ackRxed]
  cases st.findSarOutByDst src with
  | none => exact Moves.refl st
  | some sar =>
      dsimp only
      split
      · exact .of_same rfl rfl rfl
      · split
        · exact (setSarOut_moves _ st).trans (sendPktCmplt_resendSegs _ _)
        · exact setSarOut_moves _ st

theorem sarOutAckTimeout_moves (dst : U32) (st : NetState) :
    Moves env st (sarOutAckTimeout env dst st) := by
  rw [sarOutAckTimeout]
  cases st.msgOut.find dst with
  | none => exact Moves.refl st
  | some sar =>
      dsimp only
      split
      · exact (setSarOut_moves _ st).trans (sendPktCmplt_resendSegs _ _)
      · exact setSarOut_moves _ st

theorem sendWhite_moves (white : List Byte) (st : NetState) :
    Moves env st (sendWhite env white st) :=
  netCtlMsgSend_moves _ _ _ _ _ st

theorem setupWhitelist_moves (st : NetState) :
    Moves env st (setupWhitelist env st) :=
  setupWhitelist_relates Moves.refl Moves.trans
    (fun white st _ _ => sendWhite_moves white st) st

/-- An accepted beacon leaves the queue alone before it sends. -/
theorem takeOver_moves {first ivUpdate : Bool} {ivIndex : U32}
    {st windows : NetState}
    (passed : enforceWindows first ivUpdate ivIndex st = some windows) :
    Moves env st (takeOver ivUpdate ivIndex windows) := by
  rcases enforceWindows_eq passed with ⟨ivUpdState, isWindows⟩
  rcases takeOver_eq ivUpdate ivIndex windows with ⟨_, _, taken⟩
  rw [taken, isWindows]
  exact .of_same rfl rfl rfl

theorem processBeacon_moves (data : List Byte) (size : Byte) (st : NetState) :
    Moves env st (processBeacon env data size st).nextState := by
  rw [processBeacon]
  split
  next => exact Moves.refl st
  next =>
    dsimp only
    split
    next => exact Moves.refl st
    next =>
      split
      next => exact Moves.refl st
      next =>
        split
        next => exact Moves.refl st
        next =>
          rw [beaconUpdate]
          cases passed : enforceWindows (st.ivUpdState = ivUpdInit)
            (recognizedIvUpdate data st) (beaconIvIndex data) st with
          | none => exact Moves.refl st
          | some windows =>
              dsimp only
              split
              · exact (takeOver_moves passed).trans (setupWhitelist_moves _)
              · exact takeOver_moves passed

end Senders

/-! ## Sessions -/

/-- What can happen while a session stays open. -/
def NetInput.InSession : NetInput → Prop
  | .sessionOpen _ _ _ => False
  | .sessionClose _ => False
  | _ => True

abbrev SessionInput := { input : NetInput // input.InSession }

def sessionModel (env : NetEnv) :
    Model NetState SessionInput NetObservation where
  step st input := netStep env st input.val

/-- A session that was opened while no write was outstanding. -/
def openedSession (st : NetState) : NetState :=
  { st with pktOut := [], acquiring := [] }

/-- If the queue is not empty, the write of its head is the outstanding one. -/
def OneOutstanding (st : NetState) : Prop :=
  ∀ pkt rest, st.pktOut = pkt :: rest → st.acquiring = [pkt.ref]

/-- The head is removed, or another write started. -/
def Advances (before after : NetState) : Prop :=
  after.pktOut = before.pktOut.tail ∨
    before.written.length < after.written.length

/-- The queue is not stuck after a step, and an outstanding write that ended,
well or not, has advanced it. -/
structure QueueMoves (entry : Entry NetState SessionInput NetObservation) :
    Prop where
  outstanding : OneOutstanding entry.after
  advances : ∀ index success, entry.input.val = .writeReply index success →
    index < entry.before.acquiring.length → Advances entry.before entry.after

/-- No write that a step starts is refused, and none that was outstanding
fails. -/
structure WritesSucceed (env : NetEnv)
    (entry : Entry NetState SessionInput NetObservation) : Prop where
  started : NoRefusal env entry.before entry.after
  replied : ∀ index success, entry.input.val = .writeReply index success →
    index < entry.before.acquiring.length → success = true

section Session

variable {env : NetEnv} {st : NetState}

theorem Flows.oneOutstanding (flows : Flows st) : OneOutstanding st := by
  intro pkt rest queue
  rw [Flows, queue] at flows
  exact flows

theorem Waits.not_oneOutstanding (waits : Waits st) : ¬OneOutstanding st := by
  intro one
  cases queue : st.pktOut with
  | nil => exact waits.nonempty queue
  | cons pkt rest =>
      have outstanding := one pkt rest queue
      rw [waits.idle] at outstanding
      cases outstanding

/-- An outstanding write is that of the head. -/
theorem Flows.head_of_outstanding (flows : Flows st) {index : Nat}
    (inRange : index < st.acquiring.length) :
    ∃ pkt rest, st.pktOut = pkt :: rest ∧ st.acquiring = [pkt.ref] ∧
      index = 0 := by
  cases queue : st.pktOut with
  | nil =>
      rw [Flows, queue] at flows
      rw [flows] at inRange
      cases inRange
  | cons pkt rest =>
      rw [Flows, queue] at flows
      have one : st.acquiring = [pkt.ref] := flows
      rw [one, List.length_singleton, Nat.lt_one_iff] at inRange
      exact ⟨pkt, rest, rfl, one, inRange⟩

theorem acquireWriteReply_none {index : Nat} (success : Bool)
    (outside : ¬index < st.acquiring.length) :
    acquireWriteReply env index success st = st := by
  rw [acquireWriteReply, List.getElem?_eq_none (Nat.le_of_not_lt outside)]

/-- The reply to an outstanding write. -/
theorem acquireWriteReply_head {pkt : MeshPkt} (success : Bool)
    (one : st.acquiring = [pkt.ref]) :
    acquireWriteReply env 0 success st =
      if success then sendPktCmplt env pkt.ref { st with acquiring := [] }
      else { st with acquiring := [] } := by
  rw [acquireWriteReply, one]
  rfl

/-- A reply that reports a failure leaves its packet in the queue. -/
theorem failedReply_waits (flows : Flows st) {index : Nat}
    (inRange : index < st.acquiring.length) :
    Waits (acquireWriteReply env index false st) := by
  rcases flows.head_of_outstanding inRange with ⟨pkt, rest, queue, one, isFirst⟩
  rw [isFirst, acquireWriteReply_head false one]
  exact ⟨by simp [queue], rfl⟩

/-- A write that succeeds goes on with the queue, and so does everything else. -/
theorem sessionStep_attempts (flows : Flows st) (input : SessionInput)
    (answered : ∀ index, input.val = .writeReply index false →
      ¬index < st.acquiring.length) :
    Attempts env st (netStep env st input.val).nextState := by
  rcases input with ⟨input, inSession⟩
  cases input with
  | beacon data size => exact (processBeacon_moves data size st).attempts flows
  | accessSend ttl src dst appIdx buf len =>
      exact (netAccessLayerSend_moves _ _ _ _ _ _ st).attempts flows
  | ctlSend ttl src dst buf len =>
      exact (netCtlMsgSend_moves _ _ _ _ _ st).attempts flows
  | ack src dst obo seq0 ackFlags =>
      exact (ackRxed_moves src dst obo seq0 ackFlags st).attempts flows
  | ackTimeout dst => exact (sarOutAckTimeout_moves dst st).attempts flows
  | msgTimeout dst =>
      have flushed : Moves env st (sarOutMsgTimeout dst st) :=
        .of_same rfl rfl rfl
      exact flushed.attempts flows
  | writeReply index success =>
      change Attempts env st (acquireWriteReply env index success st)
      by_cases inRange : index < st.acquiring.length
      · cases success with
        | false => exact absurd inRange (answered index rfl)
        | true =>
            rcases flows.head_of_outstanding inRange with
              ⟨pkt, rest, queue, one, isFirst⟩
            rw [isFirst, acquireWriteReply_head true one, if_pos rfl]
            have attempts := sendPktCmplt_completes env _ pkt.ref
              { st with acquiring := [] } ⟨pkt, rest, queue, rfl⟩ rfl
              (Nat.le_refl _)
            exact ⟨attempts.writes, attempts.flows, attempts.stops⟩
      · rw [acquireWriteReply_none success inRange]
        exact (Moves.refl st).attempts flows
  | sessionOpen dataIn provisioner cb => exact absurd inSession id
  | sessionClose dataIn => exact absurd inSession id

/-- The completion of an outstanding write advances the queue. -/
theorem completedReply_advances (flows : Flows st) {index : Nat}
    (inRange : index < st.acquiring.length) :
    Advances st (acquireWriteReply env index true st) := by
  rcases flows.head_of_outstanding inRange with ⟨pkt, rest, queue, one, isFirst⟩
  rw [isFirst, acquireWriteReply_head true one, if_pos rfl]
  have head : CalledForHead pkt.ref { st with acquiring := [] } :=
    ⟨pkt, rest, queue, rfl⟩
  exact (sendPktCmplt_advances head rfl).symm

theorem WritesSucceed.answered {input : SessionInput}
    (succeed : WritesSucceed env ((sessionModel env).entry st input)) :
    ∀ index, input.val = .writeReply index false →
      ¬index < st.acquiring.length := by
  intro index isReply inRange
  cases succeed.replied index false isReply inRange

/-- A step keeps the queue moving if and only if its writes succeed. -/
theorem queueMoves_iff (flows : Flows st) (input : SessionInput) :
    QueueMoves ((sessionModel env).entry st input) ↔
      WritesSucceed env ((sessionModel env).entry st input) := by
  constructor
  · intro moves
    have answered : ∀ index, input.val = .writeReply index false →
        ¬index < st.acquiring.length := by
      intro index isReply inRange
      have waits := @failedReply_waits env st flows index inRange
      have outstanding := moves.outstanding
      simp only [Model.entry, sessionModel, isReply, netStep] at outstanding
      exact waits.not_oneOutstanding outstanding
    have attempts := @sessionStep_attempts env st flows input answered
    constructor
    · by_contra refused
      exact (attempts.stops refused).not_oneOutstanding moves.outstanding
    · intro index success isReply inRange
      cases success with
      | false => exact absurd inRange (answered index isReply)
      | true => rfl
  · intro succeed
    have attempts := @sessionStep_attempts env st flows input succeed.answered
    constructor
    · exact (attempts.flows succeed.started).oneOutstanding
    · intro index success isReply inRange
      have succeeded := succeed.replied index success isReply inRange
      have advances := @completedReply_advances env st flows index inRange
      change input.val = .writeReply index success at isReply
      change Advances st (netStep env st input.val).nextState
      rw [isReply, succeeded]
      exact advances

end Session

/-- The queue never stalls in a session if and only if none of its writes is
refused or fails. -/
theorem queue_never_stalls_iff (env : NetEnv) (st : NetState)
    (inputs : List SessionInput) :
    (∀ entry ∈ (sessionModel env).trace (openedSession st) inputs,
        QueueMoves entry) ↔
      ∀ entry ∈ (sessionModel env).trace (openedSession st) inputs,
        WritesSucceed env entry :=
  (sessionModel env).forall_trace_iff Flows (WritesSucceed env) QueueMoves
    (fun _ input flows succeed =>
      (sessionStep_attempts flows input succeed.answered).flows succeed.started)
    (fun _ input flows => queueMoves_iff flows input) inputs rfl

/-! ### A write that is refused -/

/-- The pipe is never acquired: every call is refused. -/
def refusingEnv : NetEnv := { plainEnv with gatt := fun _ => .refused }

def heartbeatSend : SessionInput :=
  ⟨.ctlSend 4 0 2 [netOpHeartbeat] 1, trivial⟩

theorem queue_stalls_after_refusal :
    ¬∀ (env : NetEnv) (st : NetState) (inputs : List SessionInput),
      ∀ entry ∈ (sessionModel env).trace (openedSession st) inputs,
        QueueMoves entry := by
  intro always
  have moves := always refusingEnv openNode [heartbeatSend] _
    List.mem_cons_self
  have waits : Waits (netStep refusingEnv (openedSession openNode)
      heartbeatSend.val).nextState := by
    constructor <;> decide +kernel
  exact waits.not_oneOutstanding moves.outstanding

end Meshctl.Net
