import Meshctl.Net.BeaconSafety

/-! # Network nonces are not used twice

A network nonce is determined by the source address, the IV index and the
sequence number of a packet. The counter restarts when a beacon changes the IV
state, and a segmented message keeps the IV index it was created with.
-/

namespace Meshctl.Net

open Execution

/-- The IV index and the sequence number field that a packet was secured
with. -/
def BuiltPkt.nonce (pkt : BuiltPkt) : U32 × U32 :=
  (pkt.sar.ivIndex, pktSeq pkt.plain)

def DistinctNonces (built : List BuiltPkt) : Prop :=
  built.Pairwise fun earlier later =>
    pktSrc earlier.plain = pktSrc later.plain → earlier.nonce ≠ later.nonce

/-- The packet has a sequence number of 24 bits and does not belong to a message
from before the last restart of the counter. -/
def BuiltPkt.Current (pkt : BuiltPkt) : Prop :=
  pkt.seq ≤ 0xffffff ∧ pkt.restartedAt ≤ pkt.sar.ivIndex

def AllCurrent (st : NetState) : Prop := ∀ pkt ∈ st.built, pkt.Current

/-- A beacon that starts an IV update names a new IV index, and every packet is
current. -/
structure NonceSafe (env : NetEnv)
    (entry : Entry NetState NetInput NetObservation) : Prop where
  update : ∀ data, entry.input = .beacon data 22 →
    acceptsBeacon env data entry.before = true →
    entry.before.ivUpdate = false → beaconIvUpdate data = true →
    beaconIvIndex data ≠ entry.before.ivIndex
  current : AllCurrent entry.after

structure NonceInvariant (st : NetState) : Prop where
  /-- There is an IV index to transmit with. -/
  started : st.ivUpdate = true → 0 < st.ivIndex.toNat
  outgoing : ∀ sar ∈ st.msgOut.records,
    sar.ivIndex.toNat ≤ st.transmitIv.toNat
  transmitted : ∀ pkt ∈ st.built,
    pkt.sar.ivIndex.toNat ≤ st.transmitIv.toNat
  /-- Packets from before the last restart have an older IV index, the others a
  smaller sequence number than any packet to come. -/
  restarted : ∀ pkt ∈ st.built,
    pkt.sar.ivIndex.toNat < st.restartedAt.toNat ∨
      pkt.seq.toNat < st.seqNum.toNat
  distinct : st.built.Pairwise fun earlier later =>
    earlier.nonce ≠ later.nonce

/-! ## Transmitting -/

theorem NonceInvariant.build {st : NetState} (invariant : NonceInvariant st)
    {sar : MeshSarMsg} (seg nid : Byte)
    (old : sar.ivIndex.toNat ≤ st.transmitIv.toNat)
    (current : AllCurrent (recordBuilt sar seg nid st).2) :
    NonceInvariant (recordBuilt sar seg nid st).2 := by
  rcases recordBuilt_eq sar seg nid st with ⟨reserved, stored, equal⟩
  rw [equal] at current ⊢
  have ⟨narrow, notOlder⟩ := current _ (List.mem_append_right _
    (List.mem_singleton_self _))
  simp only [BitVec.le_def, BitVec.ofNat_eq_ofNat, BitVec.toNat_ofNat]
    at narrow notOlder
  have next : (st.seqNum + 1).toNat = st.seqNum.toNat + 1 := by
    simp only [BitVec.toNat_add, BitVec.ofNat_eq_ofNat, BitVec.toNat_ofNat]
    omega
  refine ⟨invariant.started, invariant.outgoing, ?_, ?_, ?_⟩
  · intro pkt member
    rcases List.mem_append.mp member with earlier | new
    · exact invariant.transmitted pkt earlier
    · rw [List.mem_singleton.mp new]
      exact old
  · intro pkt member
    dsimp only
    rw [next]
    rcases List.mem_append.mp member with earlier | new
    · have bound := invariant.restarted pkt earlier
      omega
    · rw [List.mem_singleton.mp new]
      exact Or.inr (Nat.lt_succ_self _)
  · apply List.pairwise_append.mpr
    refine ⟨invariant.distinct, List.pairwise_singleton _ _, ?_⟩
    intro earlier member new isNew same
    rw [List.mem_singleton.mp isNew] at same
    have ⟨earlierNarrow, _⟩ := current earlier (List.mem_append_left _ member)
    simp only [BitVec.le_def, BitVec.ofNat_eq_ofNat, BitVec.toNat_ofNat]
      at earlierNarrow
    have sameIv := congrArg (fun nonce => nonce.1.toNat) same
    have sameSeq := congrArg (fun nonce => nonce.2.toNat) same
    simp only [BuiltPkt.nonce, BuiltPkt.plain, pktSeq_segmentPdu,
      toNat_and_seqMask] at sameIv sameSeq
    have apart := invariant.restarted earlier member
    omega

theorem NonceInvariant.step {Fresh : MeshSarMsg → Prop}
    {before after : NetState} (invariant : NonceInvariant before)
    (fresh : ∀ sar, Fresh sar →
      sar.ivIndex.toNat ≤ before.transmitIv.toNat)
    (step : TxStep Fresh before after) (current : AllCurrent after) :
    NonceInvariant after := by
  cases step with
  | build sar seg nid allowed inMessage =>
      apply invariant.build seg nid _ current
      rcases allowed with outgoing | isFresh
      · rcases List.mem_map.mp outgoing with ⟨out, member, same⟩
        have sameIv := congrArg MeshSarMsg.ivIndex same
        change out.ivIndex = sar.ivIndex at sameIv
        rw [← sameIv]
        exact invariant.outgoing out member
      · exact fresh sar isFresh
  | queue =>
      exact ⟨invariant.started, invariant.outgoing, invariant.transmitted,
        invariant.restarted, invariant.distinct⟩
  | clear sar present =>
      refine ⟨invariant.started, ?_, invariant.transmitted,
        invariant.restarted, invariant.distinct⟩
      have same := (TxStep.clear sar present : TxStep Fresh _ _).msgOut_frozen
      intro out member
      rcases exists_same_frozen same member with ⟨old, oldMember, sameFrozen⟩
      have sameIv := congrArg MeshSarMsg.ivIndex sameFrozen
      change old.ivIndex = out.ivIndex at sameIv
      rw [← sameIv]
      exact invariant.outgoing old oldMember

/-- Transmitting keeps the invariant as long as all packets are current. -/
theorem NonceInvariant.run {Fresh : MeshSarMsg → Prop}
    {before after : NetState} (invariant : NonceInvariant before)
    (fresh : ∀ sar, Fresh sar →
      sar.ivIndex.toNat ≤ before.transmitIv.toNat)
    (run : TxRun Fresh before after) (current : AllCurrent after) :
    NonceInvariant after := by
  induction run with
  | refl => exact invariant
  | @tail middle last run step induction =>
      apply (induction _).step _ step current
      · exact fun pkt member => current pkt (step.built pkt member)
      · rw [TxRun.transmitIv run]
        exact fresh

/-! ## The outgoing messages -/

/-- Other outgoing messages, with IV indexes that are in force already. -/
theorem NonceInvariant.withMsgOut {st : NetState}
    (invariant : NonceInvariant st) (msgOut : SarQueue)
    (outgoing : ∀ sar ∈ msgOut.records,
      sar.ivIndex.toNat ≤ st.transmitIv.toNat) :
    NonceInvariant { st with msgOut } :=
  ⟨invariant.started, outgoing, invariant.transmitted, invariant.restarted,
    invariant.distinct⟩

theorem NonceInvariant.flush {st : NetState} (invariant : NonceInvariant st)
    (dst : U32) : NonceInvariant (st.flushSarOut dst) :=
  invariant.withMsgOut _ fun sar member =>
    invariant.outgoing sar ((KeyedList.mem_remove _ _ _).mp member).1

theorem NonceInvariant.set {st : NetState} (invariant : NonceInvariant st)
    {sar : MeshSarMsg} (old : sar.ivIndex.toNat ≤ st.transmitIv.toNat) :
    NonceInvariant (st.setSarOut sar) := by
  apply invariant.withMsgOut
  intro out member
  rcases KeyedList.mem_set member with isNew | ⟨present, _⟩
  · exact isNew ▸ old
  · exact invariant.outgoing out present

theorem NonceInvariant.append {st : NetState} (invariant : NonceInvariant st)
    {sar : MeshSarMsg} (old : sar.ivIndex.toNat ≤ st.transmitIv.toNat) :
    NonceInvariant { st with msgOut := st.msgOut.append sar } := by
  apply invariant.withMsgOut
  intro out member
  rcases (KeyedList.mem_append _ _ _).mp member with ⟨present, _⟩ | isNew
  · exact invariant.outgoing out present
  · exact isNew ▸ old

/-! ## Beacons -/

/-- The transmit IV index never falls, and it rises whenever the counter
restarts. -/
theorem NonceInvariant.takeOver {st : NetState} (invariant : NonceInvariant st)
    {ivUpdate : Bool} {ivIndex : U32}
    (forward : st.ivIndex.toNat ≤ ivIndex.toNat)
    (later : st.ivUpdate = false → ivUpdate = true → ivIndex ≠ st.ivIndex) :
    NonceInvariant (takeOver ivUpdate ivIndex st) := by
  rcases takeOver_eq ivUpdate ivIndex st with ⟨reserved, stored, equal⟩
  have oldIv : st.transmitIv.toNat =
      st.ivIndex.toNat - if st.ivUpdate then 1 else 0 := by
    have started := invariant.started
    rw [NetState.transmitIv]
    cases update : st.ivUpdate with
    | false => simp
    | true =>
        have positive := started update
        simp only [if_true, BitVec.toNat_sub, BitVec.ofNat_eq_ofNat,
          BitVec.toNat_ofNat]
        omega
  have started : ivUpdate = true → 0 < ivIndex.toNat := by
    intro update
    cases before : st.ivUpdate with
    | false =>
        have apart := mt BitVec.eq_of_toNat_eq (later before update)
        omega
    | true => exact Nat.lt_of_lt_of_le (invariant.started before) forward
  have newIv : (ivIndex - if ivUpdate then 1 else 0 : U32).toNat =
      ivIndex.toNat - if ivUpdate then 1 else 0 := by
    cases ivUpdate with
    | false => simp
    | true =>
        have positive := started rfl
        simp only [if_true, BitVec.toNat_sub, BitVec.ofNat_eq_ofNat,
          BitVec.toNat_ofNat]
        omega
  have rises : st.transmitIv.toNat ≤
        (ivIndex - if ivUpdate then 1 else 0 : U32).toNat ∧
      (restartsSeq ivUpdate ivIndex st = true → st.transmitIv.toNat <
        (ivIndex - if ivUpdate then 1 else 0 : U32).toNat) := by
    rw [oldIv, newIv]
    have apart : st.ivUpdate = false → ivUpdate = true →
        ivIndex.toNat ≠ st.ivIndex.toNat := fun before update =>
      mt BitVec.eq_of_toNat_eq (later before update)
    have next : st.ivIndex + 1 = ivIndex ↔
        (st.ivIndex.toNat + 1) % 2 ^ 32 = ivIndex.toNat := by
      rw [← BitVec.toNat_inj, BitVec.toNat_add]
      rfl
    have positive := invariant.started
    have bound := ivIndex.isLt
    cases before : st.ivUpdate <;> cases ivUpdate <;>
      simp only [restartsSeq, before, next, BitVec.lt_def, if_true,
        Bool.false_eq_true, if_false] <;>
      simp [before] at * <;> omega
  rw [equal]
  refine ⟨started, ?_, ?_, ?_, invariant.distinct⟩
  · intro sar member
    exact Nat.le_trans (invariant.outgoing sar member) rises.1
  · intro pkt member
    exact Nat.le_trans (invariant.transmitted pkt member) rises.1
  · intro pkt member
    dsimp only
    split
    next restarts =>
      have atMost := invariant.transmitted pkt member
      have above := rises.2 restarts
      exact Or.inl (Nat.lt_of_le_of_lt atMost above)
    next => exact invariant.restarted pkt member

theorem NonceInvariant.beacon {env : NetEnv} {st : NetState}
    (invariant : NonceInvariant st) {data : List Byte} {size : Byte}
    (later : size = 22 → acceptsBeacon env data st = true →
      st.ivUpdate = false → beaconIvUpdate data = true →
      beaconIvIndex data ≠ st.ivIndex)
    (current : AllCurrent (processBeacon env data size st).nextState) :
    NonceInvariant (processBeacon env data size st).nextState := by
  rcases processBeacon_cases data size st with
    unchanged | ⟨isSize, accepted, windows, passed, sent⟩
  · rw [unchanged]
    exact invariant
  · have ⟨_, forward, _⟩ := acceptsBeacon_spec isSize accepted
    rcases enforceWindows_eq passed with ⟨ivUpdState, equal⟩
    subst equal
    have passedWindows : NonceInvariant { st with ivUpdState } :=
      ⟨invariant.started, invariant.outgoing, invariant.transmitted,
        invariant.restarted, invariant.distinct⟩
    have taken : NonceInvariant (Net.takeOver (recognizedIvUpdate data st)
        (beaconIvIndex data) { st with ivUpdState }) := by
      apply passedWindows.takeOver forward
      intro before update
      change st.ivUpdate = false at before
      rw [recognizedIvUpdate, before, Bool.and_false, Bool.or_false] at update
      exact later isSize accepted before update
    apply taken.run _ sent current
    intro sar isControl
    exact Nat.le_of_eq (congrArg BitVec.toNat isControl.1)

/-! ## The machine -/

theorem NonceInvariant.accessSend {env : NetEnv} {st : NetState}
    (invariant : NonceInvariant st) {sar : MeshSarMsg}
    (inForce : sar.ivIndex = st.transmitIv)
    (current : AllCurrent (sendAccessRecord env sar st)) :
    NonceInvariant (sendAccessRecord env sar st) := by
  have fresh : ∀ other : MeshSarMsg, other.ivIndex = st.transmitIv →
      other.ivIndex.toNat ≤ st.transmitIv.toNat :=
    fun other equal => Nat.le_of_eq (congrArg BitVec.toNat equal)
  rcases @sendAccessRecord_cases env (·.ivIndex = st.transmitIv) sar inForce st
    with ⟨_, sent, run, equal⟩ | ⟨_, run⟩
  · rw [equal] at current ⊢
    apply ((invariant.flush sar.dst).run fresh run current).append
    rw [TxRun.transmitIv run]
    exact fresh sar inForce
  · exact invariant.run fresh run current

theorem netStep_nonceInvariant (env : NetEnv) {st : NetState}
    (invariant : NonceInvariant st) (input : NetInput)
    (safe : NonceSafe env ((netModel env).entry st input)) :
    NonceInvariant (netStep env st input).nextState := by
  have current := safe.current
  have none : ∀ (iv : Nat) (sar : MeshSarMsg), False →
      sar.ivIndex.toNat ≤ iv := fun _ _ absurd => absurd.elim
  cases input with
  | beacon data size =>
      apply invariant.beacon _ current
      intro isSize accepted before update
      subst isSize
      exact safe.update data rfl accepted before update
  | accessSend ttl src dst appIdx buf len =>
      change NonceInvariant
        (netAccessLayerSend env ttl src dst appIdx buf len st).2
      change AllCurrent
        (netAccessLayerSend env ttl src dst appIdx buf len st).2 at current
      rcases @netAccessLayerSend_cases env ttl src dst appIdx buf len st with
        unchanged | ⟨_, _, _, _, _, _, _, equal⟩
      · rw [unchanged]
        exact invariant
      · rw [equal] at current ⊢
        exact invariant.accessSend rfl current
  | ctlSend ttl src dst buf len =>
      apply invariant.run _ (netCtlMsgSend_run ttl src dst buf len st) current
      intro sar isControl
      exact Nat.le_of_eq (congrArg BitVec.toNat isControl.1)
  | ack src dst obo seq0 ackFlags =>
      change NonceInvariant (ackRxed env src dst obo seq0 ackFlags st).2
      change AllCurrent (ackRxed env src dst obo seq0 ackFlags st).2 at current
      rcases @ackRxed_cases env src dst obo seq0 ackFlags st with
        ⟨_, unchanged⟩ | ⟨sar, found, ⟨_, flushed⟩ | ⟨_, run⟩⟩
      · rw [unchanged]
        exact invariant
      · rw [flushed]
        exact invariant.flush sar.dst
      · apply NonceInvariant.run _ (none _) run current
        exact invariant.set
          (invariant.outgoing sar (KeyedList.mem_of_find found))
  | ackTimeout dst =>
      change NonceInvariant (sarOutAckTimeout env dst st)
      rcases @sarOutAckTimeout_cases env dst st with
        unchanged | ⟨sar, present, run⟩
      · rw [unchanged]
        exact invariant
      · apply NonceInvariant.run _ (none _) run current
        exact invariant.set (invariant.outgoing sar present)
  | msgTimeout dst => exact invariant.flush dst
  | writeReply index success =>
      exact invariant.run (none _) (acquireWriteReply_run index success st) current
  | sessionOpen dataIn provisioner cb =>
      change NonceInvariant (netSessionOpen dataIn provisioner cb st).2
      rw [netSessionOpen]
      cases st.proxyIn with
      | some _ => exact invariant
      | none =>
          exact ⟨invariant.started, invariant.outgoing, invariant.transmitted,
            invariant.restarted, invariant.distinct⟩
  | sessionClose dataIn =>
      exact ⟨invariant.started, fun sar member => (by cases member),
        invariant.transmitted, invariant.restarted, invariant.distinct⟩

/-- A state from which nothing was sent yet. An update that is under way has
left IV index 0 behind. -/
structure BeforeSending (st : NetState) : Prop where
  built : st.built = []
  msgOut : st.msgOut.records = []
  started : st.ivUpdate = true → 0 < st.ivIndex.toNat

/-- In a run in which no beacon starts an update of the IV index in force and
every packet is current, no two packets of one source share a nonce. -/
theorem nonces_distinct (env : NetEnv) {start : NetState}
    (fresh : BeforeSending start) (inputs : List NetInput)
    (safe : ∀ entry ∈ (netModel env).trace start inputs, NonceSafe env entry) :
    DistinctNonces ((netModel env).finalState start inputs).built := by
  have initial : NonceInvariant start := by
    refine ⟨fresh.started, ?_, ?_, ?_, ?_⟩
    · simp [fresh.msgOut]
    · simp [fresh.built]
    · simp [fresh.built]
    · simp [fresh.built]
  have final := (netModel env).invariant_finalState NonceInvariant
    (NonceSafe env)
    (fun st input invariant safe =>
      netStep_nonceInvariant env invariant input safe)
    initial safe
  rw [DistinctNonces]
  apply final.distinct.imp
  intro earlier later apart _
  exact apart

/-! ### An update of the IV index in force -/

def sendOneByte : NetInput := .ctlSend 0 0 2 [1] 1

/-- A packet, then beacons that start and end an update without a new IV index,
and the same packet again. -/
def updateInPlace : List NetInput :=
  [sendOneByte, .beacon (plainBeacon 2 5) 22, .beacon (plainBeacon 0 5) 22,
    sendOneByte]

theorem openNode_beforeSending : BeforeSending openNode where
  built := rfl
  msgOut := rfl
  started := by decide

theorem nonces_not_always_distinct :
    ¬∀ (env : NetEnv) (start : NetState), BeforeSending start →
      ∀ inputs : List NetInput,
        DistinctNonces ((netModel env).finalState start inputs).built := by
  intro always
  have distinct := always plainEnv openNode openNode_beforeSending updateInPlace
  rw [DistinctNonces] at distinct
  revert distinct
  decide +kernel

theorem nonces_distinct_two_packets :
    DistinctNonces ((netModel plainEnv).finalState openNode
      [sendOneByte, sendOneByte]).built := by
  apply nonces_distinct plainEnv openNode_beforeSending
  intro entry member
  refine ⟨?_, ?_⟩
  · intro data isBeacon
    revert isBeacon
    simp only [Execution.Model.trace_cons, Execution.Model.trace_nil,
      List.mem_cons, List.not_mem_nil, or_false] at member
    rcases member with equal | equal <;> subst equal <;> intro isBeacon <;>
      cases isBeacon
  · simp only [Execution.Model.trace_cons, Execution.Model.trace_nil,
      List.mem_cons, List.not_mem_nil, or_false] at member
    rcases member with equal | equal <;> subst equal <;>
      (simp only [AllCurrent, BuiltPkt.Current]; decide +kernel)

end Meshctl.Net
