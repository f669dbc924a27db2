import Meshctl.Net.Transmit

/-! # Nested completions end

The completion handler and the functions that it calls are mutually recursive.
The bound on the nesting is never reached: `sendPktCmplt` satisfies the
equation that the source defines it by.
-/

namespace Meshctl.Net

def activeCount (st : NetState) : Nat :=
  st.msgOut.records.countP (·.activityCnt ≠ 0)

/-- The handler is called for the packet at the head of the queue. -/
def CalledForHead (ref : Nat) (st : NetState) : Prop :=
  ∃ pkt rest, st.pktOut = pkt :: rest ∧ pkt.ref = ref

/-- Two handlers agree wherever no more than `depth` completions can nest. -/
def AgreeUpTo (depth : Nat) (first second : Completion) : Prop :=
  ∀ ref st, CalledForHead ref st → cmpltDepth st ≤ depth →
    first ref st = second ref st

/-! ## Activity counts only fall -/

theorem countP_clear_le (messages : List MeshSarMsg) (sar : MeshSarMsg) :
    (messages.map fun out => if out.dst = sar.dst then sar.frozen else out).countP
        (·.activityCnt ≠ 0) ≤
      messages.countP (·.activityCnt ≠ 0) := by
  rw [List.countP_map]
  apply List.countP_mono_left
  intro out member active
  simp only [Function.comp] at active
  split at active
  next => simp [MeshSarMsg.frozen] at active
  next => exact active

theorem countP_clear_lt {messages : List MeshSarMsg} {sar : MeshSarMsg}
    (present : sar ∈ messages) (active : sar.activityCnt ≠ 0) :
    (messages.map fun out => if out.dst = sar.dst then sar.frozen else out).countP
        (·.activityCnt ≠ 0) <
      messages.countP (·.activityCnt ≠ 0) := by
  rcases List.append_of_mem present with ⟨before, after, split⟩
  have lower := countP_clear_le before sar
  have upper := countP_clear_le after sar
  rw [split]
  simp only [List.map_append, List.map_cons, List.countP_append,
    List.countP_cons, if_true]
  have cleared : (decide (sar.frozen.activityCnt ≠ 0)) = false := by
    simp [MeshSarMsg.frozen]
  rw [cleared]
  simp only [active, ne_eq, not_false_eq_true, decide_true, if_true,
    Bool.false_eq_true, if_false]
  simp only [ne_eq] at lower upper
  omega

theorem TxStep.activeCount_le {Fresh : MeshSarMsg → Prop}
    {before after : NetState} (step : TxStep Fresh before after) :
    activeCount after ≤ activeCount before := by
  cases step with
  | build sar seg nid allowed inMessage =>
      rw [activeCount, recordBuilt_msgOut]
      exact Nat.le_refl _
  | queue => exact Nat.le_refl _
  | clear sar present => exact countP_clear_le _ sar

theorem TxRun.activeCount_le {Fresh : MeshSarMsg → Prop}
    {before after : NetState} (run : TxRun Fresh before after) :
    activeCount after ≤ activeCount before := by
  induction run with
  | refl => exact Nat.le_refl _
  | tail _ last induction => exact Nat.le_trans last.activeCount_le induction

/-! ## Handlers that agree send the same -/

section Agreement

variable {env : NetEnv} {first second : Completion} {depth : Nat}

theorem meshGattWrite_congr (agree : AgreeUpTo depth first second) {ref : Nat}
    {st : NetState} (head : CalledForHead ref st)
    (bounded : cmpltDepth st ≤ depth) :
    meshGattWrite env first ref st = meshGattWrite env second ref st := by
  simp only [meshGattWrite]
  split
  · exact agree ref _ head bounded
  · rfl
  · rfl

theorem sendMeshPkt_congr (agree : AgreeUpTo depth first second)
    (pkt : MeshPkt) {st : NetState} (bounded : activeCount st < depth) :
    sendMeshPkt env first pkt st = sendMeshPkt env second pkt st := by
  simp only [sendMeshPkt]
  cases queue : st.pktOut with
  | nil =>
      apply meshGattWrite_congr agree ⟨pkt, [], rfl, rfl⟩
      change 1 + activeCount st ≤ depth
      omega
  | cons => rfl

theorem sendSeg_congr (agree : AgreeUpTo depth first second)
    (sar : MeshSarMsg) (seg : Byte) {st : NetState}
    (bounded : activeCount st < depth) :
    sendSeg env first sar seg st = sendSeg env second sar seg st := by
  rw [sendSeg, sendSeg]
  cases st.findNetKeyByIdx sar.netIdx with
  | none => rfl
  | some netKey =>
      have stillBounded :
          activeCount (recordBuilt sar seg netKey.sendPart.nid st).2 < depth := by
        rw [activeCount, recordBuilt_msgOut]
        exact bounded
      exact sendMeshPkt_congr agree _ stillBounded

variable (transmits : ∀ Fresh, first.Transmits Fresh)
include transmits

theorem resendFrom_congr (agree : AgreeUpTo depth first second)
    {sar : MeshSarMsg} {segs : List Nat}
    (inMessage : ∀ seg ∈ segs, seg ≤ sar.segN.toNat) {st : NetState}
    (bounded : activeCount st < depth) :
    resendFrom env first sar segs st = resendFrom env second sar segs st := by
  induction segs generalizing st with
  | nil => rfl
  | cons seg rest induction =>
      rcases List.forall_mem_cons.mp inMessage with ⟨segIn, restIn⟩
      rw [resendFrom, resendFrom,
        ← sendSeg_congr agree sar (BitVec.ofNat 8 seg) bounded]
      split
      next =>
        apply induction restIn
        have sent : TxRun (fun _ => True) st
            (sendSeg env first sar (BitVec.ofNat 8 seg) st) :=
          sendSeg_run (transmits _) (Or.inr trivial) (toNat_ofNat_seg segIn)
        exact Nat.lt_of_le_of_lt sent.activeCount_le bounded
      next => exact induction restIn bounded

theorem resendSegs_congr (agree : AgreeUpTo depth first second)
    {sar : MeshSarMsg} {st : NetState} (present : sar ∈ st.msgOut.records)
    (active : sar.activityCnt ≠ 0) (bounded : activeCount st ≤ depth) :
    resendSegs env first sar st = resendSegs env second sar st := by
  have fewer := countP_clear_lt present active
  apply resendFrom_congr transmits agree
  · intro seg member
    exact Nat.le_of_lt_succ (List.mem_range.mp member)
  · exact Nat.lt_of_lt_of_le fewer bounded

theorem resendUnackedSegs_congr (agree : AgreeUpTo depth first second)
    (dsts : List U32) {st : NetState} (bounded : activeCount st ≤ depth) :
    resendUnackedSegs env first dsts st =
      resendUnackedSegs env second dsts st := by
  induction dsts generalizing st with
  | nil => rfl
  | cons dst rest induction =>
      rw [resendUnackedSegs, resendUnackedSegs]
      cases found : st.msgOut.find dst with
      | none => exact induction bounded
      | some sar =>
          dsimp only
          split
          next active =>
            have present := KeyedList.mem_of_find found
            rw [← resendSegs_congr transmits agree present active bounded]
            apply induction
            have resent : TxRun (fun _ => True) st
                (resendSegs env first sar st) :=
              resendSegs_run (transmits _) present
            exact Nat.le_trans resent.activeCount_le bounded
          next => exact induction bounded

theorem continueQueue_congr (agree : AgreeUpTo depth first second)
    {st : NetState} (bounded : cmpltDepth st ≤ depth) :
    continueQueue env first st = continueQueue env second st := by
  rw [continueQueue, continueQueue]
  cases queue : st.pktOut with
  | nil =>
      apply resendUnackedSegs_congr transmits agree
      exact Nat.le_trans (Nat.le_add_left _ _) bounded
  | cons pkt rest =>
      exact meshGattWrite_congr agree ⟨pkt, rest, queue, rfl⟩ bounded

end Agreement

/-! ## The fixed point -/

theorem cmpltDepth_dequeue_le (ref : Nat) (st : NetState) :
    cmpltDepth (dequeue ref st) ≤ cmpltDepth st := by
  rw [dequeue]
  split
  · exact Nat.le_refl _
  next pkt rest queue =>
    split
    · rw [cmpltDepth, cmpltDepth, queue, List.length_cons]
      dsimp only
      omega
    · exact Nat.le_refl _

theorem cmpltDepth_dequeue_head {ref : Nat} {st : NetState}
    (head : CalledForHead ref st) :
    cmpltDepth (dequeue ref st) + 1 = cmpltDepth st := by
  rcases head with ⟨pkt, rest, queue, isRef⟩
  rw [dequeue, queue]
  simp only [if_pos isRef]
  rw [cmpltDepth, cmpltDepth, queue, List.length_cons]
  dsimp only
  omega

theorem sendPktCmpltFuel_transmits (env : NetEnv) (fuel : Nat)
    (Fresh : MeshSarMsg → Prop) :
    (sendPktCmpltFuel env fuel).Transmits Fresh := by
  induction fuel with
  | zero => exact fun _ _ => Relation.ReflTransGen.refl
  | succ fuel induction =>
      intro ref st
      exact (dequeue_run ref st).trans (continueQueue_run induction _)

/-- One more unfolding changes nothing, once there are as many as completions
can nest. -/
theorem sendPktCmpltFuel_agree (env : NetEnv) (depth : Nat) :
    ∀ fuel, depth ≤ fuel →
      AgreeUpTo depth (sendPktCmpltFuel env fuel)
        (sendPktCmpltFuel env (fuel + 1)) := by
  induction depth with
  | zero =>
      intro fuel _ ref st head bounded
      have shorter := cmpltDepth_dequeue_head head
      omega
  | succ depth induction =>
      intro fuel enough ref st head bounded
      cases fuel with
      | zero => omega
      | succ fuel =>
          have shorter := cmpltDepth_dequeue_head head
          exact continueQueue_congr (sendPktCmpltFuel_transmits env fuel)
            (induction fuel (by omega)) (by omega)

theorem sendPktCmpltFuel_agree_of_le (env : NetEnv) {depth fuel more : Nat}
    (enough : depth ≤ fuel) (le : fuel ≤ more) :
    AgreeUpTo depth (sendPktCmpltFuel env fuel)
      (sendPktCmpltFuel env more) := by
  induction le with
  | refl => exact fun _ _ _ _ => rfl
  | @step more le induction =>
      intro ref st head bounded
      exact (induction ref st head bounded).trans
        (sendPktCmpltFuel_agree env depth more (Nat.le_trans enough le) ref st
          head bounded)

/-- The equation of the source: a completion takes its packet from the queue and
goes on with the rest, handing itself to the writes it starts. -/
theorem sendPktCmplt_eq (env : NetEnv) (ref : Nat) (st : NetState) :
    sendPktCmplt env ref st =
      continueQueue env (sendPktCmplt env) (dequeue ref st) := by
  change continueQueue env (sendPktCmpltFuel env (cmpltDepth st + 1))
    (dequeue ref st) = _
  have fewer := cmpltDepth_dequeue_le ref st
  apply continueQueue_congr (sendPktCmpltFuel_transmits env _) ?_ fewer
  intro other st' head bounded
  rcases Nat.le_total (cmpltDepth st + 1) (cmpltDepth st' + 2) with le | le
  · exact sendPktCmpltFuel_agree_of_le env (Nat.le_succ _) le other st' head
      bounded
  · exact (sendPktCmpltFuel_agree_of_le env (by omega) le other st' head
      (Nat.le_refl _)).symm

end Meshctl.Net
