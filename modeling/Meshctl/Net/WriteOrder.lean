import Meshctl.Net.QueueProgress
import Meshctl.Net.QueueRun

/-! # Packets are written in the order they were built in

Within a session the queue hands out every packet once, in order, and forgets a
packet when its own write has succeeded. The sequence number of a packet has 24
bits, the counter it is taken from 32; and the reply to a write of an earlier
session starts the write of the head of the queue again.
-/

namespace Meshctl.Net

open Bytes Execution

abbrev SessionEntry := Entry NetState SessionInput NetObservation

/-! ## What a session promises -/

section Promise

variable (env : NetEnv)

/-- A beacon reset the counter after one packet was built and before another. -/
def RestartBetween (trace : List SessionEntry) (earlier later : Nat) : Prop :=
  ∃ entry ∈ trace, restartsCounter env entry.input.val entry.before = true ∧
    earlier < entry.before.built.length ∧ entry.before.built.length ≤ later

/-- The reply to the outstanding write of a packet reported success. -/
def RepliedIn (trace : List SessionEntry) (ref : Nat) : Prop :=
  ∃ entry ∈ trace, ∃ index, entry.input.val = .writeReply index true ∧
    entry.before.acquiring[index]? = some ref

/-- A write of the packet has completed, inside the call or by a reply. -/
def WriteSucceeded (start : NetState) (Replied : Nat → Prop) (st : NetState)
    (ref : Nat) : Prop :=
  (∃ index, start.written.length ≤ index ∧ st.written[index]? = some ref ∧
    env.gatt index = .sent) ∨ Replied ref

/-- The packets that were built since the start, in order. -/
def builtSince (start st : NetState) : List Nat :=
  List.range' start.built.length (st.built.length - start.built.length)

def writtenSince (start st : NetState) : List Nat :=
  st.written.drop start.written.length

/-- The SEQ field of a packet that was built. -/
def seqOf (st : NetState) (ref : Nat) : Nat :=
  match st.built[ref]? with
  | none => 0
  | some pkt => (pktSeq pkt.plain).toNat

structure WrittenInOrder (start : NetState) (trace : List SessionEntry)
    (st : NetState) : Prop where
  once : writtenSince start st <+: builtSince start st
  increasing : (writtenSince start st).Pairwise fun earlier later =>
    RestartBetween env trace earlier later ∨ seqOf st earlier < seqOf st later
  freed : ∀ ref ∈ builtSince start st, ref ∉ st.pktOut.map MeshPkt.ref →
    WriteSucceeded env start (RepliedIn trace) st ref

/-- No write of an earlier session succeeds while packets are in the queue, and
no packet is built with a sequence number of more than 24 bits. -/
structure OrderSafe (start : Nat) (entry : SessionEntry) : Prop where
  own : ∀ index ref, entry.input.val = .writeReply index true →
    entry.before.acquiring[index]? = some ref →
      start ≤ ref ∨ entry.before.pktOut = []
  narrow : ∀ pkt ∈ entry.after.built.drop start, pkt.seq ≤ 0xffffff

end Promise

/-! ## The order of the queue -/

section Order

variable {env : NetEnv} {start : NetState}

/-- What was written of the packets in the queue. -/
def QueuePhase.started : QueuePhase → List Nat → List Nat
  | .writing _, _ => []
  | .idle, queue => queue.take 1
  | .completed _, queue => queue.take 1

/-- The writes that may be outstanding. -/
def QueuePhase.outstanding : QueuePhase → List Nat → List Nat
  | .idle, queue => queue.take 1
  | .writing _, _ => []
  | .completed _, _ => []

def QueuePhase.current : QueuePhase → Option Nat
  | .idle => none
  | .writing ref => some ref
  | .completed ref => some ref

/-- The packets that were built are the freed ones and those in the queue, and
what was written are the freed ones and the head. -/
structure Ordered (env : NetEnv) (start : NetState) (Replied : Nat → Prop)
    (freed : List Nat) (phase : QueuePhase) (st : NetState) : Prop where
  grows : start.built.length ≤ st.built.length
  order : freed ++ st.pktOut.map MeshPkt.ref =
    builtSince start st
  written : st.written = start.written ++
    (freed ++ phase.started (st.pktOut.map MeshPkt.ref))
  succeeded : ∀ ref ∈ freed,
    WriteSucceeded env start Replied st ref
  head : ∀ ref, phase.current = some ref →
    (st.pktOut.map MeshPkt.ref).head? = some ref
  ended : ∀ ref, phase = .completed ref →
    WriteSucceeded env start Replied st ref
  own : (st.acquiring.filter (start.built.length ≤ ·)).Sublist
    (phase.outstanding (st.pktOut.map MeshPkt.ref))

variable {Replied : Nat → Prop}

theorem WriteSucceeded.mono {st st' : NetState} {ref : Nat}
    (succeeded : WriteSucceeded env start Replied st ref)
    (grows : st.written <+: st'.written) :
    WriteSucceeded env start Replied st' ref := by
  rcases succeeded with ⟨index, inSession, isRef, sent⟩ | replied
  · rcases grows with ⟨more, equal⟩
    refine Or.inl ⟨index, inSession, ?_, sent⟩
    rw [← equal, List.getElem?_append_left (List.getElem?_eq_some_iff.mp isRef).1]
    exact isRef
  · exact Or.inr replied

section Enqueued

variable (sar : MeshSarMsg) (seg nid : Byte) (data : List Byte) (len : Byte)
  (st : NetState)

@[simp] theorem enqueued_queue :
    (enqueued sar seg nid data len st).pktOut.map MeshPkt.ref =
      st.pktOut.map MeshPkt.ref ++ [st.built.length] := by
  simp [enqueued]

@[simp] theorem enqueued_written :
    (enqueued sar seg nid data len st).written = st.written := by
  rcases recordBuilt_eq sar seg nid st with ⟨_, _, equal⟩
  rw [enqueued, equal]

@[simp] theorem enqueued_acquiring :
    (enqueued sar seg nid data len st).acquiring = st.acquiring := by
  rcases recordBuilt_eq sar seg nid st with ⟨_, _, equal⟩
  rw [enqueued, equal]

@[simp] theorem enqueued_built_length :
    (enqueued sar seg nid data len st).built.length = st.built.length + 1 := by
  rcases recordBuilt_eq sar seg nid st with ⟨_, _, equal⟩
  simp only [enqueued, equal, List.length_append, List.length_singleton]

theorem builtSince_enqueued (grows : start.built.length ≤ st.built.length) :
    builtSince start (enqueued sar seg nid data len st) =
      builtSince start st ++ [st.built.length] := by
  have count : st.built.length + 1 - start.built.length =
      st.built.length - start.built.length + 1 := by omega
  have last : start.built.length + (st.built.length - start.built.length) =
      st.built.length := by omega
  rw [builtSince, builtSince, enqueued_built_length, count, List.range'_concat,
    Nat.one_mul, last]

end Enqueued

/-- A packet is built behind the others. Nothing is written of it yet. -/
theorem Ordered.enqueued {freed : List Nat} {st : NetState}
    (ordered : Ordered env start Replied freed .idle st) (sar : MeshSarMsg)
    (seg nid : Byte) (data : List Byte) (len : Byte) {phase : QueuePhase}
    (started : phase.started
        (st.pktOut.map MeshPkt.ref ++ [st.built.length]) =
      QueuePhase.idle.started (st.pktOut.map MeshPkt.ref))
    (head : ∀ ref, phase.current = some ref →
      (st.pktOut.map MeshPkt.ref ++ [st.built.length]).head? = some ref)
    (busy : ∀ ref, phase ≠ .completed ref)
    (outstanding : phase.outstanding
        (st.pktOut.map MeshPkt.ref ++ [st.built.length]) =
      QueuePhase.idle.outstanding (st.pktOut.map MeshPkt.ref)) :
    Ordered env start Replied freed phase
      (Net.enqueued sar seg nid data len st) := by
  refine ⟨?_, ?_, ?_, ?_, ?_, ?_, ?_⟩
  · rw [enqueued_built_length]
    exact Nat.le_succ_of_le ordered.grows
  · rw [enqueued_queue, builtSince_enqueued _ _ _ _ _ _ ordered.grows,
      ← ordered.order, List.append_assoc]
  · rw [enqueued_queue, enqueued_written, started]
    exact ordered.written
  · intro ref member
    apply (ordered.succeeded ref member).mono
    rw [enqueued_written]
  · rw [enqueued_queue]
    exact head
  · exact fun ref isCompleted => absurd isCompleted (busy ref)
  · rw [enqueued_queue, enqueued_acquiring, outstanding]
    exact ordered.own

theorem take_one_of_head? {queue : List Nat} {ref : Nat}
    (head : queue.head? = some ref) : queue.take 1 = [ref] := by
  cases queue with
  | nil => cases head
  | cons first rest =>
      rw [List.head?_cons, Option.some.injEq] at head
      rw [← head]
      rfl

/-- The head of the queue is written. -/
theorem Ordered.wrote {freed : List Nat} {ref : Nat} {st : NetState}
    (ordered : Ordered env start Replied freed (.writing ref) st)
    {phase : QueuePhase} {acquiring : List Nat}
    (started : ∀ queue : List Nat, phase.started queue = queue.take 1)
    (current : ∀ other, phase.current = some other → other = ref)
    (ended : ∀ other, phase = .completed other →
      env.gatt st.written.length = .sent)
    (own : (acquiring.filter (start.built.length ≤ ·)).Sublist
      (phase.outstanding [ref])) :
    Ordered env start Replied freed phase
      { st with written := st.written ++ [ref], acquiring } := by
  have head : (st.pktOut.map MeshPkt.ref).head? = some ref :=
    ordered.head ref rfl
  have first := take_one_of_head? head
  have written : st.written = start.written ++ (freed ++ []) := ordered.written
  refine ⟨ordered.grows, ordered.order, ?_, ?_, ?_, ?_, ?_⟩
  · dsimp only
    rw [started, first, written]
    simp
  · intro other member
    exact (ordered.succeeded other member).mono (List.prefix_append _ _)
  · intro other isCurrent
    rw [current other isCurrent]
    exact head
  · intro other isCompleted
    have isRef : other = ref := by
      apply current
      rw [isCompleted]
      rfl
    have inSession : start.written.length ≤ st.written.length := by
      rw [written]
      simp
    exact Or.inl ⟨st.written.length, inSession, by simp [isRef],
      ended other isCompleted⟩
  · cases phase with
    | idle =>
        change (acquiring.filter _).Sublist ((st.pktOut.map MeshPkt.ref).take 1)
        rw [first]
        exact own
    | writing other => exact own
    | completed other => exact own

/-- The head of the queue is freed. -/
theorem Ordered.dequeued {freed : List Nat} {ref : Nat} {st : NetState}
    (ordered : Ordered env start Replied freed (.completed ref) st)
    {phase : QueuePhase}
    (started : phase.started ((dequeue ref st).pktOut.map MeshPkt.ref) = [])
    (head : ∀ other, phase.current = some other →
      ((dequeue ref st).pktOut.map MeshPkt.ref).head? = some other)
    (busy : ∀ other, phase ≠ .completed other) :
    Ordered env start Replied (freed ++ [ref]) phase (dequeue ref st) := by
  have isHead : (st.pktOut.map MeshPkt.ref).head? = some ref :=
    ordered.head ref rfl
  have called : CalledForHead ref st := by
    cases queue : st.pktOut with
    | nil => simp [queue] at isHead
    | cons pkt rest => exact ⟨pkt, rest, queue, by simpa [queue] using isHead⟩
  have queue : st.pktOut.map MeshPkt.ref =
      ref :: (dequeue ref st).pktOut.map MeshPkt.ref := by
    rcases called with ⟨pkt, rest, isQueue, isRef⟩
    rw [dequeue_head ⟨pkt, rest, isQueue, isRef⟩, isQueue, ← isRef]
    rfl
  have order : freed ++ st.pktOut.map MeshPkt.ref = builtSince start st :=
    ordered.order
  have written : st.written = start.written ++
    (freed ++ (st.pktOut.map MeshPkt.ref).take 1) := ordered.written
  have own := List.sublist_nil.mp ordered.own
  rw [queue] at order written
  have frame : (dequeue ref st).built = st.built ∧
      (dequeue ref st).written = st.written ∧
      (dequeue ref st).acquiring = st.acquiring := by
    rw [dequeue_head called]
    exact ⟨rfl, rfl, rfl⟩
  rcases frame with ⟨sameBuilt, sameWritten, sameAcquiring⟩
  have succeeded : ∀ other, WriteSucceeded env start Replied st other →
      WriteSucceeded env start Replied (dequeue ref st) other := by
    intro other before
    apply before.mono
    rw [sameWritten]
  refine ⟨?_, ?_, ?_, ?_, head, ?_, ?_⟩
  · rw [sameBuilt]
    exact ordered.grows
  · rw [builtSince, sameBuilt, List.append_assoc]
    exact order
  · rw [started, sameWritten, written]
    simp
  · intro other member
    rcases List.mem_append.mp member with earlier | isRef
    · exact succeeded other (ordered.succeeded other earlier)
    · rw [List.mem_singleton.mp isRef]
      exact succeeded ref (ordered.ended ref rfl)
  · exact fun other isCompleted => absurd isCompleted (busy other)
  · rw [sameAcquiring, own]
    exact List.nil_sublist _

/-- Nothing else of the state matters. -/
theorem Ordered.of_same {freed : List Nat} {phase : QueuePhase}
    {st st' : NetState} (ordered : Ordered env start Replied freed phase st)
    (built : st'.built = st.built) (pktOut : st'.pktOut = st.pktOut)
    (written : st'.written = st.written)
    (acquiring : st'.acquiring = st.acquiring) :
    Ordered env start Replied freed phase st' := by
  have succeeded : ∀ ref, WriteSucceeded env start Replied st ref →
      WriteSucceeded env start Replied st' ref := by
    intro ref before
    apply before.mono
    rw [written]
  refine ⟨?_, ?_, ?_, ?_, ?_, ?_, ?_⟩
  · rw [built]
    exact ordered.grows
  · rw [builtSince, built, pktOut]
    exact ordered.order
  · rw [written, pktOut]
    exact ordered.written
  · exact fun ref member => succeeded ref (ordered.succeeded ref member)
  · rw [pktOut]
    exact ordered.head
  · exact fun ref isCompleted => succeeded ref (ordered.ended ref isCompleted)
  · rw [acquiring, pktOut]
    exact ordered.own

/-- A step of the flat machine keeps the order. The head of the queue is freed
when its handler runs. -/
theorem Ordered.step {freed : List Nat} {before after : QueuePhase × NetState}
    (ordered : Ordered env start Replied freed before.1 before.2)
    (step : QueueStep env before after) :
    ∃ freed', Ordered env start Replied freed' after.1 after.2 := by
  cases step with
  | other same =>
      exact ⟨freed, ordered.of_same same.built same.pktOut same.written
        same.acquiring⟩
  | @wait st sar seg nid data len busy =>
      have first : (st.pktOut.map MeshPkt.ref ++ [st.built.length]).take 1 =
          (st.pktOut.map MeshPkt.ref).take 1 := by
        cases queue : st.pktOut with
        | nil => exact absurd queue busy
        | cons pkt rest => rfl
      exact ⟨freed, ordered.enqueued sar seg nid data len first
        (fun ref isCurrent => by cases isCurrent)
        (fun ref isCompleted => by cases isCompleted) first⟩
  | @start st sar seg nid data len empty =>
      refine ⟨freed, ordered.enqueued sar seg nid data len ?_ ?_ ?_ ?_⟩
      · rw [empty]
        rfl
      · intro ref isCurrent
        rw [empty]
        exact isCurrent
      · intro ref isCompleted
        cases isCompleted
      · rw [empty]
        rfl
  | @sent st ref outcome =>
      refine ⟨freed, ordered.wrote (fun _ => rfl) ?_ (fun _ _ => outcome)
        ordered.own⟩
      intro other isCurrent
      exact (Option.some.inj isCurrent).symm
  | @queued st ref =>
      refine ⟨freed, ordered.wrote (fun _ => rfl) ?_ ?_ ?_⟩
      · intro other isCurrent
        cases isCurrent
      · intro other isCompleted
        cases isCompleted
      · have own := List.sublist_nil.mp ordered.own
        dsimp only at own
        rw [List.filter_append, own]
        exact List.filter_sublist
  | @refused st ref =>
      refine ⟨freed, ordered.wrote (fun _ => rfl) ?_ ?_ ?_⟩
      · intro other isCurrent
        cases isCurrent
      · intro other isCompleted
        cases isCompleted
      · exact ordered.own.trans (List.nil_sublist _)
  | @next st ref pkt rest more =>
      refine ⟨freed ++ [ref], ordered.dequeued rfl ?_ ?_⟩
      · intro other isCurrent
        rw [more]
        exact isCurrent
      · intro other isCompleted
        cases isCompleted
  | @last st ref empty =>
      refine ⟨freed ++ [ref], ordered.dequeued ?_ ?_ ?_⟩
      · rw [empty]
        rfl
      · intro other isCurrent
        cases isCurrent
      · intro other isCompleted
        cases isCompleted

theorem Ordered.run {freed : List Nat} {before after : QueuePhase × NetState}
    (ordered : Ordered env start Replied freed before.1 before.2)
    (run : QueueRun env before after) :
    ∃ freed', Ordered env start Replied freed' after.1 after.2 := by
  induction run with
  | refl => exact ⟨freed, ordered⟩
  | tail _ last induction =>
      rcases induction with ⟨middle, orderedMiddle⟩
      exact orderedMiddle.step last

/-- Another outstanding write fewer, or none. -/
theorem Ordered.withAcquiring {freed : List Nat} {st : NetState}
    (ordered : Ordered env start Replied freed .idle st) {acquiring : List Nat}
    (fewer : acquiring.Sublist st.acquiring) :
    Ordered env start Replied freed .idle { st with acquiring } := by
  refine ⟨ordered.grows, ordered.order, ordered.written, ordered.succeeded,
    ordered.head, ordered.ended, ?_⟩
  exact (fewer.filter _).trans ordered.own

/-- If nothing but the head of a queue is kept of a list, and that at most once,
what is kept is the head, and nothing else. -/
theorem eraseIdx_of_kept {keep : Nat → Bool} {list queue : List Nat}
    {index ref : Nat} (own : (list.filter keep).Sublist (queue.take 1))
    (isRef : list[index]? = some ref) (kept : keep ref = true) :
    queue.head? = some ref ∧ (list.eraseIdx index).filter keep = [] := by
  rcases List.getElem?_eq_some_iff.mp isRef with ⟨inRange, atIndex⟩
  have around : list = list.take index ++ ref :: list.drop (index + 1) := by
    rw [← atIndex, List.cons_getElem_drop_succ, List.take_append_drop]
  rw [around, List.filter_append, List.filter_cons_of_pos kept] at own
  have length := own.length_le
  have atMost := List.length_take_le 1 queue
  rw [List.length_append, List.length_cons] at length
  have before : (list.take index).filter keep = [] :=
    List.length_eq_zero_iff.mp (by omega)
  have after : (list.drop (index + 1)).filter keep = [] :=
    List.length_eq_zero_iff.mp (by omega)
  rw [before, after, List.nil_append] at own
  constructor
  · cases queue with
    | nil => cases own
    | cons first rest =>
        have isFirst : ref = first := by simpa using own
        rw [List.head?_cons, isFirst]
  · rw [List.eraseIdx_eq_take_drop_succ, List.filter_append, before, after,
      List.nil_append]

/-- Only the head of the queue is outstanding, and only once. -/
theorem Ordered.replied {freed : List Nat} {st : NetState}
    (ordered : Ordered env start Replied freed .idle st) {index ref : Nat}
    (outstanding : st.acquiring[index]? = some ref)
    (inSession : start.built.length ≤ ref) (isReplied : Replied ref) :
    Ordered env start Replied freed (.completed ref)
      { st with acquiring := st.acquiring.eraseIdx index } := by
  rcases eraseIdx_of_kept ordered.own outstanding (decide_eq_true inSession)
    with ⟨isHead, none⟩
  refine ⟨ordered.grows, ordered.order, ordered.written, ordered.succeeded, ?_,
    fun other isCompleted => Or.inr ?_, ?_⟩
  · intro other isCurrent
    exact isHead.trans isCurrent
  · cases isCompleted
    exact isReplied
  · dsimp only
    rw [none]
    exact List.nil_sublist _

theorem Ordered.mono {freed : List Nat} {phase : QueuePhase} {st : NetState}
    {Wider : Nat → Prop} (ordered : Ordered env start Replied freed phase st)
    (wider : ∀ ref, Replied ref → Wider ref) :
    Ordered env start Wider freed phase st :=
  ⟨ordered.grows, ordered.order, ordered.written,
    fun ref member => (ordered.succeeded ref member).imp_right (wider ref),
    ordered.head,
    fun ref isCompleted => (ordered.ended ref isCompleted).imp_right (wider ref),
    ordered.own⟩

/-- The handler of a packet that is not there leaves an empty queue alone. -/
theorem Ordered.stray {freed : List Nat} {ref : Nat} {st : NetState}
    {after : QueuePhase × NetState}
    (ordered : Ordered env start Replied freed .idle st)
    (empty : st.pktOut = []) (idle : after.1 = .idle)
    (run : QueueRun env (.completed ref, st) after) :
    ∃ freed', Ordered env start Replied freed' .idle after.2 := by
  have unchanged : dequeue ref st = st := by rw [dequeue, empty]
  rcases run.cases_head with stays | ⟨middle, step, rest⟩
  · rw [← stays] at idle
    cases idle
  · cases step with
    | next other pkt more isMore =>
        rw [unchanged, empty] at isMore
        cases isMore
    | last other isEmpty =>
        rw [unchanged] at rest
        rw [← idle]
        exact ordered.run rest

/-- An input keeps the order, unless it is the reply to a write of an earlier
session. -/
theorem Ordered.input {freed : List Nat} {st : NetState}
    (ordered : Ordered env start Replied freed .idle st) (input : SessionInput)
    (own : ∀ index ref, input.val = .writeReply index true →
      st.acquiring[index]? = some ref →
        Replied ref ∧ (start.built.length ≤ ref ∨ st.pktOut = [])) :
    ∃ freed', Ordered env start Replied freed' .idle
      (netStep env st input.val).nextState := by
  rcases @netStep_enters env st input.val with ⟨phase, ready, enters, run⟩
  rcases input with ⟨input, inSession⟩
  cases enters with
  | call built pktOut written acquiring counter =>
      exact (ordered.of_same built pktOut written acquiring).run run
  | reply index ref outstanding =>
      rcases own index ref rfl outstanding with ⟨isReplied, isOwn | empty⟩
      · exact (ordered.replied outstanding isOwn isReplied).run run
      · exact (ordered.withAcquiring (List.eraseIdx_sublist _ _)).stray empty rfl
          run
  | failed index =>
      exact (ordered.withAcquiring (List.eraseIdx_sublist _ _)).run run
  | opened dataIn provisioner cb same => exact absurd inSession id
  | closed dataIn same => exact absurd inSession id

/-! ## Numbers -/

/-- Numbers rise from packet to packet, and the next one is larger still, as
long as the counter is not reset in between. -/
structure Numbered (start : Nat) (Between : Nat → Nat → Prop)
    (st : NetState) : Prop where
  next : ∀ index pkt, start ≤ index → st.built[index]? = some pkt →
    Between index st.built.length ∨ pkt.seq.toNat < st.seqNum.toNat
  pairs : ∀ first second earlier later, start ≤ first → first < second →
    st.built[first]? = some earlier → st.built[second]? = some later →
      Between first second ∨ earlier.seq.toNat < later.seq.toNat

/-- The packets built since the start have sequence numbers of 24 bits. -/
def NarrowSince (start : Nat) (st : NetState) : Prop :=
  ∀ pkt ∈ st.built.drop start, pkt.seq ≤ 0xffffff

variable {first : Nat} {Between : Nat → Nat → Prop}

theorem Numbered.of_same {st st' : NetState}
    (numbered : Numbered first Between st) (built : st'.built = st.built)
    (seqNum : st'.seqNum = st.seqNum) : Numbered first Between st' := by
  constructor
  · rw [built, seqNum]
    exact numbered.next
  · rw [built]
    exact numbered.pairs

theorem Numbered.enqueued {st : NetState}
    (numbered : Numbered first Between st)
    (wider : ∀ index, Between index st.built.length →
      Between index (st.built.length + 1))
    (grows : first ≤ st.built.length) (sar : MeshSarMsg) (seg nid : Byte)
    (data : List Byte) (len : Byte)
    (narrow : NarrowSince first (Net.enqueued sar seg nid data len st)) :
    Numbered first Between (Net.enqueued sar seg nid data len st) := by
  rcases recordBuilt_eq sar seg nid st with ⟨_, _, equal⟩
  have built : (Net.enqueued sar seg nid data len st).built =
      st.built ++ [⟨sar, seg, nid, st.seqNum, st.restartedAt⟩] := by
    rw [Net.enqueued, equal]
  have counter : (Net.enqueued sar seg nid data len st).seqNum =
      st.seqNum + 1 := by
    rw [Net.enqueued, equal]
  have seqNarrow : st.seqNum.toNat ≤ 0xffffff := by
    have last := narrow ⟨sar, seg, nid, st.seqNum, st.restartedAt⟩ (by
      rw [built, List.drop_append_of_le_length grows]
      exact List.mem_append_right _ (List.mem_singleton_self _))
    simpa [BitVec.le_def] using last
  have nextNum : (st.seqNum + 1).toNat = st.seqNum.toNat + 1 := by
    simp only [BitVec.toNat_add, BitVec.ofNat_eq_ofNat, BitVec.toNat_ofNat]
    omega
  have split : ∀ index pkt,
      (st.built ++ [⟨sar, seg, nid, st.seqNum, st.restartedAt⟩])[index]? =
        some pkt →
      st.built[index]? = some pkt ∨
        index = st.built.length ∧ pkt.seq = st.seqNum := by
    intro index pkt isPkt
    rcases Nat.lt_or_ge index st.built.length with earlier | later
    · rw [List.getElem?_append_left earlier] at isPkt
      exact Or.inl isPkt
    · rw [List.getElem?_append_right later] at isPkt
      rcases List.getElem?_eq_some_iff.mp isPkt with ⟨inRange, atIndex⟩
      rw [List.length_singleton] at inRange
      have isLast : index = st.built.length := by omega
      rw [List.getElem_singleton] at atIndex
      exact Or.inr ⟨isLast, by rw [← atIndex]⟩
  constructor
  · intro index pkt inSession isPkt
    rw [built] at isPkt ⊢
    rw [counter, nextNum, List.length_append, List.length_singleton]
    rcases split index pkt isPkt with earlier | ⟨_, isNew⟩
    · exact (numbered.next index pkt inSession earlier).imp (wider index)
        Nat.lt_succ_of_lt
    · rw [isNew]
      exact Or.inr (Nat.lt_succ_self _)
  · intro index later pkt laterPkt inSession lower isPkt isLater
    rw [built] at isPkt isLater
    have inRange := (List.getElem?_eq_some_iff.mp isLater).1
    rw [List.length_append, List.length_singleton] at inRange
    rcases split index pkt isPkt with earlier | ⟨isLast, _⟩
    · rcases split later laterPkt isLater with alsoEarlier | ⟨isLast, isNew⟩
      · exact numbered.pairs index later pkt laterPkt inSession lower earlier
          alsoEarlier
      · rw [isNew, isLast]
        exact numbered.next index pkt inSession earlier
    · omega

theorem dequeue_same (ref : Nat) (st : NetState) :
    ∃ pktOut, dequeue ref st = { st with pktOut } ∧
      pktOut.Sublist st.pktOut := by
  rw [dequeue]
  split
  next => exact ⟨st.pktOut, rfl, List.Sublist.refl _⟩
  next pkt rest queue =>
    split
    · exact ⟨rest, rfl, queue ▸ List.sublist_cons_self pkt rest⟩
    · exact ⟨st.pktOut, rfl, List.Sublist.refl _⟩

/-- The history of packets only grows. -/
theorem QueueStep.built {before after : QueuePhase × NetState}
    (step : QueueStep env before after) :
    before.2.built <+: after.2.built := by
  have dequeued : ∀ ref st, st.built <+: (dequeue ref st).built := by
    intro ref st
    rcases dequeue_same ref st with ⟨pktOut, equal, _⟩
    rw [equal]
  have enqueued : ∀ sar seg nid data len st,
      st.built <+: (Net.enqueued sar seg nid data len st).built := by
    intro sar seg nid data len st
    rcases recordBuilt_eq sar seg nid st with ⟨_, _, equal⟩
    rw [Net.enqueued, equal]
    exact List.prefix_append _ _
  cases step with
  | other same =>
      dsimp only
      rw [same.built]
  | wait => exact enqueued _ _ _ _ _ _
  | start => exact enqueued _ _ _ _ _ _
  | sent => exact List.prefix_rfl
  | queued => exact List.prefix_rfl
  | refused => exact List.prefix_rfl
  | next => exact dequeued _ _
  | last => exact dequeued _ _

theorem QueueRun.built {before after : QueuePhase × NetState}
    (run : QueueRun env before after) :
    before.2.built <+: after.2.built := by
  induction run with
  | refl => exact List.prefix_rfl
  | tail _ last induction => exact induction.trans last.built

theorem NarrowSince.earlier {st st' : NetState}
    (narrow : NarrowSince first st') (grows : st.built <+: st'.built) :
    NarrowSince first st := by
  intro pkt member
  exact narrow pkt ((grows.drop first).subset member)

theorem Numbered.step {before after : QueuePhase × NetState}
    (numbered : Numbered first Between before.2)
    (wider : ∀ low mid high, Between low mid → mid ≤ high → Between low high)
    (grows : first ≤ before.2.built.length) (step : QueueStep env before after)
    (narrow : NarrowSince first after.2) :
    Numbered first Between after.2 := by
  have dequeued : ∀ ref st, Numbered first Between st →
      Numbered first Between (dequeue ref st) := by
    intro ref st numbered
    rcases dequeue_same ref st with ⟨pktOut, equal, _⟩
    rw [equal]
    exact numbered.of_same rfl rfl
  have further : ∀ low, Between low before.2.built.length →
      Between low (before.2.built.length + 1) :=
    fun low between => wider low _ _ between (Nat.le_succ _)
  cases step with
  | other same => exact numbered.of_same same.built same.seqNum
  | wait => exact numbered.enqueued further grows _ _ _ _ _ narrow
  | start => exact numbered.enqueued further grows _ _ _ _ _ narrow
  | sent => exact numbered.of_same rfl rfl
  | queued => exact numbered.of_same rfl rfl
  | refused => exact numbered.of_same rfl rfl
  | next => exact dequeued _ _ numbered
  | last => exact dequeued _ _ numbered

theorem Numbered.run {before after : QueuePhase × NetState}
    (numbered : Numbered first Between before.2)
    (wider : ∀ low mid high, Between low mid → mid ≤ high → Between low high)
    (grows : first ≤ before.2.built.length) (run : QueueRun env before after)
    (narrow : NarrowSince first after.2) :
    Numbered first Between after.2 := by
  induction run with
  | refl => exact numbered
  | tail before last induction =>
      have middle := induction (narrow.earlier last.built)
      apply middle.step wider _ last narrow
      exact Nat.le_trans grows (QueueRun.built before).length_le

/-! ## Packets have been built -/

/-- Only packets that were built are in the queue or outstanding. -/
structure RefsBuilt (phase : QueuePhase) (st : NetState) : Prop where
  queue : ∀ pkt ∈ st.pktOut, pkt.ref < st.built.length
  acquiring : ∀ ref ∈ st.acquiring, ref < st.built.length
  current : ∀ ref, phase.current = some ref → ref < st.built.length

/-- With fewer packets in the queue and fewer outstanding writes. -/
theorem RefsBuilt.fewer {phase phase' : QueuePhase} {st st' : NetState}
    (refs : RefsBuilt phase st) (built : st'.built = st.built)
    (pktOut : st'.pktOut.Sublist st.pktOut)
    (acquiring : st'.acquiring.Sublist st.acquiring)
    (current : ∀ ref, phase'.current = some ref → ref < st.built.length) :
    RefsBuilt phase' st' := by
  refine ⟨?_, ?_, ?_⟩ <;> rw [built]
  · exact fun pkt member => refs.queue pkt (pktOut.subset member)
  · exact fun ref member => refs.acquiring ref (acquiring.subset member)
  · exact current

theorem RefsBuilt.enqueued {st : NetState} (refs : RefsBuilt .idle st)
    (sar : MeshSarMsg) (seg nid : Byte) (data : List Byte) (len : Byte)
    {phase : QueuePhase}
    (current : ∀ ref, phase.current = some ref → ref ≤ st.built.length) :
    RefsBuilt phase (Net.enqueued sar seg nid data len st) := by
  refine ⟨?_, ?_, ?_⟩
  · intro pkt member
    rw [enqueued_built_length]
    rcases List.mem_append.mp member with earlier | isNew
    · exact Nat.lt_succ_of_lt (refs.queue pkt earlier)
    · rw [List.mem_singleton.mp isNew]
      exact Nat.lt_succ_self _
  · intro ref member
    rw [enqueued_acquiring] at member
    rw [enqueued_built_length]
    exact Nat.lt_succ_of_lt (refs.acquiring ref member)
  · intro ref isCurrent
    rw [enqueued_built_length]
    exact Nat.lt_succ_of_le (current ref isCurrent)

theorem RefsBuilt.dequeued {phase phase' : QueuePhase} {st : NetState}
    (refs : RefsBuilt phase st) (ref : Nat)
    (current : ∀ other, phase'.current = some other →
      ∃ pkt ∈ (dequeue ref st).pktOut, pkt.ref = other) :
    RefsBuilt phase' (dequeue ref st) := by
  rcases dequeue_same ref st with ⟨pktOut, equal, fewer⟩
  rw [equal] at current ⊢
  refine ⟨?_, refs.acquiring, ?_⟩
  · intro pkt member
    exact refs.queue pkt (fewer.subset member)
  · intro other isCurrent
    rcases current other isCurrent with ⟨pkt, member, isRef⟩
    rw [← isRef]
    exact refs.queue pkt (fewer.subset member)

theorem RefsBuilt.step {before after : QueuePhase × NetState}
    (refs : RefsBuilt before.1 before.2) (step : QueueStep env before after) :
    RefsBuilt after.1 after.2 := by
  cases step with
  | other same =>
      apply refs.fewer same.built
      · rw [same.pktOut]
      · rw [same.acquiring]
      · intro ref isCurrent
        cases isCurrent
  | wait => exact refs.enqueued _ _ _ _ _ (fun ref isCurrent => by cases isCurrent)
  | start =>
      apply refs.enqueued
      intro ref isCurrent
      exact Nat.le_of_eq (Option.some.inj isCurrent).symm
  | sent ref outcome => exact ⟨refs.queue, refs.acquiring, refs.current⟩
  | @queued st ref =>
      refine ⟨refs.queue, ?_, fun ref isCurrent => by cases isCurrent⟩
      intro other member
      rcases List.mem_append.mp member with earlier | isRef
      · exact refs.acquiring other earlier
      · exact refs.current other (by rw [List.mem_singleton.mp isRef]; rfl)
  | refused ref =>
      exact ⟨refs.queue, refs.acquiring, fun ref isCurrent => by cases isCurrent⟩
  | next ref pkt rest more =>
      apply refs.dequeued
      intro other isCurrent
      rw [more]
      exact ⟨pkt, List.mem_cons_self, Option.some.inj isCurrent⟩
  | last ref empty =>
      apply refs.dequeued
      intro other isCurrent
      cases isCurrent

theorem RefsBuilt.run {before after : QueuePhase × NetState}
    (refs : RefsBuilt before.1 before.2) (run : QueueRun env before after) :
    RefsBuilt after.1 after.2 := by
  induction run with
  | refl => exact refs
  | tail _ last induction => exact induction.step last

theorem RefsBuilt.input {st : NetState} (refs : RefsBuilt .idle st)
    (input : NetInput) :
    RefsBuilt .idle (netStep env st input).nextState := by
  have idle : ∀ ref, QueuePhase.idle.current = some ref →
      ref < st.built.length := fun ref isCurrent => by cases isCurrent
  rcases netStep_enters st input with ⟨phase, ready, enters, run⟩
  apply RefsBuilt.run _ run
  cases enters with
  | call built pktOut written acquiring counter =>
      apply refs.fewer built _ _ idle
      · rw [pktOut]
      · rw [acquiring]
  | reply index ref outstanding =>
      refine refs.fewer ?_ ?_ (List.eraseIdx_sublist st.acquiring index) ?_
      · rfl
      · exact List.Sublist.refl _
      intro other isCurrent
      rw [← Option.some.inj isCurrent]
      exact refs.acquiring ref (List.mem_of_getElem? outstanding)
  | failed index =>
      refine refs.fewer ?_ ?_ (List.eraseIdx_sublist st.acquiring index) idle
      · rfl
      · exact List.Sublist.refl _
  | opened dataIn provisioner cb same =>
      apply refs.fewer same.built _ _ idle
      · rw [same.pktOut]
        exact List.nil_sublist _
      · rw [same.acquiring]
  | closed dataIn same =>
      apply refs.fewer same.built _ _ idle
      · rw [same.pktOut]
        exact List.nil_sublist _
      · rw [same.acquiring]

end Order

/-! ## Sessions -/

section Session

variable {env : NetEnv} {start st : NetState} {trace : List SessionEntry}

theorem RestartBetween.wider {low mid high : Nat}
    (between : RestartBetween env trace low mid) (le : mid ≤ high) :
    RestartBetween env trace low high := by
  rcases between with ⟨entry, member, restarts, after, before⟩
  exact ⟨entry, member, restarts, after, Nat.le_trans before le⟩

/-- The order of the queue and the numbers of its packets, after the steps of a
trace. -/
structure SessionInvariant (env : NetEnv) (start : NetState)
    (trace : List SessionEntry) (st : NetState) : Prop where
  ordered : ∃ freed, Ordered env start (RepliedIn trace) freed .idle st
  numbered : Numbered start.built.length (RestartBetween env trace) st

theorem SessionInvariant.step (invariant : SessionInvariant env start trace st)
    (input : SessionInput)
    (safe : OrderSafe start.built.length ((sessionModel env).entry st input)) :
    SessionInvariant env start (trace ++ [(sessionModel env).entry st input])
      (netStep env st input.val).nextState := by
  rcases invariant.ordered with ⟨freed, ordered⟩
  have isLast : (sessionModel env).entry st input ∈
      trace ++ [(sessionModel env).entry st input] :=
    List.mem_append_right _ (List.mem_singleton_self _)
  have widened : Ordered env start
      (RepliedIn (trace ++ [(sessionModel env).entry st input])) freed .idle
        st := by
    apply ordered.mono
    intro ref ⟨entry, member, replied⟩
    exact ⟨entry, List.mem_append_left _ member, replied⟩
  constructor
  · apply widened.input
    intro index ref isReply outstanding
    exact ⟨⟨_, isLast, index, isReply, outstanding⟩,
      safe.own index ref isReply outstanding⟩
  · rcases @netStep_enters env st input.val with ⟨phase, ready, enters, run⟩
    have numbered : Numbered start.built.length
        (RestartBetween env (trace ++ [(sessionModel env).entry st input]))
          st := by
      have earlier : ∀ low high, RestartBetween env trace low high →
          RestartBetween env (trace ++ [(sessionModel env).entry st input])
            low high := by
        intro low high ⟨entry, member, rest⟩
        exact ⟨entry, List.mem_append_left _ member, rest⟩
      constructor
      · intro index pkt inSession isPkt
        exact (invariant.numbered.next index pkt inSession isPkt).imp_left
          (earlier _ _)
      · intro low high pkt other inSession lower isPkt isOther
        exact (invariant.numbered.pairs low high pkt other inSession lower isPkt
          isOther).imp_left (earlier _ _)
    have counter := enters.counter
    have entered : Numbered start.built.length
        (RestartBetween env (trace ++ [(sessionModel env).entry st input]))
          ready := by
      cases restarts : restartsCounter env input.val st with
      | false =>
          rw [restarts, if_neg Bool.false_ne_true] at counter
          exact numbered.of_same counter.1 counter.2
      | true =>
          constructor
          · intro index pkt inSession isPkt
            rw [counter.1] at isPkt ⊢
            left
            exact ⟨_, isLast, restarts, (List.getElem?_eq_some_iff.mp isPkt).1,
              Nat.le_refl _⟩
          · rw [counter.1]
            exact numbered.pairs
    apply entered.run (fun _ _ _ between => between.wider) _ run safe.narrow
    dsimp only
    rw [counter.1]
    exact ordered.grows

/-- The queue of a session starts empty, and what is still outstanding are
writes of packets that were built before. -/
theorem SessionInvariant.initial (empty : start.pktOut = [])
    (stale : ∀ ref ∈ start.acquiring, ref < start.built.length) :
    SessionInvariant env start [] start := by
  have none : start.acquiring.filter (start.built.length ≤ ·) = [] := by
    rw [List.filter_eq_nil_iff]
    intro ref member
    simp only [decide_eq_true_eq, Nat.not_le]
    exact stale ref member
  constructor
  · refine ⟨[], Nat.le_refl _, ?_, ?_, ?_, ?_, ?_, ?_⟩
    · simp [builtSince, empty]
    · simp [empty, QueuePhase.started]
    · intro ref member
      cases member
    · intro ref isCurrent
      cases isCurrent
    · intro ref isCompleted
      cases isCompleted
    · rw [none]
      exact List.nil_sublist _
  · constructor
    · intro index pkt inSession isPkt
      have inRange := (List.getElem?_eq_some_iff.mp isPkt).1
      omega
    · intro low high earlier later inSession lower isEarlier isLater
      have inRange := (List.getElem?_eq_some_iff.mp isLater).1
      omega

theorem SessionInvariant.run
    (initial : SessionInvariant env start [] start)
    (inputs : List SessionInput)
    (safe : ∀ entry ∈ (sessionModel env).trace start inputs,
      OrderSafe start.built.length entry) :
    SessionInvariant env start ((sessionModel env).trace start inputs)
      ((sessionModel env).finalState start inputs) := by
  induction inputs using List.reverseRecOn with
  | nil => exact initial
  | append_singleton inputs input induction =>
      rw [Model.trace_append, Model.finalState_append]
      rw [Model.trace_append] at safe
      apply SessionInvariant.step
      · exact induction fun entry member =>
          safe entry (List.mem_append_left _ member)
      · apply safe
        exact List.mem_append_right _ (List.mem_singleton_self _)

theorem seqOf_built {ref : Nat} {pkt : BuiltPkt}
    (isPkt : st.built[ref]? = some pkt) (narrow : pkt.seq ≤ 0xffffff) :
    seqOf st ref = pkt.seq.toNat := by
  have bound : pkt.seq.toNat ≤ 0xffffff := narrow
  simp only [seqOf, isPkt, BuiltPkt.plain, pktSeq_segmentPdu, toNat_and_seqMask]
  omega

theorem SessionInvariant.writtenInOrder
    (invariant : SessionInvariant env start trace st)
    (narrow : NarrowSince start.built.length st) :
    WrittenInOrder env start trace st := by
  rcases invariant.ordered with ⟨freed, ordered⟩
  have once : writtenSince start st <+: builtSince start st := by
    rw [writtenSince, ordered.written, List.drop_left, ← ordered.order]
    exact (List.prefix_append_right_inj _).mpr (List.take_prefix 1 _)
  refine ⟨once, ?_, ?_⟩
  · have ascending : (writtenSince start st).Pairwise (· < ·) :=
      (List.pairwise_lt_range' _).sublist once.sublist
    apply ascending.imp_of_mem
    intro earlier later isEarlier isLater lower
    have inSession : ∀ ref ∈ writtenSince start st,
        start.built.length ≤ ref ∧ ref < st.built.length := by
      intro ref member
      have inRange := List.mem_range'_1.mp (once.subset member)
      have grows := ordered.grows
      omega
    rcases inSession earlier isEarlier with ⟨low, _⟩
    rcases inSession later isLater with ⟨_, high⟩
    have isFirst := List.getElem?_eq_getElem (Nat.lt_trans lower high)
    have isSecond := List.getElem?_eq_getElem high
    have narrowAt : ∀ ref pkt, start.built.length ≤ ref →
        st.built[ref]? = some pkt → pkt.seq ≤ 0xffffff := by
      intro ref pkt inSession isPkt
      apply narrow
      apply List.mem_of_getElem? (i := ref - start.built.length)
      rw [List.getElem?_drop, Nat.add_sub_cancel' inSession]
      exact isPkt
    rw [seqOf_built isFirst (narrowAt _ _ low isFirst),
      seqOf_built isSecond (narrowAt _ _ (by omega) isSecond)]
    exact invariant.numbered.pairs earlier later _ _ low lower isFirst isSecond
  · intro ref member notQueued
    rw [← ordered.order] at member
    rcases List.mem_append.mp member with isFreed | isQueued
    · exact ordered.succeeded ref isFreed
    · exact absurd isQueued notQueued

end Session

/-- The histories begin with the process. -/
def processStart (loaded : NetState) : NetState :=
  { loaded with pktOut := [], built := [], written := [], acquiring := [] }

/-- A session that is opened after the inputs of a process. -/
def sessionStart (env : NetEnv) (loaded : NetState) (earlier : List NetInput)
    (dataIn : Nat) (provisioner : Bool) (cb : Option Nat) :
    Bool × NetState :=
  netSessionOpen dataIn provisioner cb
    ((netModel env).finalState (processStart loaded) earlier)

theorem refsBuilt_finalState (env : NetEnv) (loaded : NetState)
    (inputs : List NetInput) :
    RefsBuilt .idle ((netModel env).finalState (processStart loaded) inputs) := by
  apply (netModel env).invariant_finalState (RefsBuilt .idle) (fun _ => True)
    (fun st input refs _ => refs.input input)
  · refine ⟨?_, ?_, ?_⟩
    · intro pkt member
      cases member
    · intro ref member
      cases member
    · intro ref isCurrent
      cases isCurrent
  · exact fun _ _ => trivial

/-- In a session in which no write of an earlier one succeeds and no packet has a
sequence number of more than 24 bits, packets are written in the order they
were built in, once, and freed when they have been written. -/
theorem packets_written_in_order (env : NetEnv) (loaded : NetState)
    (earlier : List NetInput) (dataIn : Nat) (provisioner : Bool)
    (cb : Option Nat) {start : NetState}
    (opened : sessionStart env loaded earlier dataIn provisioner cb =
      (true, start))
    (inputs : List SessionInput)
    (safe : ∀ entry ∈ (sessionModel env).trace start inputs,
      OrderSafe start.built.length entry) :
    WrittenInOrder env start ((sessionModel env).trace start inputs)
      ((sessionModel env).finalState start inputs) := by
  have refs := refsBuilt_finalState env loaded earlier
  have initial : SessionInvariant env start [] start := by
    rw [sessionStart, netSessionOpen] at opened
    split at opened
    next => cases opened
    next =>
      have isStart := (Prod.mk.inj opened).2
      rw [← isStart]
      exact SessionInvariant.initial rfl refs.acquiring
  apply (initial.run inputs safe).writtenInOrder
  -- The last step tells that the packets are narrow; without one there are none.
  rcases List.eq_nil_or_concat inputs with isNil | ⟨before, last, isConcat⟩
  · rw [isNil]
    intro pkt member
    rw [Model.finalState_nil, List.drop_length] at member
    cases member
  · rw [isConcat, List.concat_eq_append] at safe ⊢
    rw [Model.finalState_append]
    exact (safe _ ((sessionModel env).entry_mem_trace_concat start before
      last)).narrow

/-! ### A counter of more than 24 bits -/

/-- The node after 2^24 - 1 packets. -/
def lastNumberNode : NetState := { openNode with seqNum := 0xffffff }

theorem order_lost_after_last_number :
    ¬∀ (env : NetEnv) (loaded start : NetState) (earlier : List NetInput)
      (inputs : List SessionInput),
      sessionStart env loaded earlier 1 true none = (true, start) →
      WrittenInOrder env start ((sessionModel env).trace start inputs)
        ((sessionModel env).finalState start inputs) := by
  intro always
  have opened : sessionStart plainEnv lastNumberNode [] 1 true none =
    (true, (sessionStart plainEnv lastNumberNode [] 1 true none).2) := rfl
  have ordered := always plainEnv lastNumberNode _ []
    [heartbeatSend, heartbeatSend] opened
  have increasing := ordered.increasing
  have written : writtenSince
      (sessionStart plainEnv lastNumberNode [] 1 true none).2
      ((sessionModel plainEnv).finalState
        (sessionStart plainEnv lastNumberNode [] 1 true none).2
        [heartbeatSend, heartbeatSend]) = [0, 1] := by decide +kernel
  rw [written, List.pairwise_pair] at increasing
  rcases increasing with ⟨entry, member, restarts, _⟩ | lower
  · simp only [Model.trace_cons, Model.trace_nil, List.mem_cons,
      List.not_mem_nil, or_false] at member
    rcases member with isFirst | isSecond
    · rw [isFirst] at restarts
      cases restarts
    · rw [isSecond] at restarts
      cases restarts
  · revert lower
    decide +kernel

theorem packets_written_in_order_two_packets :
    WrittenInOrder plainEnv (sessionStart plainEnv openNode [] 1 true none).2
      ((sessionModel plainEnv).trace
        (sessionStart plainEnv openNode [] 1 true none).2
        [heartbeatSend, heartbeatSend])
      ((sessionModel plainEnv).finalState
        (sessionStart plainEnv openNode [] 1 true none).2
        [heartbeatSend, heartbeatSend]) := by
  apply packets_written_in_order plainEnv openNode [] 1 true none rfl
  intro entry member
  simp only [Model.trace_cons, Model.trace_nil, List.mem_cons,
    List.not_mem_nil, or_false] at member
  rcases member with equal | equal <;> subst equal
  all_goals
    constructor
    · intro index ref isReply
      cases isReply
    · decide +kernel

end Meshctl.Net
