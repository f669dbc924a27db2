import Meshctl.Net.Reassembly

/-! # Sources do not affect each other

Two receivers that hold the same of a source keep doing so when the same
segments arrive from it, whatever else arrives. Only the decryption of complete
messages depends on the rest of the state.
-/

namespace Meshctl.Net

open Bytes Execution

/-- Everything about a record but its data and its activity count. -/
def MeshSarMsg.header (sar : MeshSarMsg) : MeshSarMsg :=
  { sar with
    activityCnt := 0
    data := List.replicate (20 + 12 * sar.segN.toNat) 0
    sized := List.length_replicate }

/-- Nothing is missing, so nothing will be handed up any more. -/
def MeshSarMsg.Finished (sar : MeshSarMsg) : Prop :=
  sar.ack &&& fullAck sar.segN = fullAck sar.segN

/-- The records differ at most in how complete messages were decrypted. -/
structure Alike (first second : MeshSarMsg) : Prop where
  header : first.header = second.header
  data : ¬first.Finished → first.data = second.data

section Alike

variable {pkt : SegmentPdu} {first second third : MeshSarMsg}

theorem Alike.finished (alike : Alike first second) :
    first.Finished ↔ second.Finished := by
  change first.header.Finished ↔ second.header.Finished
  rw [alike.header]

theorem Alike.symm (alike : Alike first second) : Alike second first :=
  ⟨alike.header.symm, fun unfinished =>
    (alike.data (mt alike.finished.mp unfinished)).symm⟩

theorem Alike.trans (alike : Alike first second) (next : Alike second third) :
    Alike first third :=
  ⟨alike.header.trans next.header, fun unfinished =>
    (alike.data unfinished).trans
      (next.data (mt alike.finished.mpr unfinished))⟩

theorem Alike.of_frozen (same : first.frozen = second.frozen) :
    Alike first second :=
  ⟨(congrArg MeshSarMsg.header same : first.frozen.header = _),
    fun _ => (congrArg MeshSarMsg.data same : first.frozen.data = _)⟩

theorem Alike.frozen (alike : Alike first second)
    (unfinished : ¬first.Finished) : first.frozen = second.frozen := by
  have header := alike.header
  have data := alike.data unfinished
  cases first
  cases second
  simp only [MeshSarMsg.header, MeshSarMsg.mk.injEq] at header
  simp only [MeshSarMsg.frozen, MeshSarMsg.mk.injEq]
  simp only at data
  simp [header, data]

theorem storeSegment_header :
    (storeSegment pkt first).header =
      (storeSegment pkt first.header).header := by
  rw [storeSegment_eq, storeSegment_eq]
  rfl

theorem storeSegment_frozen :
    (storeSegment pkt first).frozen = (storeSegment pkt first.frozen).frozen := by
  rw [storeSegment_eq, storeSegment_eq]
  rfl

/-- Once finished, a record stays so. -/
theorem MeshSarMsg.Finished.store (finished : first.Finished) :
    (storeSegment pkt first).Finished := by
  rw [Finished] at finished ⊢
  rw [storeSegment_ack, storeSegment_segN, BitVec.and_or_distrib_right,
    finished]
  ext index inRange
  simp only [BitVec.getElem_or, BitVec.getElem_and]
  cases (fullAck first.segN)[index] <;> simp

theorem Alike.store (alike : Alike first second) :
    Alike (storeSegment pkt first) (storeSegment pkt second) := by
  by_cases finished : first.Finished
  · refine ⟨?_, fun unfinished => absurd finished.store unfinished⟩
    rw [storeSegment_header, alike.header, ← storeSegment_header]
  · apply Alike.of_frozen
    rw [storeSegment_frozen, alike.frozen finished, ← storeSegment_frozen]

/-- A record that a segment completes was not finished, but is now. -/
theorem finished_of_completes (segN : first.segN = pkt.segN)
    (complete : completes pkt first = true) :
    ¬first.Finished ∧ (storeSegment pkt first).Finished := by
  rw [completes, Bool.and_eq_true, decide_eq_true_eq, decide_eq_true_eq,
    storeSegment_ack] at complete
  rcases complete with ⟨full, missing⟩
  refine ⟨?_, ?_⟩
  · intro finished
    apply missing
    rw [MeshSarMsg.Finished, segN] at finished
    rw [← finished, ← full]
    ext index inRange
    simp only [BitVec.getElem_or, BitVec.getElem_and]
    cases first.ack[index] <;> simp
  · rw [MeshSarMsg.Finished, storeSegment_ack, storeSegment_segN, full, segN,
      BitVec.and_self]

theorem Alike.completes (alike : Alike first second) :
    completes pkt first = completes pkt second := by
  have ack : first.header.ack = second.header.ack := by rw [alike.header]
  change first.ack = second.ack at ack
  rw [Net.completes, Net.completes, storeSegment_ack, storeSegment_ack, ack]

theorem decryptInPlace_alike (payload : Option (List Byte))
    (finished : first.Finished) : Alike (decryptInPlace payload first) first := by
  cases payload with
  | none => exact ⟨rfl, fun _ => rfl⟩
  | some payload => exact ⟨rfl, fun unfinished => absurd finished unfinished⟩

/-- What is handed up does not depend on earlier decryptions. -/
theorem Alike.handed (alike : Alike first second)
    (segN : first.segN = pkt.segN) :
    (if Net.completes pkt first then
      some (handedMessage pkt (storeSegment pkt first)) else none) =
    if Net.completes pkt second then
      some (handedMessage pkt (storeSegment pkt second)) else none := by
  rw [← alike.completes]
  split
  next complete =>
    have same := alike.frozen (finished_of_completes segN complete).1
    have handed : handedMessage pkt (storeSegment pkt first).frozen =
        handedMessage pkt (storeSegment pkt second).frozen := by
      rw [storeSegment_frozen, same, ← storeSegment_frozen]
    exact congrArg some handed
  next => rfl

end Alike

/-! ## The inboxes of two receivers -/

section Receivers

variable {env : NetEnv} {receiver : MsgReceiver} {pkt : SegmentPdu}
  {first second : NetState}

theorem Alike.continues {old new : MeshSarMsg} (alike : Alike old new) :
    pkt.Continues old ↔ pkt.Continues new := by
  have split (record : MeshSarMsg) :
      pkt.Continues record ↔ pkt.Continues record.header :=
    ⟨fun ⟨src, ivIndex, seqAuth, segN⟩ => ⟨src, ivIndex, seqAuth, segN⟩,
      fun ⟨src, ivIndex, seqAuth, segN⟩ => ⟨src, ivIndex, seqAuth, segN⟩⟩
  rw [split, split new, alike.header]

theorem alike_slots_symm {old new : Option MeshSarMsg}
    (slots : Option.Rel Alike old new) : Option.Rel Alike new old := by
  cases slots with
  | some alike => exact Option.Rel.some alike.symm
  | none => exact Option.Rel.none

theorem stale_of_alike
    (slots : Option.Rel Alike (first.sarIn.find pkt.src)
      (second.sarIn.find pkt.src))
    (stale : pkt.Stale first) : pkt.Stale second := by
  rcases stale with ⟨old, found, newer⟩
  rw [found] at slots
  generalize other : second.sarIn.find pkt.src = slot at slots
  cases slots with
  | some alike =>
      refine ⟨_, other, ?_⟩
      have ivIndex := congrArg MeshSarMsg.ivIndex alike.header
      have seqAuth := congrArg MeshSarMsg.seqAuth alike.header
      change old.ivIndex = _ at ivIndex
      change old.seqAuth = _ at seqAuth
      rw [ivIndex, seqAuth] at newer
      exact newer

/-- The records that a segment goes to are alike. -/
theorem recordOf_alike
    (slots : Option.Rel Alike (first.sarIn.find pkt.src)
      (second.sarIn.find pkt.src))
    {old new : MeshSarMsg} (ofFirst : pkt.RecordOf first old)
    (ofSecond : pkt.RecordOf second new) : Alike old new := by
  generalize inFirst : first.sarIn.find pkt.src = slot at slots
  generalize inSecond : second.sarIn.find pkt.src = slot' at slots
  rcases ofFirst with ⟨found, continues⟩ | ⟨fresh, isNew⟩
  · rw [inFirst] at found
    subst found
    cases slots with
    | some alike =>
        rcases ofSecond with ⟨found', _⟩ | ⟨fresh', _⟩
        · rw [inSecond, Option.some_inj] at found'
          exact found' ▸ alike
        · exact absurd (alike.continues.mp continues) (fresh' _ inSecond)
  · rcases ofSecond with ⟨found', continues'⟩ | ⟨_, isNew'⟩
    · rw [inSecond] at found'
      subst found'
      cases slots with
      | some alike =>
          exact absurd (alike.continues.mpr continues') (fresh _ inFirst)
    · rw [isNew, isNew']
      exact Alike.of_frozen rfl

/-- The same segment leaves alike records behind and hands up the same. -/
theorem segRxed_alike
    (slots : Option.Rel Alike (first.sarIn.find pkt.src)
      (second.sarIn.find pkt.src)) :
    Option.Rel Alike
        ((segRxed env receiver pkt first).nextState.sarIn.find pkt.src)
        ((segRxed env receiver pkt second).nextState.sarIn.find pkt.src) ∧
      (segRxed env receiver pkt first).observation.handed =
        (segRxed env receiver pkt second).observation.handed := by
  by_cases stale : pkt.Stale first
  · rw [segRxed_stale stale, segRxed_stale (stale_of_alike slots stale)]
    exact ⟨slots, rfl⟩
  · rcases segRxed_spec stale with ⟨old, ofFirst, stored⟩
    rcases segRxed_spec (mt (stale_of_alike (alike_slots_symm slots)) stale) with
      ⟨new, ofSecond, stored'⟩
    have alike := recordOf_alike slots ofFirst ofSecond
    have segN := ofFirst.continues.segN
    refine ⟨?_, ?_⟩
    · rcases stored.left with ⟨last, payload, found, frozen, kept, _⟩
      rcases stored'.left with ⟨last', payload', found', frozen', kept', _⟩
      rw [found, found']
      apply Option.Rel.some
      apply (Alike.of_frozen frozen).trans
      apply Alike.trans _ (Alike.of_frozen frozen').symm
      cases complete : completes pkt old with
      | false =>
          rw [kept complete, kept' (alike.completes ▸ complete)]
          exact alike.store
      | true =>
          have finished := (finished_of_completes segN complete).2
          have finished' := alike.store.finished.mp finished
          exact ((decryptInPlace_alike payload finished).trans
            alike.store).trans (decryptInPlace_alike payload' finished').symm
    · rw [stored.handed, stored'.handed]
      exact alike.handed segN

end Receivers

end Meshctl.Net
