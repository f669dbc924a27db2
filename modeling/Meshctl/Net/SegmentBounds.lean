import Meshctl.Net.Reassembly

/-! # Where segments are written

The size of a record is that of the segment that opened it, which every later
segment of the record shares; the place of a write is that of the segment alone.
-/

namespace Meshctl.Net

open Execution

/-- Twelve bytes from the offset on are allocated. -/
def SegmentWrite.Inside (write : SegmentWrite) : Prop :=
  write.offset + 12 ≤ write.allocated

/-- Every write of a step lies inside the record it goes to. -/
def WritesInside (entry : Entry NetState ReceiveInput SegObservation) : Prop :=
  ∀ write, entry.observation.write = some write → write.Inside

/-- A segment that is not stale is one of the segments that its own header
announces. -/
def AnnouncedSegment (entry : Entry NetState ReceiveInput SegObservation) :
    Prop :=
  ∀ pkt, entry.input = .segment pkt → ¬pkt.Stale entry.before →
    pkt.segO ≤ pkt.segN

theorem inside_iff (pkt : SegmentPdu) :
    SegmentWrite.Inside ⟨1 + 12 * pkt.segO.toNat, 20 + 12 * pkt.segN.toNat⟩ ↔
      pkt.segO ≤ pkt.segN := by
  rw [SegmentWrite.Inside, BitVec.le_def]
  dsimp only
  omega

/-- Only segments write. -/
theorem writes_segment {env : NetEnv} {receiver : MsgReceiver} {st : NetState}
    {input : ReceiveInput} {write : SegmentWrite}
    (wrote : (receiveStep env receiver st input).observation.write =
      some write) : ∃ pkt, input = .segment pkt := by
  cases input with
  | segment pkt => exact ⟨pkt, rfl⟩
  | ackTimeout src =>
      revert wrote
      simp only [receiveStep, sarInAckTimeout]
      intro wrote
      split at wrote
      next => cases wrote
      next =>
        split at wrote
        next => cases wrote
        next => split at wrote <;> cases wrote
  | msgTimeout src => cases wrote
  | other input => cases wrote

theorem receiveStep_writesInside_iff (env : NetEnv) (receiver : MsgReceiver)
    (st : NetState) (input : ReceiveInput) :
    WritesInside ((receiveModel env receiver).entry st input) ↔
      AnnouncedSegment ((receiveModel env receiver).entry st input) := by
  constructor
  · intro inside pkt isSegment fresh
    change input = .segment pkt at isSegment
    subst isSegment
    rcases segRxed_spec fresh with
      ⟨sar, _, stored⟩
    exact (inside_iff pkt).mp (inside _ stored.write)
  · intro announced write wrote
    change (receiveStep env receiver st input).observation.write = some write
      at wrote
    rcases writes_segment wrote with ⟨pkt, isSegment⟩
    subst isSegment
    by_cases stale : pkt.Stale st
    · rw [receiveStep, segRxed_stale stale] at wrote
      cases wrote
    · rcases segRxed_spec stale with
        ⟨sar, _, stored⟩
      rw [receiveStep, stored.write] at wrote
      rw [← Option.some_inj.mp wrote, inside_iff]
      exact announced pkt rfl stale

/-- All writes of a run lie inside their records exactly when no segment that
is stored lies behind the last one of its message. -/
theorem writes_inside_iff (env : NetEnv) (receiver : MsgReceiver)
    (start : NetState) (inputs : List ReceiveInput) :
    (∀ entry ∈ (receiveModel env receiver).trace start inputs,
        WritesInside entry) ↔
      ∀ entry ∈ (receiveModel env receiver).trace start inputs,
        AnnouncedSegment entry :=
  (receiveModel env receiver).forall_trace_iff (fun _ => True)
    AnnouncedSegment WritesInside (fun _ _ _ _ => trivial)
    (fun st input _ => receiveStep_writesInside_iff env receiver st input)
    inputs trivial

/-! ### A segment behind the last one -/

/-- Segment 1 of a message whose last segment is segment 0. -/
def straySegment : SegmentPdu where
  netIdx := 0
  ivIndex := 5
  ctl := false
  ttl := 4
  seqNum := 0
  src := 2
  dst := 1
  trans := [0x80, 0x00, 0x00, 0x20, 1, 2, 3, 4, 5, 6, 7, 8, 9, 10, 11, 12]
  len := 16

theorem writes_not_always_inside :
    ¬∀ (env : NetEnv) (receiver : MsgReceiver) (start : NetState)
      (inputs : List ReceiveInput),
      ∀ entry ∈ (receiveModel env receiver).trace start inputs,
        WritesInside entry := by
  intro always
  have inside := always plainEnv quietReceiver openNode
    [.segment straySegment] _ List.mem_cons_self
    ⟨13, 20⟩ (by decide +kernel)
  revert inside
  simp [SegmentWrite.Inside]

end Meshctl.Net
