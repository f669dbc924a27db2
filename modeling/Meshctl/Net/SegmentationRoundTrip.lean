import Meshctl.Net.MessageInProgress
import Meshctl.Net.SourceIndependence

/-! # Segments are put together again

The receiver of the segments of one message, in any order, with any duplicates
and among segments from other sources, hands the message up once: when the last
missing segment arrives.
-/

namespace Meshctl.Net

open Bytes Execution

/-! ## Arrivals -/

/-- An arrival is a segment of the message, all of which are read with one
sequence number, or a well-formed segment from another source. -/
def Arrival (sar : MeshSarMsg) (seqAuth : U32) (pkt : SegmentPdu) : Prop :=
  (∃ seg, IsSegment sar seg pkt ∧ pkt.seqAuth = seqAuth) ∨
    pkt.src ≠ sar.src ∧ pkt.segO ≤ pkt.segN

/-- The segments that have arrived from a source. -/
def arrivedFrom (source : U16) (pkts : List SegmentPdu) : Set Nat :=
  { seg | ∃ pkt ∈ pkts, pkt.src = source ∧ pkt.segO.toNat = seg }

section Runs

variable (env : NetEnv) (receiver : MsgReceiver)

def arrivals (start : NetState) (pkts : List SegmentPdu) :
    List (Entry NetState ReceiveInput SegObservation) :=
  (receiveModel env receiver).trace start (pkts.map .segment)

def afterArrivals (start : NetState) (pkts : List SegmentPdu) : NetState :=
  (receiveModel env receiver).finalState start (pkts.map .segment)

/-- The messages from a source that a run hands up, oldest first. -/
def handedFrom (source : U16)
    (trace : List (Entry NetState ReceiveInput SegObservation)) :
    List HandedMessage :=
  trace.filterMap fun entry => entry.observation.handed.filter (·.src = source)

variable {env receiver} {start : NetState}

theorem arrivedFrom_append (source : U16) (pkts : List SegmentPdu)
    (pkt : SegmentPdu) :
    arrivedFrom source (pkts ++ [pkt]) =
      if pkt.src = source then insert pkt.segO.toNat (arrivedFrom source pkts)
      else arrivedFrom source pkts := by
  ext seg
  simp only [arrivedFrom, List.mem_append, List.mem_singleton,
    Set.mem_ofPred_eq]
  split
  next isSource =>
    simp only [Set.mem_insert_iff, Set.mem_ofPred_eq]
    constructor
    · intro ⟨other, member, from', isSeg⟩
      rcases member with before | equal
      · exact Or.inr ⟨other, before, from', isSeg⟩
      · exact Or.inl (equal ▸ isSeg.symm)
    · intro member
      rcases member with isSeg | ⟨other, before, from', isSeg⟩
      · exact ⟨pkt, Or.inr rfl, isSource, isSeg.symm⟩
      · exact ⟨other, Or.inl before, from', isSeg⟩
  next notSource =>
    constructor
    · intro ⟨other, member, from', isSeg⟩
      rcases member with before | equal
      · exact ⟨other, before, from', isSeg⟩
      · exact absurd (equal ▸ from') notSource
    · intro ⟨other, before, from', isSeg⟩
      exact ⟨other, Or.inl before, from', isSeg⟩

theorem afterArrivals_append (pkts : List SegmentPdu) (pkt : SegmentPdu) :
    afterArrivals env receiver start (pkts ++ [pkt]) =
      (segRxed env receiver pkt
        (afterArrivals env receiver start pkts)).nextState := by
  rw [afterArrivals, List.map_append, Model.finalState_append]
  rfl

theorem handedFrom_append (source : U16) (pkts : List SegmentPdu)
    (pkt : SegmentPdu) :
    handedFrom source (arrivals env receiver start (pkts ++ [pkt])) =
      handedFrom source (arrivals env receiver start pkts) ++
        ((segRxed env receiver pkt (afterArrivals env receiver start
          pkts)).observation.handed.filter (·.src = source)).toList := by
  rw [handedFrom, arrivals, List.map_append, Model.trace_append,
    List.filterMap_append]
  congr 1

/-- A segment from elsewhere hands nothing up from the source. -/
theorem handedFrom_other {source : U16} {pkt : SegmentPdu}
    (apart : pkt.src ≠ source) (st : NetState) :
    (segRxed env receiver pkt st).observation.handed.filter
      (·.src = source) = none := by
  rw [Option.filter_eq_none_iff]
  intro message isHanded
  rw [segRxed_handed_src isHanded]
  simpa using apart

/-! ## One message -/

variable {sar : MeshSarMsg} {seqAuth : U32}

/-- The slot of the source holds what has arrived from it. -/
theorem receiving_afterArrivals (message : SegmentedAccess sar)
    (nothing : start.sarIn.find sar.src = none) (pkts : List SegmentPdu)
    (isArrival : ∀ pkt ∈ pkts, Arrival sar seqAuth pkt) :
    Receiving sar seqAuth (arrivedFrom sar.src pkts)
      ((afterArrivals env receiver start pkts).sarIn.find sar.src) := by
  induction pkts using List.reverseRecOn with
  | nil =>
      change Receiving sar seqAuth _ (start.sarIn.find sar.src)
      rw [nothing]
      change arrivedFrom sar.src [] = ∅
      simp [arrivedFrom]
  | append_singleton pkts pkt induction =>
      have before := induction fun other member =>
        isArrival other (List.mem_append_left _ member)
      rw [afterArrivals_append, arrivedFrom_append]
      rcases isArrival pkt (by simp) with ⟨seg, isSegment, same⟩ | ⟨apart, _⟩
      · have facts := isSegment.facts message
        rw [if_pos facts.src, facts.segO]
        exact (segRxed_own before message isSegment same).1
      · rw [if_neg apart, segRxed_other sar.src apart]
        exact before

/-- The message is handed up once, when nothing of it is missing. -/
theorem handedFrom_arrivals (message : SegmentedAccess sar)
    (nothing : start.sarIn.find sar.src = none) (pkts : List SegmentPdu)
    (isArrival : ∀ pkt ∈ pkts, Arrival sar seqAuth pkt) :
    (AllArrived sar (arrivedFrom sar.src pkts) ∧ ∃ handed,
      handedFrom sar.src (arrivals env receiver start pkts) = [handed] ∧
      Reassembled sar seqAuth handed) ∨
    ¬AllArrived sar (arrivedFrom sar.src pkts) ∧
      handedFrom sar.src (arrivals env receiver start pkts) = [] := by
  induction pkts using List.reverseRecOn with
  | nil =>
      refine Or.inr ⟨fun all => ?_, rfl⟩
      rcases all 0 (Nat.zero_le _) with ⟨_, absurd, _⟩
      cases absurd
  | append_singleton pkts pkt induction =>
      have earlier : ∀ other ∈ pkts, Arrival sar seqAuth other :=
        fun other member => isArrival other (List.mem_append_left _ member)
      have before := induction earlier
      rw [handedFrom_append, arrivedFrom_append]
      rcases isArrival pkt (by simp) with ⟨seg, isSegment, same⟩ | ⟨apart, _⟩
      · have facts := isSegment.facts message
        rcases segRxed_own
          (receiving_afterArrivals message nothing pkts earlier)
          message isSegment same with ⟨_, completed, quiet⟩
        rw [if_pos facts.src, facts.segO]
        rcases before with ⟨all, handed, once, reassembled⟩ | ⟨missing, never⟩
        · refine Or.inl ⟨fun other inMessage =>
            Set.mem_insert_of_mem _ (all other inMessage), handed, ?_,
            reassembled⟩
          rw [once, quiet (Or.inl all)]
          rfl
        · by_cases all : AllArrived sar
              (insert seg.toNat (arrivedFrom sar.src pkts))
          · rcases completed missing all with ⟨handed, isHanded, reassembled⟩
            refine Or.inl ⟨all, handed, ?_, reassembled⟩
            rw [never, isHanded]
            simp [reassembled.src]
          · refine Or.inr ⟨all, ?_⟩
            rw [never, quiet (Or.inr all)]
            rfl
      · rw [if_neg apart, handedFrom_other apart]
        simpa using before

/-! ## Other sources -/

/-- Without the segments of the message, the other sources fare the same. -/
theorem others_arrivals (source : U16) {other : U16} (apart : other ≠ source)
    (pkts : List SegmentPdu) :
    Option.Rel Alike
        ((afterArrivals env receiver start pkts).sarIn.find other)
        ((afterArrivals env receiver start
          (pkts.filter (·.src ≠ source))).sarIn.find other) ∧
      handedFrom other (arrivals env receiver start pkts) =
        handedFrom other (arrivals env receiver start
          (pkts.filter (·.src ≠ source))) := by
  induction pkts using List.reverseRecOn with
  | nil =>
      refine ⟨?_, rfl⟩
      change Option.Rel Alike (start.sarIn.find other) (start.sarIn.find other)
      cases start.sarIn.find other with
      | none => exact Option.Rel.none
      | some record => exact Option.Rel.some (Alike.of_frozen rfl)
  | append_singleton pkts pkt induction =>
      rcases induction with ⟨slots, handed⟩
      rw [afterArrivals_append, handedFrom_append, List.filter_append,
        List.filter_singleton]
      by_cases isSource : pkt.src = source
      · have apartPkt : pkt.src ≠ other := isSource ▸ apart.symm
        rw [segRxed_other other apartPkt, handedFrom_other apartPkt]
        simpa [isSource] using And.intro slots handed
      · have kept : decide (pkt.src ≠ source) = true := decide_eq_true isSource
        rw [kept, cond_true, afterArrivals_append, handedFrom_append]
        by_cases isOther : pkt.src = other
        · rw [← isOther] at slots handed ⊢
          rcases segRxed_alike slots with ⟨slots', handed'⟩
          exact ⟨slots', by rw [handed, handed']⟩
        · rw [segRxed_other other isOther, segRxed_other other isOther,
            handedFrom_other isOther, handedFrom_other isOther]
          exact ⟨slots, by simpa using handed⟩

end Runs

/-- The receiver of the segments of a message hands the message up exactly
once, when the last missing segment arrives; the messages from other sources
are what they are without it. -/
theorem segments_reassembled (env : NetEnv) (receiver : MsgReceiver)
    {sar : MeshSarMsg} (message : SegmentedAccess sar) {seqAuth : U32}
    {start : NetState} (nothing : start.sarIn.find sar.src = none)
    (pkts : List SegmentPdu)
    (isArrival : ∀ pkt ∈ pkts, Arrival sar seqAuth pkt) :
    ((AllArrived sar (arrivedFrom sar.src pkts) ∧ ∃ handed,
        handedFrom sar.src (arrivals env receiver start pkts) = [handed] ∧
        Reassembled sar seqAuth handed) ∨
      ¬AllArrived sar (arrivedFrom sar.src pkts) ∧
        handedFrom sar.src (arrivals env receiver start pkts) = []) ∧
    (∀ earlier pkt later, pkts = earlier ++ pkt :: later →
      pkt.src = sar.src →
      ((segRxed env receiver pkt (afterArrivals env receiver start
          earlier)).observation.handed.isSome ↔
        ¬AllArrived sar (arrivedFrom sar.src earlier) ∧
          AllArrived sar (arrivedFrom sar.src (earlier ++ [pkt])))) ∧
    ∀ other ≠ sar.src,
      Option.Rel Alike
          ((afterArrivals env receiver start pkts).sarIn.find other)
          ((afterArrivals env receiver start
            (pkts.filter (·.src ≠ sar.src))).sarIn.find other) ∧
        handedFrom other (arrivals env receiver start pkts) =
          handedFrom other (arrivals env receiver start
            (pkts.filter (·.src ≠ sar.src))) := by
  refine ⟨handedFrom_arrivals message nothing pkts isArrival, ?_, ?_⟩
  · intro earlier pkt later split isSource
    subst split
    have before := @receiving_afterArrivals env receiver start sar seqAuth
      message nothing earlier fun other member =>
        isArrival other (List.mem_append_left _ member)
    rcases isArrival pkt (by simp) with ⟨seg, isSegment, same⟩ | ⟨apart, _⟩
    · rcases segRxed_own before message
        isSegment same with ⟨_, completed, quiet⟩
      rw [arrivedFrom_append, if_pos isSource,
        (isSegment.facts message).segO]
      constructor
      · intro isHanded
        by_contra notNow
        rw [not_and_or, not_not] at notNow
        rw [quiet notNow] at isHanded
        cases isHanded
      · intro ⟨missing, all⟩
        rcases completed missing all with ⟨handed, isHanded, _⟩
        rw [isHanded]
        rfl
    · exact absurd isSource apart
  · intro other apart
    exact others_arrivals sar.src apart pkts

/-! ### Two segments in reverse order -/

/-- A PDU of sixteen bytes from address 2 to address 1. -/
def sixteenBytes : MeshSarMsg :=
  { MeshSarMsg.zero 1 with src := 2, dst := 1, len := 16, segmented := true }

def arrivalOf (seg : Byte) (seq : U32) : SegmentPdu :=
  let pdu := segmentPdu sixteenBytes seg 1 seq
  receivedSegment 0 0 pdu.1 pdu.2

theorem arrivalOf_arrival {seg : Byte} {seq : U32} (inMessage : seg.toNat ≤ 1)
    (access : (arrivalOf seg seq).ctl = false)
    (same : (arrivalOf seg seq).seqAuth = 0) :
    Arrival sixteenBytes 0 (arrivalOf seg seq) :=
  Or.inl ⟨seg, ⟨inMessage, access, rfl, 0, 1, seq,
    ⟨rfl, rfl, rfl, rfl, fun _ _ => rfl⟩⟩, same⟩

theorem segments_reassembled_reversed :
    ∃ handed, handedFrom 2 (arrivals plainEnv quietReceiver openNode
        [arrivalOf 1 0, arrivalOf 0 1]) = [handed] ∧
      Reassembled sixteenBytes 0 handed := by
  have result := (segments_reassembled plainEnv quietReceiver
    (⟨rfl, rfl, by decide, by decide, by decide⟩ :
      SegmentedAccess sixteenBytes)
    (rfl : openNode.sarIn.find 2 = none) [arrivalOf 1 0, arrivalOf 0 1] (by
      intro pkt member
      simp only [List.mem_cons, List.not_mem_nil, or_false] at member
      rcases member with equal | equal
      · subst equal
        exact arrivalOf_arrival (by decide) (by decide) (by decide)
      · subst equal
        exact arrivalOf_arrival (by decide) (by decide) (by decide))).1
  rcases result with ⟨_, once⟩ | ⟨missing, _⟩
  · exact once
  · refine absurd (fun seg inMessage => ?_) missing
    have isSeg : seg = 0 ∨ seg = 1 := by
      have last : sixteenBytes.segN.toNat = 1 := rfl
      omega
    rcases isSeg with equal | equal
    · exact ⟨arrivalOf 0 1, by simp, by decide, equal ▸ by decide⟩
    · exact ⟨arrivalOf 1 0, by simp, by decide, equal ▸ by decide⟩

end Meshctl.Net
