import Meshctl.Foundation.LinkedList
import Meshctl.Foundation.Loop
import Meshctl.Net.Send

/-! # Queues of a session that is opened or closed

The loops that empty the queues walk over the cells they free. A layout tells
which cells and records the queues of a state are kept in.
-/

namespace Meshctl.Net

open LinkedList Loop

/-! ## Where queues are kept -/

/-- The cells of the three queues. Each record was allocated on its own, and
is in one queue. -/
structure Layout (st : NetState) where
  sarIn : List Cell
  msgOut : List Cell
  pktOut : List Cell
  /-- The messages and packets at the addresses of records. -/
  sar : Nat → MeshSarMsg
  pkt : Nat → MeshPkt
  sarInHolds : sarIn.map (fun cell => sar cell.data) = st.sarIn.records
  msgOutHolds : msgOut.map (fun cell => sar cell.data) = st.msgOut.records
  pktOutHolds : pktOut.map (fun cell => pkt cell.data) = st.pktOut
  distinct : (places (sarIn ++ msgOut ++ pktOut)).Nodup

/-! ## The loops -/

inductive SarTimer where
  | message
  | acknowledgement

def runningTimers (sar : MeshSarMsg) : List SarTimer :=
  (if sar.msgTo then [.message] else []) ++
    (if sar.ackTo then [.acknowledgement] else [])

/-- A loop that empties a list: what is left of the list, the variable of the
loop, the accesses to memory and the timers that were stopped. -/
structure Flush where
  list : List Cell
  l : Option Nat
  accesses : List Access
  stopped : List (Nat × SarTimer)

def flushStart (list : List Cell) (accesses : List Access)
    (stopped : List (Nat × SarTimer)) : Flush where
  list := list
  l := first list
  accesses := accesses ++ firstAccesses list
  stopped := stopped

section Rounds

variable (sar : Nat → MeshSarMsg) (stale : Flush → Nat)

/-- What a cell points to. A cell that was freed holds anything. -/
def cellData (flush : Flush) (address : Nat) : Nat :=
  match flush.list.find? (·.address = address) with
  | some cell => cell.data
  | none => stale flush

def flushSar (record : Nat) (flush : Flush) : Flush where
  list := (remove flush.list record).1
  l := flush.l
  accesses := flush.accesses ++ (remove flush.list record).2 ++
    [.read (.record record), .read (.record record), .free (.record record)]
  stopped := flush.stopped ++ (runningTimers (sar record)).map (record, ·)

def flushSarListRound (flush : Flush) : Option Flush :=
  match flush.l with
  | none => none
  | some address =>
      let record := cellData stale flush address
      let flush := flushSar sar record
        { flush with accesses := flush.accesses ++ [.read (.cell address)] }
      some (flushStart flush.list flush.accesses flush.stopped)

/-- The variable of the loop stays at the cell that is freed. -/
def flushPktListRound (flush : Flush) : Option Flush :=
  match flush.l with
  | none => none
  | some address =>
      let record := cellData stale flush address
      let (list, accesses) := remove flush.list record
      some { flush with
        list
        accesses := flush.accesses ++ .read (.cell address) :: accesses ++
          [.free (.record record)] }

end Rounds

/-! ## Closing and opening -/

section Session

variable (stale : Flush → Nat) {st : NetState} (layout : Layout st)

/-- `net_session_close` returns, and what its three loops leave. -/
structure CloseReturns (sarIn msgOut pktOut : Flush) : Prop where
  sarInEnds : Ends (flushSarListRound layout.sar stale)
    (flushStart layout.sarIn [] []) sarIn
  msgOutEnds : Ends (flushSarListRound layout.sar stale)
    (flushStart layout.msgOut sarIn.accesses sarIn.stopped) msgOut
  pktOutEnds : Ends (flushPktListRound stale)
    (flushStart layout.pktOut msgOut.accesses msgOut.stopped) pktOut

/-- Closing returns with empty queues. Every cell and record was freed once, and
nothing was accessed after it was freed. -/
def ClosesClean : Prop :=
  ∃ sarIn msgOut pktOut, CloseReturns stale layout sarIn msgOut pktOut ∧
    sarIn.list = [] ∧ msgOut.list = [] ∧ pktOut.list = [] ∧
    Clean pktOut.accesses ∧
    ∀ place ∈ places (layout.sarIn ++ layout.msgOut ++ layout.pktOut),
      (frees pktOut.accesses).count place = 1

/-- `net_session_open` returns, and the packets it leaves in the queue. It
refuses a second session. -/
def OpenReturns (pktOut : List Cell) : Prop :=
  match st.proxyIn with
  | some _ => pktOut = layout.pktOut
  | none => ∃ flushed, Ends (flushPktListRound stale)
      (flushStart layout.pktOut [] []) flushed ∧ pktOut = flushed.list

def OpensClean : Prop :=
  OpenReturns stale layout []

end Session

/-! ## The loop over messages -/

/-- The accesses of one round, at the head of the list. -/
def roundAccesses (cell : Cell) (rest : List Cell) : List Access :=
  .read (.cell cell.address) :: .read (.cell cell.address) ::
    (firstAccesses rest ++
      [.free (.cell cell.address), .read (.record cell.data),
        .read (.record cell.data), .free (.record cell.data)] ++
      firstAccesses rest)

/-- The accesses of all rounds. -/
def sarAccesses : List Cell → List Access
  | [] => []
  | cell :: rest => roundAccesses cell rest ++ sarAccesses rest

theorem frees_roundAccesses (cell : Cell) (rest : List Cell) :
    frees (roundAccesses cell rest) = cell.places := by
  simp [roundAccesses, Cell.places]

theorem frees_sarAccesses (list : List Cell) :
    frees (sarAccesses list) = places list := by
  induction list with
  | nil => rfl
  | cons cell rest induction =>
      rw [sarAccesses, frees_append, frees_roundAccesses, induction]
      rfl

theorem place_of_roundAccesses {cell : Cell} {rest : List Cell}
    {access : Access} (member : access ∈ roundAccesses cell rest) :
    access.place ∈ places (cell :: rest) := by
  have later : access ∈ firstAccesses rest →
      access.place ∈ places (cell :: rest) := fun inRest =>
    List.mem_cons_of_mem _
      (List.mem_cons_of_mem _ (mem_places_of_firstAccesses inRest))
  have own : access.place = .cell cell.address ∨
      access.place = .record cell.data → access.place ∈ places (cell :: rest) := by
    rintro (equal | equal)
    · simp [equal]
    · simp [equal]
  simp only [roundAccesses, List.mem_append, List.mem_cons, List.not_mem_nil,
    or_false] at member
  rcases member with equal | equal |
    ((inRest | equal | equal | equal | equal) | inRest)
  · exact own (Or.inl (by rw [equal]; rfl))
  · exact own (Or.inl (by rw [equal]; rfl))
  · exact later inRest
  · exact own (Or.inl (by rw [equal]; rfl))
  · exact own (Or.inr (by rw [equal]; rfl))
  · exact own (Or.inr (by rw [equal]; rfl))
  · exact own (Or.inr (by rw [equal]; rfl))
  · exact later inRest

theorem place_of_sarAccesses {list : List Cell} {access : Access}
    (member : access ∈ sarAccesses list) : access.place ∈ places list := by
  induction list with
  | nil => cases member
  | cons cell rest induction =>
      rcases List.mem_append.mp member with now | later
      · exact place_of_roundAccesses now
      · exact List.mem_cons_of_mem _ (List.mem_cons_of_mem _ (induction later))

theorem clean_roundAccesses {cell : Cell} {rest : List Cell}
    (distinct : (places (cell :: rest)).Nodup) :
    Clean (roundAccesses cell rest) := by
  cases rest with
  | nil => simp [roundAccesses, firstAccesses, Clean, Access.freed, Access.place]
  | cons next rest =>
      have different : cell.address ≠ next.address := by
        intro equal
        simp [equal] at distinct
      simp [roundAccesses, firstAccesses, Clean, Access.freed, Access.place,
        different]

theorem clean_sarAccesses {list : List Cell}
    (distinct : (places list).Nodup) : Clean (sarAccesses list) := by
  induction list with
  | nil => exact List.Pairwise.nil
  | cons cell rest induction =>
      have tail : (places rest).Nodup :=
        (List.nodup_append.mp distinct).2.1
      have apart := (List.nodup_append.mp distinct).2.2
      rw [sarAccesses, clean_append_iff]
      refine ⟨clean_roundAccesses distinct, induction tail, ?_⟩
      intro later inRest freed
      rw [frees_roundAccesses] at freed
      exact apart _ freed _ (place_of_sarAccesses inRest) rfl

section Sar

variable {sar : Nat → MeshSarMsg} {stale : Flush → Nat} {flush : Flush}

theorem flushSarListRound_head {cell : Cell} {rest : List Cell}
    (isList : flush.list = cell :: rest) (isFirst : flush.l = first flush.list) :
    flushSarListRound sar stale flush = some {
      list := rest, l := first rest
      accesses := flush.accesses ++ roundAccesses cell rest
      stopped := flush.stopped ++
        (runningTimers (sar cell.data)).map (cell.data, ·) } := by
  have head : flush.l = some cell.address := by
    rw [isFirst, isList]
    rfl
  have data : cellData stale flush cell.address = cell.data := by
    rw [cellData, isList, List.find?_cons_of_pos (by simp)]
  rw [flushSarListRound, head]
  simp [data, flushSar, isList, remove_head, flushStart, roundAccesses]

/-- The loop ends with an empty list, and every round was at the head. -/
theorem flushSarList_ends (isFirst : flush.l = first flush.list) :
    ∃ final, Ends (flushSarListRound sar stale) flush final ∧
      final.list = [] ∧
      final.accesses = flush.accesses ++ sarAccesses flush.list := by
  apply exists_ends (fun flush : Flush => flush.l = first flush.list)
    (fun flush => flush.list.length)
    (fun flush final => final.list = [] ∧
      final.accesses = flush.accesses ++ sarAccesses flush.list) _ _ isFirst
  · intro state isFirst ends
    cases isList : state.list with
    | nil => simp [sarAccesses]
    | cons cell rest =>
        have goesOn := @flushSarListRound_head sar stale state _ _ isList isFirst
        exact absurd (ends.symm.trans goesOn) (by simp)
  · intro state following isFirst goesOn
    cases isList : state.list with
    | nil =>
        rw [flushSarListRound, isFirst, isList] at goesOn
        cases goesOn
    | cons cell rest =>
        have result := @flushSarListRound_head sar stale state _ _ isList isFirst
        have same := Option.some.inj (result.symm.trans goesOn)
        subst same
        refine ⟨rfl, by simp, ?_⟩
        rintro final ⟨isEmpty, accesses⟩
        refine ⟨isEmpty, ?_⟩
        rw [accesses, sarAccesses, List.append_assoc]

/-- Behind accesses that freed nothing of the list, the loop frees all of it. -/
theorem flushSarList_clean {accesses : List Access} (clean : Clean accesses)
    {list : List Cell} (distinct : (places list).Nodup)
    (apart : ∀ place ∈ places list, place ∉ frees accesses)
    (stopped : List (Nat × SarTimer)) :
    ∃ final, Ends (flushSarListRound sar stale)
        (flushStart list accesses stopped) final ∧
      final.list = [] ∧ Clean final.accesses ∧
      frees final.accesses = frees accesses ++ places list := by
  rcases @flushSarList_ends sar stale (flushStart list accesses stopped) rfl with
    ⟨final, ends, isEmpty, isAccesses⟩
  have cleanStart : Clean (accesses ++ firstAccesses list) :=
    clean_append_firstAccesses clean apart
  have startFrees : frees (accesses ++ firstAccesses list) = frees accesses := by
    simp
  have whole : final.accesses =
      (accesses ++ firstAccesses list) ++ sarAccesses list := isAccesses
  refine ⟨final, ends, isEmpty, ?_, ?_⟩
  · rw [whole, clean_append_iff, startFrees]
    exact ⟨cleanStart, clean_sarAccesses distinct, fun later member =>
      apart _ (place_of_sarAccesses member)⟩
  · rw [whole, frees_append, startFrees, frees_sarAccesses]

end Sar

/-! ## The loop over packets -/

/-- A loop whose variable points to a cell never ends, whatever the cell holds
after it was freed. -/
theorem flushPktList_never_ends {stale : Flush → Nat} {flush final : Flush}
    (points : flush.l ≠ none) : ¬Ends (flushPktListRound stale) flush final := by
  rintro ⟨rounds, ended, _⟩
  refine not_rounds (fun flush => flush.l ≠ none) ?_ points rounds ended
  intro state points
  cases isCell : state.l with
  | none => exact absurd isCell points
  | some address =>
      rw [flushPktListRound, isCell]
      exact ⟨_, rfl, by simp⟩

theorem flushPktList_empty (stale : Flush → Nat) (accesses : List Access)
    (stopped : List (Nat × SarTimer)) :
    Ends (flushPktListRound stale) (flushStart [] accesses stopped)
      (flushStart [] accesses stopped) :=
  ⟨[flushStart [] accesses stopped], .last rfl, rfl⟩

/-- Every round reads the cell that the loop stays at. -/
theorem flushPktListRound_reads {stale : Flush → Nat} {flush following : Flush}
    {address : Nat} (isCell : flush.l = some address)
    (goesOn : flushPktListRound stale flush = some following) :
    following.l = some address ∧ ∃ accesses, following.accesses =
      flush.accesses ++ .read (.cell address) :: accesses := by
  rw [flushPktListRound, isCell] at goesOn
  have result := Option.some.inj goesOn
  subst result
  exact ⟨rfl, _, List.append_assoc _ _ _⟩

/-- The second round reads the cell that the first one freed. -/
theorem flushPktList_reads_freed {stale : Flush → Nat} {cell : Cell}
    {rest : List Cell} {accesses : List Access}
    {stopped : List (Nat × SarTimer)} {second third : Flush}
    (frees : flushPktListRound stale
      (flushStart (cell :: rest) accesses stopped) = some second)
    (reads : flushPktListRound stale second = some third) :
    ¬Clean third.accesses := by
  have data : cellData stale (flushStart (cell :: rest) accesses stopped)
      cell.address = cell.data := by
    rw [cellData, flushStart, List.find?_cons_of_pos (by simp)]
  have start : (flushStart (cell :: rest) accesses stopped).l =
      some cell.address := rfl
  have stays := (flushPktListRound_reads start frees).1
  rcases (flushPktListRound_reads stays reads).2 with ⟨later, isThird⟩
  rw [flushPktListRound, start] at frees
  simp only [data] at frees
  rw [show (flushStart (cell :: rest) accesses stopped).list = cell :: rest
    from rfl, remove_head] at frees
  have result := Option.some.inj frees
  rw [isThird, clean_append_iff]
  rintro ⟨_, _, apart⟩
  have read := apart _ List.mem_cons_self
  rw [← result] at read
  simp [Access.place] at read

/-! ## The session -/

section Session

variable {stale : Flush → Nat} {st : NetState} {layout : Layout st}

theorem Layout.pktOut_eq_nil_iff (layout : Layout st) :
    layout.pktOut = [] ↔ st.pktOut = [] := by
  rw [← layout.pktOutHolds, List.map_eq_nil_iff]

theorem first_eq_none_iff (list : List Cell) : first list = none ↔ list = [] := by
  rw [first, Option.map_eq_none_iff, List.head?_eq_none_iff]

theorem closesClean_of_empty (isEmpty : st.pktOut = []) :
    ClosesClean stale layout := by
  have noPkt := layout.pktOut_eq_nil_iff.mpr isEmpty
  have distinct := layout.distinct
  have pktOutEnds (accesses : List Access) (stopped : List (Nat × SarTimer)) :
      Ends (flushPktListRound stale)
        (flushStart layout.pktOut accesses stopped)
        (flushStart [] accesses stopped) :=
    noPkt ▸ flushPktList_empty stale accesses stopped
  rw [noPkt, List.append_nil, places_append, List.nodup_append] at distinct
  rcases @flushSarList_clean layout.sar stale [] List.Pairwise.nil layout.sarIn
    distinct.1 (by simp) [] with
    ⟨sarIn, sarInEnds, noSarIn, clean, sarInFrees⟩
  rcases @flushSarList_clean layout.sar stale _ clean layout.msgOut
    distinct.2.1 (by
      intro place inMsgOut inSarIn
      rw [sarInFrees] at inSarIn
      exact distinct.2.2 place inSarIn place inMsgOut rfl) sarIn.stopped with
    ⟨msgOut, msgOutEnds, noMsgOut, clean, msgOutFrees⟩
  have same : (flushStart [] msgOut.accesses msgOut.stopped).accesses =
      msgOut.accesses := by simp [flushStart, firstAccesses]
  refine ⟨sarIn, msgOut, _, ⟨sarInEnds, msgOutEnds, pktOutEnds _ _⟩, noSarIn,
    noMsgOut, rfl, same.symm ▸ clean, ?_⟩
  intro place member
  have allFrees : frees msgOut.accesses =
      places (layout.sarIn ++ layout.msgOut ++ layout.pktOut) := by
    rw [msgOutFrees, sarInFrees, noPkt, List.append_nil, places_append]
    rfl
  rw [same, allFrees]
  exact List.count_eq_one_of_mem layout.distinct member

theorem pktOut_empty_of_closes {sarIn msgOut pktOut : Flush}
    (closes : CloseReturns stale layout sarIn msgOut pktOut) :
    st.pktOut = [] := by
  rw [← layout.pktOut_eq_nil_iff, ← first_eq_none_iff]
  by_contra points
  exact flushPktList_never_ends points closes.pktOutEnds

theorem opensClean_iff : OpensClean stale layout ↔ st.pktOut = [] := by
  rw [← layout.pktOut_eq_nil_iff, OpensClean, OpenReturns]
  cases st.proxyIn with
  | some other => exact eq_comm
  | none =>
      constructor
      · rintro ⟨flushed, ends, _⟩
        rw [← first_eq_none_iff]
        by_contra points
        exact flushPktList_never_ends points ends
      · intro isEmpty
        rw [isEmpty]
        exact ⟨_, flushPktList_empty stale [] [], rfl⟩

end Session

/-- The session with empty queues is what closing leaves. -/
theorem close_returns_empty {stale : Flush → Nat} {st : NetState}
    {layout : Layout st} {sarIn msgOut pktOut : Flush}
    (closes : CloseReturns stale layout sarIn msgOut pktOut) (dataIn : Nat) :
    sarIn.list.map (fun cell => layout.sar cell.data) =
        (netSessionClose dataIn st).sarIn.records ∧
      msgOut.list.map (fun cell => layout.sar cell.data) =
        (netSessionClose dataIn st).msgOut.records ∧
      pktOut.list.map (fun cell => layout.pkt cell.data) =
        (netSessionClose dataIn st).pktOut := by
  rcases @closesClean_of_empty stale st layout (pktOut_empty_of_closes closes)
    with ⟨_, _, _, returns, noSarIn, noMsgOut, noPktOut, _⟩
  have sameSarIn := closes.sarInEnds.unique returns.sarInEnds
  subst sameSarIn
  have sameMsgOut := closes.msgOutEnds.unique returns.msgOutEnds
  subst sameMsgOut
  have samePktOut := closes.pktOutEnds.unique returns.pktOutEnds
  subst samePktOut
  rw [noSarIn, noMsgOut, noPktOut]
  exact ⟨rfl, rfl, rfl⟩

/-- Closing a session returns with clean queues, and so does opening one, if and
only if no packet is queued. -/
theorem session_flushes_iff (stale : Flush → Nat) {st : NetState}
    (layout : Layout st) :
    (ClosesClean stale layout ↔ st.pktOut = []) ∧
      (OpensClean stale layout ↔ st.pktOut = []) := by
  refine ⟨⟨?_, closesClean_of_empty⟩, opensClean_iff⟩
  rintro ⟨_, _, _, closes, _⟩
  exact pktOut_empty_of_closes closes

/-! ### A packet that waits for its write -/

/-- A session in which a single packet is queued. -/
def onePkt : NetState :=
  { NetState.zero with pktOut := [{ ref := 0, data := [], len := 0 }] }

def onePktLayout : Layout onePkt where
  sarIn := []
  msgOut := []
  pktOut := [{ address := 1, data := 2 }]
  sar _ := MeshSarMsg.zero 0
  pkt _ := { ref := 0, data := [], len := 0 }
  sarInHolds := rfl
  msgOutHolds := rfl
  pktOutHolds := rfl
  distinct := by decide

theorem session_not_always_flushed :
    (∀ stale, ¬ClosesClean stale onePktLayout) ∧
      ∀ stale, ¬OpensClean stale onePktLayout := by
  have queued : onePkt.pktOut ≠ [] := List.cons_ne_nil _ _
  constructor
  · rintro stale ⟨_, _, _, closes, _⟩
    exact queued (pktOut_empty_of_closes closes)
  · exact fun stale opens => queued (opensClean_iff.mp opens)

end Meshctl.Net
