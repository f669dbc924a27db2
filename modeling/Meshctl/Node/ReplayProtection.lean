import Meshctl.Foundation.Execution
import Meshctl.Node.LocalData

/-! # Replay protection

Which messages a provisioner dispatches, compared with the lexicographic order
of the pair (IV index, sequence number).
-/

namespace Meshctl.Node

open Execution

variable {World : Type*}

/-! ## The order of messages -/

structure MessagePair where
  ivIndex : U32
  seqNum : U32
deriving DecidableEq

def AccessMessage.pair (message : AccessMessage) : MessagePair where
  ivIndex := message.ivIndex
  seqNum := message.seqNum

def NodeIdentity.pair (node : NodeIdentity) : MessagePair where
  ivIndex := node.ivIndex
  seqNum := node.seqNumber

def MeshNode.pair (node : MeshNode) : MessagePair := node.identity.pair

/-- `later` is lexicographically greater than `earlier`. -/
def Newer (earlier later : MessagePair) : Prop :=
  earlier.ivIndex < later.ivIndex ∨
    earlier.ivIndex = later.ivIndex ∧ earlier.seqNum < later.seqNum

theorem Newer.trans {first second third : MessagePair}
    (older : Newer first second) (newer : Newer second third) :
    Newer first third := by
  simp only [Newer, BitVec.lt_def, ← BitVec.toNat_inj] at older newer ⊢
  omega

theorem Newer.irrefl (pair : MessagePair) : ¬Newer pair pair := by
  simp [Newer]

/-! ## The comparison of the code -/

/-- The eight bits of an IV index that survive the 32-bit shift by 24. -/
def lowByte (ivIndex : U32) : Nat := ivIndex.toNat % 2 ^ 8

theorem toNat_shifted (ivIndex : U32) :
    ((ivIndex <<< 24).setWidth 64 : U64).toNat = 2 ^ 24 * lowByte ivIndex := by
  simp only [BitVec.toNat_setWidth, BitVec.toNat_shiftLeft, Nat.shiftLeft_eq,
    lowByte]
  omega

/-- The code compares the low bytes of the two IV indexes; where these are
equal, it accepts unless both sequence numbers are zero. -/
theorem isReplayed_eq_false_iff (remote : MeshNode) (ivIndex seqNum : U32)
    (remoteNarrow : remote.seqNumber.toNat < 2 ^ 24)
    (narrow : seqNum.toNat < 2 ^ 24) :
    isReplayed remote ivIndex seqNum = false ↔
      lowByte remote.ivIndex < lowByte ivIndex ∨
        lowByte remote.ivIndex = lowByte ivIndex ∧
          ¬(remote.seqNumber.toNat = 0 ∧ seqNum.toNat = 0) := by
  have bothBound : seqNum.toNat ||| remote.seqNumber.toNat < 2 ^ 24 :=
    Nat.or_lt_two_pow narrow remoteNarrow
  have bothZero : seqNum.toNat ||| remote.seqNumber.toNat = 0 ↔
      remote.seqNumber.toNat = 0 ∧ seqNum.toNat = 0 := by
    rw [Nat.or_eq_zero_iff, and_comm]
  have wide : ∀ value : U32, (value.setWidth 64 : U64).toNat = value.toNat := by
    intro value
    rw [BitVec.toNat_setWidth]
    omega
  have combined :
      ((ivIndex <<< 24).setWidth 64 ||| seqNum.setWidth 64 |||
        remote.seqNumber.setWidth 64 : U64).toNat =
      2 ^ 24 * lowByte ivIndex +
        (seqNum.toNat ||| remote.seqNumber.toNat) := by
    rw [BitVec.toNat_or, BitVec.toNat_or, toNat_shifted, wide, wide,
      Nat.or_assoc, Nat.two_pow_add_eq_or_of_lt bothBound]
  rw [← bothZero]
  simp only [isReplayed, decide_eq_false_iff_not, BitVec.le_def, combined,
    toNat_shifted]
  omega

/-- When the comparison of the code agrees with the order of the pairs. -/
def ComparesExactly (stored new : MessagePair) : Prop :=
  stored.seqNum ≤ 0xffffff ∧
    if stored.ivIndex = new.ivIndex then
      stored.seqNum < new.seqNum ∨ stored.seqNum = 0 ∧ new.seqNum = 0
    else if stored.ivIndex < new.ivIndex then
      lowByte stored.ivIndex < lowByte new.ivIndex ∨
        lowByte stored.ivIndex = lowByte new.ivIndex ∧
          ¬(stored.seqNum = 0 ∧ new.seqNum = 0)
    else
      lowByte new.ivIndex < lowByte stored.ivIndex ∨
        lowByte new.ivIndex = lowByte stored.ivIndex ∧
          stored.seqNum = 0 ∧ new.seqNum = 0

theorem accepts_newer_iff (remote : MeshNode) (message : AccessMessage)
    (remoteNarrow : remote.seqNumber ≤ 0xffffff)
    (narrow : message.seqNum ≤ 0xffffff) :
    (isReplayed remote message.ivIndex message.seqNum = false ↔
        Newer remote.pair message.pair) ↔
      ComparesExactly remote.pair message.pair := by
  simp only [BitVec.le_def, BitVec.ofNat_eq_ofNat, BitVec.toNat_ofNat]
    at remoteNarrow narrow
  rw [isReplayed_eq_false_iff remote _ _ (by omega) (by omega)]
  simp only [Newer, ComparesExactly, MeshNode.pair, NodeIdentity.pair,
    MeshNode.identity, AccessMessage.pair, lowByte, BitVec.lt_def,
    BitVec.le_def, BitVec.ofNat_eq_ofNat, BitVec.toNat_ofNat,
    ← BitVec.toNat_inj]
  split_ifs <;> omega

/-! ## Runs -/

/-- The store, and for every node the pair of the last message from it that a
model consumed. -/
structure ReplayState (World : Type*) where
  store : Store World
  recorded : NodeRef → MessagePair

/-- Before the first message, the recorded pair of a node is its stored one. -/
def ReplayState.start (store : Store World) : ReplayState World where
  store := store
  recorded ref :=
    match store.table.nodes.find ref with
    | some node => node.pair
    | none => ⟨0, 0⟩

/-- The node, if any, whose message a model consumed. -/
def Delivery.consumedFrom (delivery : Delivery) : Option NodeRef :=
  if delivery.consumed && !delivery.loopback then delivery.remote else none

def recordConsumed (recorded : NodeRef → MessagePair)
    (message : AccessMessage) (delivery : Delivery) : NodeRef → MessagePair :=
  match delivery.consumedFrom with
  | some ref => Function.update recorded ref message.pair
  | none => recorded

def replayStep (callbacks : Callbacks World) (state : ReplayState World)
    (message : AccessMessage) : StepResult (ReplayState World) Delivery :=
  let (delivery, store) :=
    nodeLocalDataHandler callbacks state.store message
  ⟨{ store, recorded := recordConsumed state.recorded message delivery },
    delivery⟩

def replayModel (callbacks : Callbacks World) :
    Model (ReplayState World) AccessMessage Delivery where
  step := replayStep callbacks

abbrev ReplayEntry (World : Type*) :=
  Entry (ReplayState World) AccessMessage Delivery

/-- A message for a local element is dispatched exactly when its pair is newer
than the recorded one. -/
def DispatchesNewer (entry : ReplayEntry World) : Prop :=
  ∀ remote element,
    Addressed entry.before.store.table entry.input remote element →
    (entry.observation.dispatched = true ↔
      Newer (entry.before.recorded remote.ref) entry.input.pair)

/-- Two steps consume messages of one node with one pair. -/
def ConsumesAgain (earlier later : ReplayEntry World) : Prop :=
  ∃ ref, earlier.observation.consumedFrom = some ref ∧
    later.observation.consumedFrom = some ref ∧
    earlier.input.pair = later.input.pair

structure ReplayProtection (trace : List (ReplayEntry World)) : Prop where
  dispatchesNewer : ∀ entry ∈ trace, DispatchesNewer entry
  consumesOnce : trace.Pairwise fun earlier later => ¬ConsumesAgain earlier later

/-- The step compares a stored pair with one that its comparison is right
about. -/
def ComparesExactlyAt (entry : ReplayEntry World) : Prop :=
  ∀ remote element,
    Addressed entry.before.store.table entry.input remote element →
    ComparesExactly remote.pair entry.input.pair

def Store.OnProvisioner (store : Store World) : Prop :=
  ∀ localNode, store.table.localRecord = some localNode →
    localNode.provisioner = true

/-- The pair stored in a node is the recorded one. -/
structure ReplayInvariant (state : ReplayState World) : Prop where
  provisioner : state.store.OnProvisioner
  recorded : ∀ node ∈ state.store.table.nodes.records,
    state.recorded node.ref = node.pair

def NarrowSequence (state : ReplayState World) : Prop :=
  ∀ node ∈ state.store.table.nodes.records, node.seqNumber ≤ 0xffffff

theorem ReplayState.start_invariant {store : Store World}
    (provisioner : store.OnProvisioner) :
    ReplayInvariant (ReplayState.start store) where
  provisioner := provisioner
  recorded node member := by
    have found := (store.table.nodes.find_eq_some_iff node.ref node).mpr
      ⟨member, rfl⟩
    simp only [ReplayState.start, found]

/-- Steps that only change other fields of the nodes stay on a provisioner. -/
theorem onProvisioner_of_nodes {before after : Store World}
    (provisioner : before.OnProvisioner)
    (localNode : after.table.localNode = before.table.localNode)
    (nodes : ∀ node ∈ after.table.nodes.records, ∃ old ∈ before.table.nodes.records,
      old.ref = node.ref ∧ old.provisioner = node.provisioner) :
    after.OnProvisioner := by
  intro node isLocal
  rcases Option.bind_eq_some_iff.mp isLocal with ⟨ref, pointer, found⟩
  have ⟨member, isRef⟩ := (after.table.nodes.find_eq_some_iff _ _).mp found
  rcases nodes node member with ⟨old, oldMember, sameRef, sameFlag⟩
  have oldLocal : before.table.localRecord = some old := by
    apply Option.bind_eq_some_iff.mpr
    refine ⟨ref, localNode ▸ pointer, ?_⟩
    exact (before.table.nodes.find_eq_some_iff _ _).mpr
      ⟨oldMember, sameRef.trans isRef⟩
  rw [← sameFlag]
  exact provisioner old oldLocal

/-- Every node after a step is a node from before; its pair is that of the
message exactly when the message was consumed from it. -/
theorem replayStep_nodes (callbacks : Callbacks World)
    (state : ReplayState World) (message : AccessMessage)
    (provisioner : state.store.OnProvisioner) :
    let result := replayStep callbacks state message
    result.nextState.store.table.localNode = state.store.table.localNode ∧
      ∀ node ∈ result.nextState.store.table.nodes.records,
        ∃ old ∈ state.store.table.nodes.records, old.ref = node.ref ∧
          old.provisioner = node.provisioner ∧
          (result.observation.consumedFrom = some node.ref ∧
              message.seqNum ≤ 0xffffff ∧ node.pair = message.pair ∨
            result.observation.consumedFrom ≠ some node.ref ∧
              node.pair = old.pair) := by
  dsimp only
  rcases nodeLocalDataHandler_cases callbacks state.store message provisioner
    with ⟨notConsumed, keeps⟩ | ⟨remote, element, kept, addressed, keeps, delivery, table⟩
  · refine ⟨keeps.localNode, fun node member => ?_⟩
    rcases keeps.exists_node member with ⟨old, oldMember, same⟩
    refine ⟨old, oldMember, congrArg NodeIdentity.ref same,
      congrArg NodeIdentity.provisioner same, Or.inr ⟨?_, ?_⟩⟩
    · change Delivery.consumedFrom
        (nodeLocalDataHandler callbacks state.store message).1 ≠ _
      rcases notConsumed with notConsumed | loopback
      · simp [Delivery.consumedFrom, notConsumed]
      · simp [Delivery.consumedFrom, loopback]
    · exact (congrArg NodeIdentity.pair same).symm
  · refine ⟨?_, fun node member => ?_⟩
    · change (nodeLocalDataHandler callbacks state.store message).2.table.localNode
        = _
      rw [table]
      exact keeps.localNode
    · change node ∈
        (nodeLocalDataHandler callbacks state.store message).2.table.nodes.records
        at member
      change ∃ old ∈ state.store.table.nodes.records, old.ref = node.ref ∧
        old.provisioner = node.provisioner ∧
        (Delivery.consumedFrom
            (nodeLocalDataHandler callbacks state.store message).1 = _ ∧ _ ∨
          Delivery.consumedFrom
            (nodeLocalDataHandler callbacks state.store message).1 ≠ _ ∧ _)
      rw [table] at member
      rcases List.mem_map.mp member with ⟨middle, middleMember, equal⟩
      rcases keeps.exists_node middleMember with ⟨old, oldMember, same⟩
      have sameRef : old.ref = middle.ref := congrArg NodeIdentity.ref same
      have sameFlag : old.provisioner = middle.provisioner :=
        congrArg NodeIdentity.provisioner same
      refine ⟨old, oldMember, ?_⟩
      rw [delivery]
      by_cases isRemote : middle.ref = remote.ref
      · rw [if_pos isRemote] at equal
        subst equal
        exact ⟨sameRef, sameFlag, Or.inl ⟨by simp [Delivery.consumedFrom,
          isRemote], addressed.narrow, rfl⟩⟩
      · rw [if_neg isRemote] at equal
        subst equal
        refine ⟨sameRef, sameFlag, Or.inr ⟨?_,
          (congrArg NodeIdentity.pair same).symm⟩⟩
        simpa [Delivery.consumedFrom] using fun same => isRemote same.symm

theorem recordConsumed_eq (recorded : NodeRef → MessagePair)
    (message : AccessMessage) (delivery : Delivery) (ref : NodeRef) :
    recordConsumed recorded message delivery ref =
      if delivery.consumedFrom = some ref then message.pair
      else recorded ref := by
  rw [recordConsumed]
  cases consumed : delivery.consumedFrom with
  | none => simp
  | some other =>
      by_cases same : ref = other
      · subst same
        simp
      · have apart : ¬other = ref := fun equal => same equal.symm
        simp [Function.update_of_ne same, apart]

theorem replayStep_invariant (callbacks : Callbacks World)
    {state : ReplayState World} (invariant : ReplayInvariant state)
    (message : AccessMessage) :
    ReplayInvariant (replayStep callbacks state message).nextState := by
  have ⟨localNode, nodes⟩ :=
    replayStep_nodes callbacks state message invariant.provisioner
  refine ⟨onProvisioner_of_nodes invariant.provisioner localNode ?_, ?_⟩
  · intro node member
    rcases nodes node member with ⟨old, oldMember, sameRef, sameFlag, _⟩
    exact ⟨old, oldMember, sameRef, sameFlag⟩
  · intro node member
    rcases nodes node member with ⟨old, oldMember, sameRef, _, pair⟩
    change recordConsumed state.recorded message
      (replayStep callbacks state message).observation node.ref = node.pair
    rw [recordConsumed_eq]
    rcases pair with ⟨consumed, _, isNew⟩ | ⟨notConsumed, isOld⟩
    · rw [if_pos consumed, isNew]
    · rw [if_neg notConsumed, isOld, ← sameRef]
      exact invariant.recorded old oldMember

theorem replayStep_narrow (callbacks : Callbacks World)
    {state : ReplayState World} (provisioner : state.store.OnProvisioner)
    (narrow : NarrowSequence state) (message : AccessMessage) :
    NarrowSequence (replayStep callbacks state message).nextState := by
  have ⟨_, nodes⟩ := replayStep_nodes callbacks state message provisioner
  intro node member
  rcases nodes node member with ⟨old, oldMember, _, _, pair⟩
  rcases pair with ⟨_, messageNarrow, isNew⟩ | ⟨_, isOld⟩
  · rw [show node.seqNumber = message.seqNum from
      congrArg MessagePair.seqNum isNew]
    exact messageNarrow
  · rw [show node.seqNumber = old.seqNumber from
      congrArg MessagePair.seqNum isOld]
    exact narrow old oldMember

/-- Where the recorded pairs are the stored ones, a step dispatches what is
newer if its comparison is right about the pairs. -/
theorem dispatchesNewer_iff (callbacks : Callbacks World)
    {state : ReplayState World} (invariant : ReplayInvariant state)
    (message : AccessMessage) (remoteNarrow : ∀ remote element,
      Addressed state.store.table message remote element →
        remote.seqNumber ≤ 0xffffff) :
    DispatchesNewer ((replayModel callbacks).entry state message) ↔
      ComparesExactlyAt ((replayModel callbacks).entry state message) := by
  have atRemote : ∀ remote element,
      Addressed state.store.table message remote element →
      (((replayStep callbacks state message).observation.dispatched = true ↔
        Newer (state.recorded remote.ref) message.pair) ↔
          ComparesExactly remote.pair message.pair) := by
    intro remote element addressed
    rw [invariant.recorded remote
        (NodeTable.nodeFindByAddr_mem addressed.known),
      ← accepts_newer_iff remote message
        (remoteNarrow remote element addressed) addressed.narrow]
    change ((nodeLocalDataHandler callbacks state.store message).1.dispatched
      = true ↔ _) ↔ _
    rw [nodeLocalDataHandler_dispatched addressed]
    simp
  constructor
  · intro dispatches remote element addressed
    exact (atRemote remote element addressed).mp
      (dispatches remote element addressed)
  · intro compares remote element addressed
    exact (atRemote remote element addressed).mpr
      (compares remote element addressed)

/-! ### Consuming once -/

theorem consumedFrom_dispatched (callbacks : Callbacks World)
    {state : ReplayState World} (provisioner : state.store.OnProvisioner)
    {message : AccessMessage} {ref : NodeRef}
    (consumed : (replayStep callbacks state message).observation.consumedFrom =
      some ref) :
    ∃ remote element, Addressed state.store.table message remote element ∧
      remote.ref = ref ∧
      (replayStep callbacks state message).observation.dispatched = true := by
  change Delivery.consumedFrom
    (nodeLocalDataHandler callbacks state.store message).1 = _ at consumed
  change ∃ remote element, _ ∧ _ ∧
    (nodeLocalDataHandler callbacks state.store message).1.dispatched = true
  rcases nodeLocalDataHandler_cases callbacks state.store message provisioner
    with ⟨notConsumed, _⟩ | ⟨remote, element, _, addressed, _, delivery, _⟩
  · rcases notConsumed with notConsumed | loopback
    · simp [Delivery.consumedFrom, notConsumed] at consumed
    · simp [Delivery.consumedFrom, loopback] at consumed
  · rw [delivery] at consumed ⊢
    exact ⟨remote, element, addressed, by
      simpa [Delivery.consumedFrom] using consumed, rfl⟩

/-- A run that dispatches only what is newer consumes from a node only pairs
that are newer than the one recorded at its start. -/
theorem consumed_newer (callbacks : Callbacks World) {state : ReplayState World}
    (invariant : ReplayInvariant state) (messages : List AccessMessage)
    (dispatchesNewer : ∀ entry ∈ (replayModel callbacks).trace state messages,
      DispatchesNewer entry)
    (ref : NodeRef) :
    ∀ entry ∈ (replayModel callbacks).trace state messages,
      entry.observation.consumedFrom = some ref →
      Newer (state.recorded ref) entry.input.pair := by
  induction messages generalizing state with
  | nil => intro entry member; cases member
  | cons message messages induction =>
      intro entry member consumed
      rw [Model.trace_cons] at dispatchesNewer
      have here := dispatchesNewer _ List.mem_cons_self
      have recordedNewer : (replayStep callbacks state message).observation.consumedFrom =
          some ref → Newer (state.recorded ref) message.pair := by
        intro consumedHere
        rcases consumedFrom_dispatched callbacks invariant.provisioner
          consumedHere with ⟨remote, element, addressed, isRef, dispatched⟩
        rw [← isRef]
        exact (here remote element addressed).mp dispatched
      rcases List.mem_cons.mp member with equal | later
      · subst equal
        exact recordedNewer consumed
      · have newer := induction (replayStep_invariant callbacks invariant message)
          (fun other otherMember =>
            dispatchesNewer other (List.mem_cons_of_mem _ otherMember))
          entry later consumed
        change Newer (recordConsumed state.recorded message
          (replayStep callbacks state message).observation ref) _ at newer
        rw [recordConsumed_eq] at newer
        split at newer
        next consumedHere => exact (recordedNewer consumedHere).trans newer
        next => exact newer

theorem replayProtection_of_dispatchesNewer (callbacks : Callbacks World)
    {state : ReplayState World} (invariant : ReplayInvariant state)
    (messages : List AccessMessage)
    (dispatchesNewer : ∀ entry ∈ (replayModel callbacks).trace state messages,
      DispatchesNewer entry) :
    ReplayProtection ((replayModel callbacks).trace state messages) := by
  refine ⟨dispatchesNewer, ?_⟩
  induction messages generalizing state with
  | nil => exact List.Pairwise.nil
  | cons message messages induction =>
      have nextInvariant := replayStep_invariant callbacks invariant message
      have later : ∀ entry ∈ (replayModel callbacks).trace
          (replayStep callbacks state message).nextState messages,
          DispatchesNewer entry :=
        fun entry member => dispatchesNewer entry (List.mem_cons_of_mem _ member)
      apply List.Pairwise.cons _ (induction nextInvariant later)
      intro entry member ⟨ref, consumedHere, consumedLater, samePair⟩
      have newer := consumed_newer callbacks nextInvariant messages later ref
        entry member consumedLater
      change Newer (recordConsumed state.recorded message
        (replayStep callbacks state message).observation ref) _ at newer
      change (replayStep callbacks state message).observation.consumedFrom = _
        at consumedHere
      change message.pair = _ at samePair
      rw [recordConsumed_eq, if_pos consumedHere, ← samePair] at newer
      exact Newer.irrefl _ newer

/-! ## The claim about whole runs -/

/-- A run on a provisioner is protected against replays when all of its
comparisons are right; if the stored sequence numbers have 24 bits, only then. -/
theorem replay_protection (callbacks : Callbacks World) {store : Store World}
    (provisioner : store.OnProvisioner) (messages : List AccessMessage) :
    ((∀ entry ∈ (replayModel callbacks).trace (ReplayState.start store) messages,
        ComparesExactlyAt entry) →
      ReplayProtection
        ((replayModel callbacks).trace (ReplayState.start store) messages)) ∧
    (NarrowSequence (ReplayState.start store) →
      ReplayProtection
        ((replayModel callbacks).trace (ReplayState.start store) messages) →
      ∀ entry ∈ (replayModel callbacks).trace (ReplayState.start store) messages,
        ComparesExactlyAt entry) := by
  have start := ReplayState.start_invariant provisioner
  constructor
  · intro compares
    apply replayProtection_of_dispatchesNewer callbacks start
    intro entry member
    have ⟨invariant, _⟩ := (replayModel callbacks).invariant_of_mem_trace
      ReplayInvariant (fun _ => True)
      (fun state message invariant _ =>
        replayStep_invariant callbacks invariant message)
      start (fun _ _ => trivial) member
    have isStep := (replayModel callbacks).entry_of_mem_trace member
    have comparesHere := compares entry member
    rw [isStep] at comparesHere ⊢
    exact (dispatchesNewer_iff callbacks invariant entry.input
      (fun remote element addressed =>
        (comparesHere remote element addressed).1)).mpr comparesHere
  · intro narrow protection
    apply ((replayModel callbacks).forall_trace_iff
      (fun state => ReplayInvariant state ∧ NarrowSequence state)
      ComparesExactlyAt DispatchesNewer ?_ ?_ messages ⟨start, narrow⟩).mp
      protection.dispatchesNewer
    · intro state message ⟨invariant, narrow⟩ _
      exact ⟨replayStep_invariant callbacks invariant message,
        replayStep_narrow callbacks invariant.provisioner narrow message⟩
    · intro state message ⟨invariant, narrow⟩
      exact dispatchesNewer_iff callbacks invariant message
        (fun remote element addressed => narrow remote
          (NodeTable.nodeFindByAddr_mem addressed.known))

/-! ### The same message twice -/

def consumeAll : Callbacks Unit where
  recv _ _ _ _ store := (true, store)
  keepsLocalNode _ _ _ _ _ := rfl
  keepsIdentities _ _ _ _ _ := List.Sublist.refl _

/-- A provisioner at address 1 and a fresh node at address 2. -/
def twoNodes : Store Unit where
  table :=
    { nodes := (KeyedList.empty.append
        { ref := 0, ivIndex := 0, seqNumber := 0, primaryNetIdx := 0
          primary := 1, devKey := 0, numEle := 1, provisioner := true
          elements := [{ index := 0, models :=
            [{ id := 0xffff0001, bindings := [0], recv := some 0 }] }] }).append
        { ref := 1, ivIndex := 0, seqNumber := 0, primaryNetIdx := 0
          primary := 2, devKey := 0, numEle := 1, provisioner := false
          elements := [] }
      localNode := some 0 }
  world := ()

theorem twoNodes_onProvisioner : twoNodes.OnProvisioner := by
  intro localNode isLocal
  cases isLocal
  rfl

def fromSecondNode : AccessMessage where
  src := 2
  dst := 1
  ivIndex := 1
  seqNum := 5
  appIdx := 0
  data := []
  len := 0

theorem replay_not_protected :
    ¬∀ (callbacks : Callbacks Unit) (store : Store Unit),
      store.OnProvisioner → ∀ messages : List AccessMessage,
        ReplayProtection
          ((replayModel callbacks).trace (ReplayState.start store) messages) := by
  intro always
  have protection := always consumeAll twoNodes twoNodes_onProvisioner
    [fromSecondNode, fromSecondNode]
  have apart := (List.pairwise_cons.mp protection.consumesOnce).1 _
    List.mem_cons_self
  exact apart ⟨1, by decide, by decide, rfl⟩

theorem replay_protection_single_message :
    ((∀ entry ∈ (replayModel consumeAll).trace (ReplayState.start twoNodes)
        [fromSecondNode], ComparesExactlyAt entry) →
      ReplayProtection ((replayModel consumeAll).trace
        (ReplayState.start twoNodes) [fromSecondNode])) ∧
    (NarrowSequence (ReplayState.start twoNodes) →
      ReplayProtection ((replayModel consumeAll).trace
        (ReplayState.start twoNodes) [fromSecondNode]) →
      ∀ entry ∈ (replayModel consumeAll).trace (ReplayState.start twoNodes)
        [fromSecondNode], ComparesExactlyAt entry) :=
  replay_protection consumeAll twoNodes_onProvisioner [fromSecondNode]

end Meshctl.Node
