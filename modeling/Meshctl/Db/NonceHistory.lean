import Meshctl.Foundation.Epochs
import Meshctl.Net.BeaconSafety
import Meshctl.Db.ProcessRun

/-! # Nonces over restarts

The numbers that all processes of a node hand out, with the IV index they are sent
with, are in order. What is in the files is ahead of all of them at any time.
-/

namespace Meshctl.Db

open Net Execution Epochs

/-! ## Stamps -/

/-- The IV index that messages are sent with. -/
def transmitIndex (ivIndex : U32) (ivUpdate : Bool) : U32 :=
  ivIndex - if ivUpdate then 1 else 0

def nonceStamp (nonce : U32 × U32) : Stamp :=
  stamp nonce.1.toNat nonce.2.toNat

theorem transmitIndex_toNat {ivIndex : U32} {ivUpdate : Bool}
    (positive : ivUpdate = true → 0 < ivIndex.toNat) :
    (transmitIndex ivIndex ivUpdate).toNat =
      ivIndex.toNat - if ivUpdate then 1 else 0 := by
  cases ivUpdate with
  | false => simp [transmitIndex]
  | true =>
      have isPositive := positive rfl
      simp only [transmitIndex, if_true, BitVec.toNat_sub, BitVec.ofNat_eq_ofNat,
        BitVec.toNat_ofNat]
      omega

/-- A beacon that does not start an update of the IV index in force never lowers the
IV index for sending, and raises it when the counter restarts. -/
theorem beacon_rises {st : NetState} {ivUpdate : Bool} {ivIndex : U32}
    (positive : st.ivUpdate = true → 0 < st.ivIndex.toNat)
    (forward : st.ivIndex.toNat ≤ ivIndex.toNat)
    (later : st.ivUpdate = false → ivUpdate = true → ivIndex ≠ st.ivIndex) :
    (ivUpdate = true → 0 < ivIndex.toNat) ∧
      st.transmitIv.toNat ≤ (transmitIndex ivIndex ivUpdate).toNat ∧
      (restartsSeq ivUpdate ivIndex st = true →
        st.transmitIv.toNat < (transmitIndex ivIndex ivUpdate).toNat) := by
  have apart : st.ivUpdate = false → ivUpdate = true →
      ivIndex.toNat ≠ st.ivIndex.toNat := fun before update =>
    mt BitVec.eq_of_toNat_eq (later before update)
  have positiveAfter : ivUpdate = true → 0 < ivIndex.toNat := by
    intro update
    cases before : st.ivUpdate with
    | false =>
        have different := apart before update
        omega
    | true => exact Nat.lt_of_lt_of_le (positive before) forward
  have old : st.transmitIv.toNat = st.ivIndex.toNat - if st.ivUpdate then 1 else 0 :=
    transmitIndex_toNat positive
  refine ⟨positiveAfter, ?_⟩
  rw [old, transmitIndex_toNat positiveAfter]
  have next : st.ivIndex + 1 = ivIndex ↔
      (st.ivIndex.toNat + 1) % 2 ^ 32 = ivIndex.toNat := by
    rw [← BitVec.toNat_inj, BitVec.toNat_add]
    rfl
  have bound := ivIndex.isLt
  cases before : st.ivUpdate <;> cases ivUpdate <;>
    simp only [restartsSeq, before, next, BitVec.lt_def, if_true,
      Bool.false_eq_true, if_false] <;>
    simp [before] at * <;> omega

/-! ## The invariant -/

/-- What a start takes over from the files. -/
def Loaded.takenOver (loaded : Loaded) : StoredLocal where
  ivIndex := loaded.settings.ivIndex
  ivUpdate := loaded.settings.ivUpdate
  sequenceNumber := loaded.localNode.seqNumber

theorem Loaded.takenOver_ivIndex (loaded : Loaded) :
    loaded.takenOver.ivIndex = loaded.settings.ivIndex := rfl

def stampOf (stored : StoredLocal) : Stamp :=
  stamp (transmitIndex stored.ivIndex stored.ivUpdate).toNat
    stored.sequenceNumber.toNat

def InForce (net : NetState) (stored : StoredLocal) : Prop :=
  net.ivIndex = stored.ivIndex ∧ net.ivUpdate = stored.ivUpdate

/-- While a beacon is taken over, the counter is ahead in the epoch it begins. -/
structure BeaconHolds (net : NetState) (handed : List Stamp) (ivUpdate : Bool)
    (ivIndex : U32) : Prop where
  provisioner : net.provisioner = true
  positive : ivUpdate = true → 0 < ivIndex.toNat
  rises : net.transmitIv.toNat ≤ (transmitIndex ivIndex ivUpdate).toNat
  ahead : Ahead handed (stamp (transmitIndex ivIndex ivUpdate).toNat net.seqNum.toNat)
  small : net.seqNum.toNat ≤ 0x1000000

/-- What is stored next covers the counter. -/
def Covered (net : NetState) (ivUpdate : Bool) (ivIndex : U32) : Prop :=
  if storesIvState net ivUpdate ivIndex then
    net.seqNum.toNat < net.seqNumReserved.toNat
  else
    Reserves net

structure NumberTaken (net : NetState) (stored : StoredLocal) (handed : List Stamp)
    (thisSeq : U32) : Prop where
  inForce : InForce net stored
  next : net.seqNum.toNat = thisSeq.toNat + 1
  small : thisSeq.toNat ≤ 0xffffff
  ahead : Ahead handed (stamp net.transmitIv.toNat thisSeq.toNat)
  reserves : Reserves net

structure AtRest (net : NetState) (stored : StoredLocal) (handed : List Stamp) :
    Prop where
  inForce : InForce net stored
  ahead : Ahead handed (stamp net.transmitIv.toNat net.seqNum.toNat)
  small : net.seqNum.toNat ≤ 0x1000000
  reserves : Reserves net

def PhaseHolds (net : NetState) (stored : StoredLocal) (handed : List Stamp) :
    StorePhase → Prop
  | .stopped => False
  | .idle => AtRest net stored handed
  | .taken thisSeq => NumberTaken net stored handed thisSeq
  | .reserved thisSeq => NumberTaken net stored handed thisSeq ∧
      thisSeq.toNat < stored.sequenceNumber.toNat
  | .beaconTaken ivUpdate ivIndex => InForce net stored ∧
      BeaconHolds net handed ivUpdate ivIndex ∧ (net.seqNum = 0 ∨ Reserves net)
  | .beaconLocal ivUpdate ivIndex => InForce net stored ∧
      BeaconHolds net handed ivUpdate ivIndex ∧ Covered net ivUpdate ivIndex
  | .beaconStored ivUpdate ivIndex =>
      (stored.ivIndex = ivIndex ∧ stored.ivUpdate = ivUpdate) ∧
      BeaconHolds net handed ivUpdate ivIndex ∧ Covered net ivUpdate ivIndex

def ProcessState.stamps (state : ProcessState) : List Stamp :=
  state.handed.map nonceStamp

/-- What the files say, beside the process. -/
structure OnDisk (env : LoadEnv) (state : ProcessState) (loaded : Loaded) :
    Prop where
  loads : load env state.files = some loaded
  mirrored : state.net.stored.sequenceNumber = loaded.localNode.seqNumber
  ahead : Ahead state.stamps (stampOf loaded.takenOver)
  positive : loaded.settings.ivUpdate = true → 0 < loaded.settings.ivIndex.toNat
  phase : PhaseHolds state.net loaded.takenOver state.stamps state.phase

/-- The files hold what the first start read, with the numbers of some writes. -/
structure ProcessInvariant (env : LoadEnv) (places : Places) (first : Loaded)
    (state : ProcessState) : Prop where
  located : state.files.places = places
  ordered : state.stamps.Pairwise (· < ·)
  small : ∀ nonce ∈ state.handed, nonce.2.toNat ≤ 0xffffff
  disk : ∃ writes, OnDisk env state (first.assignAll places writes)

/-! ## Starting -/

section Start

variable {env : LoadEnv} {files : Files} {loaded : Loaded}

theorem startNet_eq (loads : load env files = some loaded) :
    ∃ net, startNet env files = some net ∧ InForce net loaded.takenOver ∧
      net.seqNum =
        (if loaded.localNode.seqNumber.toNat ≤ 0xffffff then loaded.localNode.seqNumber
        else 0) ∧
      net.seqNumReserved = 0 ∧
      net.stored.sequenceNumber = loaded.localNode.seqNumber := by
  rcases readLocalNode_eq_some_iff.mp (load_eq_some_iff.mp loads).1 with
    ⟨jnode, pool, isNode, parsed⟩
  have stored : (storedLocal jnode).sequenceNumber = loaded.localNode.seqNumber := by
    rw [← setReplay_of_parsed parsed]
    rfl
  have isSeq : (restarted (storedLocal jnode)).seqNum =
      if loaded.localNode.seqNumber.toNat ≤ 0xffffff then loaded.localNode.seqNumber
      else 0 := by
    by_cases loadable : loaded.localNode.seqNumber.toNat ≤ 0xffffff
    · rw [if_pos loadable, restarted_eq (stored.symm ▸ loadable)]
      exact stored
    · rw [if_neg loadable]
      exact restarted_refused (by rw [stored]; exact Nat.not_le.mp loadable)
  refine ⟨{ netSetIvIndex loaded.settings.ivIndex loaded.settings.ivUpdate
      (restarted (storedLocal jnode)) with
    netKeys := loaded.settings.netKeys
    appKeys := loaded.settings.appKeys }, ?_, ⟨rfl, rfl⟩, isSeq, ?_, ?_⟩
  · rw [startNet, loads, Option.bind_eq_bind, Option.bind_some, isNode]
    rfl
  · exact @restarted_seqNumReserved (storedLocal jnode)
  · exact (congrArg StoredLocal.sequenceNumber restarted_stored).trans stored

theorem started_handed (handed : List (U32 × U32)) (files : Files) :
    (started env handed files).handed = handed := by
  rw [started]
  split <;> rfl

theorem started_files (handed : List (U32 × U32)) (files : Files) :
    (started env handed files).files = files := by
  rw [started]
  split <;> rfl

/-- A process that starts with files that are ahead of everything that was handed
out is ahead of it, too. -/
theorem started_onDisk {handed : List (U32 × U32)}
    (loads : load env files = some loaded)
    (ahead : Ahead (handed.map nonceStamp) (stampOf loaded.takenOver))
    (positive : loaded.settings.ivUpdate = true → 0 < loaded.settings.ivIndex.toNat)
    (loadable : handed = [] ∨ loaded.localNode.seqNumber.toNat ≤ 0xffffff) :
    OnDisk env (started env handed files) loaded := by
  rcases startNet_eq loads with ⟨net, isNet, inForce, isSeq, unreserved, mirrored⟩
  have isStarted : started env handed files =
      { net, phase := .idle, handed, files } := by
    rw [started, isNet]
  rw [isStarted]
  refine ⟨loads, mirrored, ahead, positive, inForce, ?_, ?_, Or.inl unreserved⟩
  · rcases loadable with none | loadable
    · rw [ProcessState.stamps, none]
      exact ahead_nil _
    · have same : stampOf loaded.takenOver =
          stamp net.transmitIv.toNat net.seqNum.toNat := by
        rw [isSeq, if_pos loadable, NetState.transmitIv, inForce.1, inForce.2]
        rfl
      rw [← same]
      exact ahead
  · rw [isSeq]
    split
    · omega
    · exact Nat.zero_le _

end Start

/-! ## Steps -/

section Steps

variable {env : LoadEnv} {places : Places} {first loaded : Loaded}
  {state after : ProcessState}

/-- After a step that writes at most once, the files are as the process needs them. -/
def StaysOnDisk (env : LoadEnv) (state : ProcessState) (loaded : Loaded)
    (after : ProcessState) : Prop :=
  (after.files = state.files ∧ OnDisk env after loaded) ∨
    ∃ write, after.files = state.files.write write ∧
      OnDisk env after (loaded.assign state.files.places write)

theorem ProcessInvariant.continue (invariant : ProcessInvariant env places first state)
    (stays : ∀ loaded, OnDisk env state loaded → StaysOnDisk env state loaded after)
    (ordered : after.stamps.Pairwise (· < ·))
    (small : ∀ nonce ∈ after.handed, nonce.2.toNat ≤ 0xffffff) :
    ProcessInvariant env places first after := by
  rcases invariant.disk with ⟨writes, onDisk⟩
  rcases stays _ onDisk with ⟨files, disk⟩ | ⟨write, files, disk⟩
  · exact ⟨files ▸ invariant.located, ordered, small, writes, disk⟩
  · refine ⟨?_, ordered, small, writes ++ [write], ?_⟩
    · rw [files, (load_write onDisk.loads write).2]
      exact invariant.located
    · rw [Loaded.assignAll, List.foldl_append]
      rw [invariant.located] at disk
      exact disk

/-- A step that hands out nothing. -/
theorem ProcessInvariant.quiet (invariant : ProcessInvariant env places first state)
    (handed : after.handed = state.handed)
    (stays : ∀ loaded, OnDisk env state loaded →
      StaysOnDisk env state loaded after) :
    ProcessInvariant env places first after := by
  apply invariant.continue stays
  · rw [ProcessState.stamps, handed]
    exact invariant.ordered
  · rw [handed]
    exact invariant.small

theorem OnDisk.write (onDisk : OnDisk env state loaded) (write : SettingsWrite) :
    load env (state.files.write write) =
      some (loaded.assign state.files.places write) :=
  (load_write onDisk.loads write).1

/-- Numbers of nodes are no part of what the network layer takes over. -/
theorem takenOver_store (places : Places) (loaded : Loaded) (number : NodeStore) :
    (loaded.assign places number.write).takenOver = loaded.takenOver := by
  cases number with
  | localTtl ttl =>
      simp only [NodeStore.write, Loaded.assign]
      split
      · rfl
      · rfl
  | nodeTtl primary ttl =>
      simp only [NodeStore.write, Loaded.assign, Loaded.changeNodeAt]
      split
      · rfl
      · rfl
  | nodeIvSeq primary iv seq =>
      simp only [NodeStore.write, Loaded.assign, Loaded.changeNodeAt]
      split
      · rfl
      · rfl

theorem OnDisk.store (onDisk : OnDisk env state loaded) (number : NodeStore) :
    OnDisk env { state with files := state.files.write number.write }
      (loaded.assign state.files.places number.write) := by
  have same := takenOver_store state.files.places loaded number
  have sameSeq := congrArg StoredLocal.sequenceNumber same
  have sameIndex := congrArg StoredLocal.ivIndex same
  have sameUpdate := congrArg StoredLocal.ivUpdate same
  refine ⟨onDisk.write number.write, onDisk.mirrored.trans sameSeq.symm, ?_, ?_, ?_⟩
  · rw [same]
    exact onDisk.ahead
  · intro update
    rw [← Loaded.takenOver_ivIndex, sameIndex]
    exact onDisk.positive (sameUpdate.symm.trans update)
  · rw [same]
    exact onDisk.phase

theorem OnDisk.sessionOpen (onDisk : OnDisk env state loaded)
    (idle : state.phase = .idle) (dataIn : Nat) :
    OnDisk env
      { state with net := (netSessionOpen dataIn true none state.net).2 } loaded := by
  rcases state with ⟨net, phase, handed, files⟩
  rcases onDisk with ⟨loads, mirrored, ahead, positive, holds⟩
  cases idle
  dsimp only [netSessionOpen]
  cases net.proxyIn with
  | some other => exact ⟨loads, mirrored, ahead, positive, holds⟩
  | none =>
      exact ⟨loads, mirrored, ahead, positive, holds.inForce, holds.ahead, holds.small,
        holds.reserves⟩

theorem OnDisk.nextSeq (onDisk : OnDisk env state loaded)
    (idle : state.phase = .idle) (small : state.net.seqNum.toNat ≤ 0xffffff) :
    OnDisk env
      { state with
        net := (takeSeq state.net).2, phase := .taken (takeSeq state.net).1 }
      loaded := by
  rcases state with ⟨net, phase, handed, files⟩
  rcases onDisk with ⟨loads, mirrored, ahead, positive, holds⟩
  cases idle
  have one : (1 : U32).toNat = 1 := rfl
  have next : (net.seqNum + 1).toNat = net.seqNum.toNat + 1 := by
    dsimp only at small
    rw [BitVec.toNat_add, one]
    omega
  exact ⟨loads, mirrored, ahead, positive, holds.inForce, next, small, holds.ahead,
    holds.reserves⟩

/-- The counter never goes back behind what was handed out: it only restarts when the
IV index for sending rises. -/
theorem OnDisk.beacon (onDisk : OnDisk env state loaded)
    (idle : state.phase = .idle) (provisioner : state.net.provisioner = true)
    {isFirst ivUpdate : Bool} {ivIndex : U32} {windows : NetState}
    (inRange : beaconInRange ivIndex state.net = true)
    (passed : enforceWindows isFirst ivUpdate ivIndex state.net = some windows)
    (later : state.net.ivUpdate = false → ivUpdate = true →
      ivIndex ≠ state.net.ivIndex) :
    OnDisk env
      { state with
        net := restartSeq ivUpdate ivIndex windows
        phase := .beaconTaken ivUpdate ivIndex } loaded := by
  rcases state with ⟨net, phase, handed, files⟩
  rcases onDisk with ⟨loads, mirrored, ahead, positive, holds⟩
  cases idle
  rcases enforceWindows_eq passed with ⟨ivUpdState, rfl⟩
  have forward : net.ivIndex.toNat ≤ ivIndex.toNat := by
    simp only [beaconInRange, Bool.not_eq_true', Bool.or_eq_false_iff,
      decide_eq_false_iff_not, BitVec.lt_def] at inRange
    omega
  have positiveNow : net.ivUpdate = true → 0 < net.ivIndex.toNat := by
    rw [holds.inForce.1, holds.inForce.2]
    exact positive
  rcases beacon_rises positiveNow forward later with ⟨positiveAfter, rises, raised⟩
  by_cases restarts : restartsSeq ivUpdate ivIndex { net with ivUpdState } = true
  · have isNet : restartSeq ivUpdate ivIndex { net with ivUpdState } = _ :=
      if_pos restarts
    rw [isNet]
    refine ⟨loads, mirrored, ahead, positive, holds.inForce,
      ⟨provisioner, positiveAfter, rises, ?_, Nat.zero_le _⟩, Or.inl rfl⟩
    apply holds.ahead.mono
    exact (stamp_lt_iff.mpr (Or.inl (raised restarts))).le
  · have isNet : restartSeq ivUpdate ivIndex { net with ivUpdState } = _ :=
      if_neg restarts
    rw [isNet]
    refine ⟨loads, mirrored, ahead, positive, holds.inForce,
      ⟨provisioner, positiveAfter, rises, ?_, holds.small⟩, Or.inr holds.reserves⟩
    apply holds.ahead.mono
    exact stamp_le_of_epoch rises fun _ => Nat.le_refl _

/-! ### Going on -/

theorem stampOf_takenOver (loaded : Loaded) :
    stampOf loaded.takenOver =
      stamp (transmitIndex loaded.settings.ivIndex loaded.settings.ivUpdate).toNat
        loaded.localNode.seqNumber.toNat := rfl

theorem InForce.transmitIv {net : NetState} {stored : StoredLocal}
    (inForce : InForce net stored) :
    net.transmitIv = transmitIndex stored.ivIndex stored.ivUpdate := by
  rw [NetState.transmitIv, transmitIndex, inForce.1, inForce.2]

/-- The reservation is stored before the number is handed out. -/
theorem OnDisk.taken (onDisk : OnDisk env state loaded) {thisSeq : U32}
    (isPhase : state.phase = .taken thisSeq) :
    StaysOnDisk env state loaded (proceedStep state) := by
  rcases state with ⟨net, phase, handed, files⟩
  rcases onDisk with ⟨loads, mirrored, ahead, positive, holds⟩
  cases isPhase
  have next : net.seqNum.toNat = thisSeq.toNat + 1 := holds.next
  have small := holds.small
  have atMost : net.seqNum.toNat ≤ 0x1000000 := by omega
  rcases reserveSeq_spec atMost holds.reserves with ⟨_, reserves, covered⟩
  by_cases exhausted : net.seqNumReserved ≤ net.seqNum + 32
  · have isNet : reserveSeq net = _ := if_pos exhausted
    have isAfter : proceedStep ⟨net, .taken thisSeq, handed, files⟩ =
        ⟨reserveSeq net, .reserved thisSeq, handed,
          files.write (.localSeqNum (net.seqNum + 100))⟩ := by
      simp only [proceedStep, exhausted, if_true, isNet]
    rw [isNet] at covered reserves
    have below : thisSeq.toNat < (net.seqNum + 100).toNat := by
      dsimp only at covered
      omega
    rw [isAfter, isNet]
    right
    refine ⟨_, rfl, (load_write loads _).1, rfl, ?_, positive,
      ⟨holds.inForce, next, small, holds.ahead, reserves⟩, below⟩
    apply holds.ahead.mono
    rw [holds.inForce.transmitIv]
    exact (stamp_lt_of_count below).le
  · have isNet : reserveSeq net = net := if_neg exhausted
    have isAfter : proceedStep ⟨net, .taken thisSeq, handed, files⟩ =
        ⟨net, .reserved thisSeq, handed, files⟩ := by
      simp only [proceedStep, exhausted, if_false, isNet]
    rw [isNet, mirrored] at covered
    have below : thisSeq.toNat < loaded.localNode.seqNumber.toNat := by omega
    rw [isAfter]
    exact Or.inl ⟨rfl, loads, mirrored, ahead, positive, holds, below⟩

theorem OnDisk.reserved (onDisk : OnDisk env state loaded) {thisSeq : U32}
    (isPhase : state.phase = .reserved thisSeq) :
    OnDisk env (proceedStep state) loaded := by
  rcases state with ⟨net, phase, handed, files⟩
  rcases onDisk with ⟨loads, mirrored, ahead, positive, holds⟩
  cases isPhase
  rcases holds with ⟨holds, covered⟩
  have next : net.seqNum.toNat = thisSeq.toNat + 1 := holds.next
  have small := holds.small
  have isStamps : (handed ++ [(net.transmitIv, thisSeq)]).map nonceStamp =
      handed.map nonceStamp ++ [stamp net.transmitIv.toNat thisSeq.toNat] := by
    rw [List.map_append]
    rfl
  have atMost : net.seqNum.toNat ≤ 0x1000000 := by omega
  refine ⟨loads, mirrored, ?_, positive, holds.inForce, ?_, atMost, holds.reserves⟩
  · show Ahead (List.map nonceStamp (handed ++ _)) _
    rw [isStamps]
    apply holds.ahead.concat
    rw [holds.inForce.transmitIv]
    exact stamp_lt_of_count covered
  · show Ahead (List.map nonceStamp (handed ++ _)) _
    rw [isStamps]
    have below : thisSeq.toNat < net.seqNum.toNat := by omega
    exact holds.ahead.concat (stamp_lt_of_count below)

theorem OnDisk.beaconTaken (onDisk : OnDisk env state loaded) {ivUpdate : Bool}
    {ivIndex : U32} (isPhase : state.phase = .beaconTaken ivUpdate ivIndex) :
    StaysOnDisk env state loaded (proceedStep state) := by
  rcases state with ⟨net, phase, handed, files⟩
  rcases onDisk with ⟨loads, mirrored, ahead, positive, holds⟩
  cases isPhase
  rcases holds with ⟨inForce, beacon, fresh⟩
  rcases storeIvIndex_spec beacon.small fresh ivUpdate ivIndex with ⟨_, _, covered⟩
  by_cases stores : storesIvState net ivUpdate ivIndex = true
  · have isNet : storeIvIndex net ivUpdate ivIndex = _ := if_pos stores
    have isAfter : proceedStep ⟨net, .beaconTaken ivUpdate ivIndex, handed, files⟩ =
        ⟨storeIvIndex net ivUpdate ivIndex, .beaconLocal ivUpdate ivIndex, handed,
          files.write (.localIvIndex ivIndex ivUpdate)⟩ := by
      simp only [proceedStep, stores, if_true]
    rw [isNet] at covered
    rw [isAfter, isNet]
    right
    exact ⟨_, rfl, (load_write loads _).1, mirrored, ahead, positive, inForce,
      ⟨beacon.provisioner, beacon.positive, beacon.rises, beacon.ahead, beacon.small⟩,
      covered⟩
  · have isNet : storeIvIndex net ivUpdate ivIndex = net := if_neg stores
    have isAfter : proceedStep ⟨net, .beaconTaken ivUpdate ivIndex, handed, files⟩ =
        ⟨net, .beaconLocal ivUpdate ivIndex, handed, files⟩ := by
      simp only [proceedStep, stores, if_false, isNet, Bool.false_eq_true]
    rw [isNet] at covered
    rw [isAfter]
    exact Or.inl ⟨rfl, loads, mirrored, ahead, positive, inForce, beacon, covered⟩

/-- A beacon that is not stored brings the IV state that is in force. -/
theorem unstored_eq {net : NetState} {ivUpdate : Bool} {ivIndex : U32}
    (unstored : storesIvState net ivUpdate ivIndex ≠ true) :
    net.ivIndex = ivIndex ∧ net.ivUpdate = ivUpdate := by
  simp only [storesIvState, Bool.or_eq_true, decide_eq_true_eq, not_or, ne_eq,
    not_not] at unstored
  exact ⟨unstored.1.2, unstored.2⟩

/-- The IV index that the next start takes rises before the sequence number is
stored. -/
theorem OnDisk.beaconLocal (onDisk : OnDisk env state loaded) {ivUpdate : Bool}
    {ivIndex : U32} (isPhase : state.phase = .beaconLocal ivUpdate ivIndex) :
    StaysOnDisk env state loaded (proceedStep state) := by
  rcases state with ⟨net, phase, handed, files⟩
  rcases onDisk with ⟨loads, mirrored, ahead, positive, holds⟩
  cases isPhase
  rcases holds with ⟨inForce, beacon, covered⟩
  have provisioner : net.provisioner = true := beacon.provisioner
  by_cases stores : storesIvState net ivUpdate ivIndex = true
  · have isAfter : proceedStep ⟨net, .beaconLocal ivUpdate ivIndex, handed, files⟩ =
        ⟨net, .beaconStored ivUpdate ivIndex, handed,
          files.write (.networkIvIndex ivIndex ivUpdate)⟩ := by
      simp only [proceedStep, stores, provisioner, Bool.and_self, if_true]
    rw [isAfter]
    right
    refine ⟨_, rfl, (load_write loads _).1, mirrored, ?_, beacon.positive, ⟨rfl, rfl⟩,
      beacon, covered⟩
    have rises := beacon.rises
    rw [inForce.transmitIv] at rises
    apply ahead.mono
    exact stamp_le_of_epoch rises fun _ => Nat.le_refl _
  · have isAfter : proceedStep ⟨net, .beaconLocal ivUpdate ivIndex, handed, files⟩ =
        ⟨net, .beaconStored ivUpdate ivIndex, handed, files⟩ := by
      simp only [proceedStep, stores, Bool.false_and, if_false, Bool.false_eq_true]
    rcases unstored_eq stores with ⟨sameIndex, sameUpdate⟩
    rw [isAfter]
    exact Or.inl ⟨rfl, loads, mirrored, ahead, positive,
      ⟨inForce.1.symm.trans sameIndex, inForce.2.symm.trans sameUpdate⟩, beacon,
      covered⟩

theorem OnDisk.beaconStored (onDisk : OnDisk env state loaded) {ivUpdate : Bool}
    {ivIndex : U32} (isPhase : state.phase = .beaconStored ivUpdate ivIndex) :
    StaysOnDisk env state loaded (proceedStep state) := by
  rcases state with ⟨net, phase, handed, files⟩
  rcases onDisk with ⟨loads, mirrored, ahead, positive, holds⟩
  cases isPhase
  rcases holds with ⟨⟨sameIndex, sameUpdate⟩, beacon, covered⟩
  rcases storeReservation_spec covered with ⟨_, reserves, _⟩
  by_cases stores : storesIvState net ivUpdate ivIndex = true
  · have isNet : storeReservation net ivUpdate ivIndex = _ := if_pos stores
    have isAfter : proceedStep ⟨net, .beaconStored ivUpdate ivIndex, handed, files⟩ =
        ⟨{ storeReservation net ivUpdate ivIndex with ivIndex, ivUpdate }, .idle,
          handed, files.write (.localSeqNum net.seqNumReserved)⟩ := by
      simp only [proceedStep, stores, if_true]
    have below : net.seqNum.toNat < net.seqNumReserved.toNat := by
      simpa only [Covered, stores, if_true] using covered
    rw [isNet] at reserves
    rw [isAfter, isNet]
    right
    refine ⟨_, rfl, (load_write loads _).1, rfl, ?_, positive,
      ⟨sameIndex.symm, sameUpdate.symm⟩, beacon.ahead, beacon.small, reserves⟩
    apply beacon.ahead.mono
    rw [← sameIndex, ← sameUpdate]
    exact (stamp_lt_of_count below).le
  · have isNet : storeReservation net ivUpdate ivIndex = net := if_neg stores
    have isAfter : proceedStep ⟨net, .beaconStored ivUpdate ivIndex, handed, files⟩ =
        ⟨{ net with ivIndex, ivUpdate }, .idle, handed, files⟩ := by
      simp only [proceedStep, stores, if_false, isNet, Bool.false_eq_true]
    rw [isNet] at reserves
    rw [isAfter]
    exact Or.inl ⟨rfl, loads, mirrored, ahead, positive,
      ⟨sameIndex.symm, sameUpdate.symm⟩, beacon.ahead, beacon.small, reserves⟩

/-- Only a number that is handed out changes what was handed out. -/
theorem proceedStep_handed
    (unreserved : ∀ thisSeq, state.phase ≠ .reserved thisSeq) :
    (proceedStep state).handed = state.handed := by
  rw [proceedStep]
  split
  next => rfl
  next => rfl
  next => rfl
  next thisSeq isPhase => exact absurd isPhase (unreserved thisSeq)
  next => rfl
  next => rfl
  next => rfl

theorem ProcessInvariant.proceed (invariant : ProcessInvariant env places first state) :
    ProcessInvariant env places first (proceedStep state) := by
  cases isPhase : state.phase with
  | stopped =>
      rcases invariant.disk with ⟨_, onDisk⟩
      have impossible := onDisk.phase
      rw [isPhase] at impossible
      exact impossible.elim
  | idle =>
      have isAfter : proceedStep state = state := by
        rw [proceedStep, isPhase]
      rw [isAfter]
      exact invariant
  | taken thisSeq =>
      apply invariant.quiet (proceedStep_handed (by simp [isPhase]))
      exact fun loaded onDisk => onDisk.taken isPhase
  | reserved thisSeq =>
      rcases invariant.disk with ⟨_, onDisk⟩
      have holds := onDisk.phase
      rw [isPhase] at holds
      have isAfter : proceedStep state = { state with
          phase := .idle
          handed := state.handed ++ [(state.net.transmitIv, thisSeq)] } := by
        rw [proceedStep, isPhase]
      apply invariant.continue fun loaded onDisk =>
        Or.inl ⟨by rw [isAfter], onDisk.reserved isPhase⟩
      · rw [isAfter, ProcessState.stamps, List.map_append]
        exact holds.1.ahead.pairwise_concat invariant.ordered
      · rw [isAfter]
        intro nonce member
        rcases List.mem_append.mp member with before | last
        · exact invariant.small nonce before
        · rw [List.mem_singleton.mp last]
          exact holds.1.small
  | beaconTaken ivUpdate ivIndex =>
      apply invariant.quiet (proceedStep_handed (by simp [isPhase]))
      exact fun loaded onDisk => onDisk.beaconTaken isPhase
  | beaconLocal ivUpdate ivIndex =>
      apply invariant.quiet (proceedStep_handed (by simp [isPhase]))
      exact fun loaded onDisk => onDisk.beaconLocal isPhase
  | beaconStored ivUpdate ivIndex =>
      apply invariant.quiet (proceedStep_handed (by simp [isPhase]))
      exact fun loaded onDisk => onDisk.beaconStored isPhase

end Steps

/-! ## All runs -/

/-- The numbers of 24 bits have not run out, no beacon starts an update of the IV
index that is in force, and a start finds a number that can be loaded. -/
def SafeInput (env : LoadEnv) (state : ProcessState) : ProcessInput → Prop
  | .nextSeq => state.phase = .idle → state.net.seqNum.toNat ≤ 0xffffff
  | .beacon _ ivUpdate ivIndex =>
      state.net.ivUpdate = false → ivUpdate = true → ivIndex ≠ state.net.ivIndex
  | .restart => ∀ loaded ∈ load env state.files,
      loaded.localNode.seqNumber.toNat ≤ 0xffffff
  | .sessionOpen _ => True
  | .store _ => True
  | .proceed => True

instance (env : LoadEnv) (state : ProcessState) (input : ProcessInput) :
    Decidable (SafeInput env state input) :=
  match input with
  | .nextSeq => inferInstanceAs (Decidable (_ → _))
  | .beacon _ _ _ => inferInstanceAs (Decidable (_ → _ → _))
  | .restart => inferInstanceAs (Decidable (∀ loaded ∈ load env state.files,
      loaded.localNode.seqNumber.toNat ≤ 0xffffff))
  | .sessionOpen _ => isTrue trivial
  | .store _ => isTrue trivial
  | .proceed => isTrue trivial

section Runs

variable {env : LoadEnv} {places : Places} {first loaded : Loaded}
  {state : ProcessState} {files : Files}

theorem processStep_invariant (invariant : ProcessInvariant env places first state)
    (input : ProcessInput) (safe : SafeInput env state input) :
    ProcessInvariant env places first (processStep env state input) := by
  cases input with
  | proceed => exact invariant.proceed
  | restart =>
      apply invariant.quiet (started_handed state.handed state.files)
      intro loaded onDisk
      have loadable := safe loaded onDisk.loads
      exact Or.inl ⟨started_files state.handed state.files,
        started_onDisk onDisk.loads onDisk.ahead onDisk.positive (Or.inr loadable)⟩
  | sessionOpen dataIn =>
      rw [processStep]
      split
      next idle =>
        exact invariant.quiet rfl fun loaded onDisk =>
          Or.inl ⟨rfl, onDisk.sessionOpen idle dataIn⟩
      next => exact invariant
  | nextSeq =>
      rw [processStep]
      split
      next idle =>
        exact invariant.quiet rfl fun loaded onDisk =>
          Or.inl ⟨rfl, onDisk.nextSeq idle (safe idle)⟩
      next => exact invariant
  | store number =>
      rw [processStep]
      split
      next idle =>
        exact invariant.quiet rfl fun loaded onDisk =>
          Or.inr ⟨_, rfl, onDisk.store number⟩
      next => exact invariant
  | beacon isFirst ivUpdate ivIndex =>
      rw [processStep]
      split
      next idle =>
        split
        next accepted =>
          rcases (Bool.and_eq_true _ _).mp accepted with ⟨provisioner, inRange⟩
          cases passed : enforceWindows isFirst ivUpdate ivIndex state.net with
          | none => exact invariant
          | some windows =>
              exact invariant.quiet rfl fun loaded onDisk =>
                Or.inl ⟨rfl, onDisk.beacon idle provisioner inRange passed safe⟩
        next => exact invariant
      next => exact invariant

theorem started_invariant (loads : load env files = some loaded)
    (positive : loaded.settings.ivUpdate = true →
      0 < loaded.settings.ivIndex.toNat) :
    ProcessInvariant env files.places loaded (started env [] files) := by
  have onDisk : OnDisk env (started env [] files) loaded :=
    started_onDisk loads (ahead_nil _) positive (Or.inl rfl)
  refine ⟨by rw [started_files], ?_, ?_, [], onDisk⟩
  · rw [ProcessState.stamps, started_handed]
    exact List.Pairwise.nil
  · rw [started_handed]
    intro nonce member
    cases member

/-- Sent with a smaller IV index, or with the same one and a smaller number. -/
def NonceBefore (earlier later : U32 × U32) : Prop :=
  earlier.1 < later.1 ∨ earlier.1 = later.1 ∧ earlier.2 < later.2

theorem nonceStamp_lt_iff {earlier later : U32 × U32} :
    nonceStamp earlier < nonceStamp later ↔ NonceBefore earlier later := by
  rw [nonceStamp, nonceStamp, stamp_lt_iff, NonceBefore, BitVec.toNat_inj,
    BitVec.lt_def, BitVec.lt_def]

end Runs

/-- Two kills, one of them before the number 0 was returned, and a new IV index. -/
def smallRun : List ProcessInput :=
  [.sessionOpen 1, .nextSeq, .proceed, .restart, .nextSeq, .proceed, .proceed,
    .sessionOpen 1, .store (.localTtl 5), .beacon true false 3, .proceed, .proceed,
    .restart, .nextSeq, .proceed, .proceed]

example : ((processModel smallEnv).finalState (started smallEnv [] smallFiles)
    smallRun).handed = [(0, 101), (3, 202)] := by decide +kernel

end Meshctl.Db
