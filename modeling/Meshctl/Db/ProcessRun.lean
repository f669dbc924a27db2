import Meshctl.Db.StoredSettings
import Meshctl.Net.CrashSafety

/-! # A process and its files

The functions that hand out sequence numbers and take over IV indexes, with the
files they write. The process can be stopped between any two writes; a start
reads both files.
-/

namespace Meshctl.Db

open Net Execution

/-! ## Starting -/

/-- What `parse_node` takes from the record of the local node for the network
layer. -/
def storedLocal (jnode : Json) : StoredLocal where
  ivIndex := (storedReplay jnode).1
  ivUpdate := Json.getInt (jnode.get "IVupdate") ≠ 0
  sequenceNumber := (storedReplay jnode).2

/-- The network layer when the files have been read. The IV index of the
provisioning database replaces the one of the local node. -/
def startNet (env : LoadEnv) (files : Files) : Option NetState := do
  let loaded ← load env files
  let jnode ← files.localFile.get "node"
  let net := restarted (storedLocal jnode)
  let net := netSetIvIndex loaded.settings.ivIndex loaded.settings.ivUpdate net
  some { net with
    netKeys := loaded.settings.netKeys
    appKeys := loaded.settings.appKeys }

/-! ## The machine -/

/-- Where in `get_next_seq` or `beacon_update` the process is. Without files that
are accepted there is no process. -/
inductive StorePhase where
  | stopped
  | idle
  | taken (thisSeq : U32)
  | reserved (thisSeq : U32)
  | beaconTaken (ivUpdate : Bool) (ivIndex : U32)
  | beaconLocal (ivUpdate : Bool) (ivIndex : U32)
  | beaconStored (ivUpdate : Bool) (ivIndex : U32)
  deriving DecidableEq

/-- `handed` are the numbers that `get_next_seq` returned since the first start,
each with the IV index that messages were sent with. -/
structure ProcessState where
  net : NetState
  phase : StorePhase
  handed : List (U32 × U32)
  files : Files

/-- A number of a node is stored. -/
inductive NodeStore where
  | localTtl (ttl : Byte)
  | nodeTtl (primary : U16) (ttl : Byte)
  | nodeIvSeq (primary : U16) (iv seq : U32)

def NodeStore.write : NodeStore → SettingsWrite
  | .localTtl ttl => .localTtl ttl
  | .nodeTtl primary ttl => .nodeTtl primary ttl
  | .nodeIvSeq primary iv seq => .nodeIvSeq primary iv seq

inductive ProcessInput where
  | sessionOpen (dataIn : Nat)
  | nextSeq
  | beacon (first ivUpdate : Bool) (ivIndex : U32)
  | store (number : NodeStore)
  | proceed
  | restart

/-- The range that `process_beacon` accepts. -/
def beaconInRange (ivIndex : U32) (st : NetState) : Bool :=
  !(st.ivIndex + 42 < ivIndex || ivIndex < st.ivIndex)

/-- A process that reads the files of an earlier one. -/
def started (env : LoadEnv) (handed : List (U32 × U32)) (files : Files) :
    ProcessState :=
  match startNet env files with
  | none => { net := NetState.zero, phase := .stopped, handed, files }
  | some net => { net, phase := .idle, handed, files }

/-- Going on to the next write. -/
def proceedStep (state : ProcessState) : ProcessState :=
  match state.phase with
  | .stopped => state
  | .idle => state
  | .taken thisSeq =>
      let reserves := state.net.seqNumReserved ≤ state.net.seqNum + 32
      let net := reserveSeq state.net
      { state with
        net
        phase := .reserved thisSeq
        files :=
          if reserves then state.files.write (.localSeqNum net.seqNumReserved)
          else state.files }
  | .reserved thisSeq =>
      { state with
        phase := .idle
        handed := state.handed ++ [(state.net.transmitIv, thisSeq)] }
  | .beaconTaken ivUpdate ivIndex =>
      { state with
        net := storeIvIndex state.net ivUpdate ivIndex
        phase := .beaconLocal ivUpdate ivIndex
        files :=
          if storesIvState state.net ivUpdate ivIndex then
            state.files.write (.localIvIndex ivIndex ivUpdate)
          else state.files }
  | .beaconLocal ivUpdate ivIndex =>
      { state with
        phase := .beaconStored ivUpdate ivIndex
        files :=
          if storesIvState state.net ivUpdate ivIndex && state.net.provisioner then
            state.files.write (.networkIvIndex ivIndex ivUpdate)
          else state.files }
  | .beaconStored ivUpdate ivIndex =>
      { state with
        net :=
          { storeReservation state.net ivUpdate ivIndex with ivIndex, ivUpdate }
        phase := .idle
        files :=
          if storesIvState state.net ivUpdate ivIndex then
            state.files.write (.localSeqNum state.net.seqNumReserved)
          else state.files }

/-- A call begins when no other one is under way. Packets arrive in a session,
and every session is opened as provisioner. -/
def processStep (env : LoadEnv) (state : ProcessState) :
    ProcessInput → ProcessState
  | .sessionOpen dataIn =>
      match state.phase with
      | .idle =>
          { state with net := (netSessionOpen dataIn true none state.net).2 }
      | _ => state
  | .nextSeq =>
      match state.phase with
      | .idle =>
          let (thisSeq, net) := takeSeq state.net
          { state with net, phase := .taken thisSeq }
      | _ => state
  | .beacon first ivUpdate ivIndex =>
      match state.phase with
      | .idle =>
          if state.net.provisioner && beaconInRange ivIndex state.net then
            match enforceWindows first ivUpdate ivIndex state.net with
            | none => state
            | some net =>
                { state with
                  net := restartSeq ivUpdate ivIndex net
                  phase := .beaconTaken ivUpdate ivIndex }
          else state
      | _ => state
  | .store number =>
      match state.phase with
      | .idle => { state with files := state.files.write number.write }
      | _ => state
  | .proceed => proceedStep state
  | .restart => started env state.handed state.files

def processModel (env : LoadEnv) : Model ProcessState ProcessInput Unit where
  step state input := ⟨processStep env state input, ()⟩

/-! ### The calls that it is made of -/

section Calls

variable {env : LoadEnv} {state : ProcessState}

/-- A call that is not interrupted is `get_next_seq`. -/
theorem processModel_getNextSeq (idle : state.phase = .idle) :
    let final := (processModel env).finalState state [.nextSeq, .proceed, .proceed]
    let (thisSeq, net) := getNextSeq state.net
    final.net = net ∧ final.phase = .idle ∧
      final.handed = state.handed ++ [(net.transmitIv, thisSeq)] := by
  simp only [Model.finalState_cons, Model.finalState_nil, processModel, processStep,
    idle, proceedStep, getNextSeq_eq, and_self]

theorem storesIvState_storeIvIndex (net : NetState) (ivUpdate : Bool) (ivIndex : U32) :
    storesIvState (storeIvIndex net ivUpdate ivIndex) ivUpdate ivIndex =
      storesIvState net ivUpdate ivIndex := by
  rw [storeIvIndex]
  split
  · rfl
  · rfl

theorem storeIvIndex_provisioner (net : NetState) (ivUpdate : Bool) (ivIndex : U32) :
    (storeIvIndex net ivUpdate ivIndex).provisioner = net.provisioner := by
  rw [storeIvIndex]
  split
  · rfl
  · rfl

/-- A beacon that is not interrupted is taken over as in `beacon_update`. What it
changes is stored with `prov_db_local_set_iv_index` and
`prov_db_local_set_seq_num`. -/
theorem processModel_takeOver (idle : state.phase = .idle)
    {isFirst ivUpdate : Bool} {ivIndex : U32} {windows : NetState}
    (provisioner : state.net.provisioner = true)
    (inRange : beaconInRange ivIndex state.net = true)
    (passed : enforceWindows isFirst ivUpdate ivIndex state.net = some windows) :
    let final := (processModel env).finalState state
      [.beacon isFirst ivUpdate ivIndex, .proceed, .proceed, .proceed]
    final.net = takeOver ivUpdate ivIndex windows ∧ final.phase = .idle ∧
      final.handed = state.handed ∧
      final.files =
        if storesIvState (restartSeq ivUpdate ivIndex windows) ivUpdate ivIndex then
          state.files.writeAll [.localIvIndex ivIndex ivUpdate,
            .networkIvIndex ivIndex ivUpdate,
            .localSeqNum (takeOver ivUpdate ivIndex windows).seqNumReserved]
        else state.files := by
  have stillProvisioner :
      (restartSeq ivUpdate ivIndex windows).provisioner = true := by
    rcases enforceWindows_eq passed with ⟨ivUpdState, isWindows⟩
    rw [isWindows, restartSeq]
    split
    · exact provisioner
    · exact provisioner
  by_cases stores :
      storesIvState (restartSeq ivUpdate ivIndex windows) ivUpdate ivIndex = true
  · simp only [Model.finalState_cons, Model.finalState_nil, processModel, processStep,
      idle, provisioner, inRange, Bool.and_self, if_true, passed, proceedStep,
      takeOver_stores, storesIvState_storeIvIndex, storeIvIndex_provisioner,
      stillProvisioner, storeReservation, stores]
    exact ⟨trivial, trivial, trivial, rfl⟩
  · simp only [Model.finalState_cons, Model.finalState_nil, processModel, processStep,
      idle, provisioner, inRange, Bool.and_self, if_true, passed, proceedStep,
      takeOver_stores, storesIvState_storeIvIndex, stores, Bool.false_eq_true,
      Bool.false_and, if_false, and_self]

end Calls

end Meshctl.Db
