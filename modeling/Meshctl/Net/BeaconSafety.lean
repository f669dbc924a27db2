import Meshctl.Net.Whitelist

/-! # Beacons move the IV state forward and only when authenticated -/

namespace Meshctl.Net

open Bytes Execution

variable {env : NetEnv}

/-! ## What a beacon changes -/

theorem sendWhite_run {iv : U32} (white : List Byte) {st : NetState}
    (inForce : st.transmitIv = iv) :
    TxRun (IsControl iv) st (sendWhite env white st) := by
  subst inForce
  exact netCtlMsgSend_run _ _ _ _ _ st

theorem setupWhitelist_run (st : NetState) :
    TxRun (IsControl st.transmitIv) st (setupWhitelist env st) :=
  @setupWhitelist_relates env
    (fun before after => before.transmitIv = st.transmitIv →
      TxRun (IsControl st.transmitIv) before after)
    (fun _ _ => Relation.ReflTransGen.refl)
    (fun first second inForce => (first inForce).trans
      (second ((first inForce).transmitIv.trans inForce)))
    (fun white _ _ _ inForce => sendWhite_run white inForce) st rfl

/-- Passing the time windows changes only the state they are kept in. -/
theorem enforceWindows_eq {first ivUpdate : Bool} {ivIndex : U32}
    {st windows : NetState}
    (passed : enforceWindows first ivUpdate ivIndex st = some windows) :
    ∃ ivUpdState, windows = { st with ivUpdState } := by
  rw [enforceWindows] at passed
  split at passed
  · exact ⟨_, (Option.some.inj passed).symm⟩
  · split at passed
    · exact ⟨_, (Option.some.inj passed).symm⟩
    · split at passed
      · cases passed
      · exact ⟨_, (Option.some.inj passed).symm⟩

theorem storeIvState_eq (ivUpdate : Bool) (ivIndex : U32) (st : NetState) :
    ∃ seqNumReserved stored,
      storeIvState ivUpdate ivIndex st =
        { st with seqNumReserved, stored } := by
  rw [storeIvState]
  split <;> exact ⟨_, _, rfl⟩

/-- Taking over an IV state sets it, and restarts the counter or leaves it. -/
theorem takeOver_eq (ivUpdate : Bool) (ivIndex : U32) (st : NetState) :
    ∃ seqNumReserved stored,
      takeOver ivUpdate ivIndex st =
        { st with
          seqNum := if restartsSeq ivUpdate ivIndex st then 0 else st.seqNum
          restartedAt :=
            if restartsSeq ivUpdate ivIndex st then
              ivIndex - if ivUpdate then 1 else 0
            else
              st.restartedAt
          ivIndex, ivUpdate, seqNumReserved, stored } := by
  rcases storeIvState_eq ivUpdate ivIndex (restartSeq ivUpdate ivIndex st)
    with ⟨reserved, stored, equal⟩
  rw [takeOver, equal, restartSeq]
  split <;> exact ⟨_, _, rfl⟩

/-- A beacon changes nothing, or it is accepted and its IV state taken over;
then the whitelist may be sent. -/
theorem processBeacon_cases (data : List Byte) (size : Byte) (st : NetState) :
    (processBeacon env data size st).nextState = st ∨
    size = 22 ∧ acceptsBeacon env data st = true ∧
      ∃ windows, enforceWindows (st.ivUpdState = ivUpdInit)
          (recognizedIvUpdate data st) (beaconIvIndex data) st = some windows ∧
        TxRun (IsControl (takeOver (recognizedIvUpdate data st)
            (beaconIvIndex data) windows).transmitIv)
          (takeOver (recognizedIvUpdate data st) (beaconIvIndex data) windows)
          (processBeacon env data size st).nextState := by
  rw [processBeacon]
  split
  next => exact Or.inl rfl
  next isSize =>
    dsimp only
    split
    next => exact Or.inl rfl
    next changed =>
      split
      next => exact Or.inl rfl
      next accepted =>
        split
        next => exact Or.inl rfl
        next =>
          rw [beaconUpdate]
          cases passed : enforceWindows (st.ivUpdState = ivUpdInit)
            (recognizedIvUpdate data st) (beaconIvIndex data) st with
          | none => exact Or.inl rfl
          | some windows =>
              refine Or.inr ⟨by simpa using isSize, by simpa using accepted,
                windows, rfl, ?_⟩
              dsimp only
              split
              · exact setupWhitelist_run _
              · exact Relation.ReflTransGen.refl

/-! ## Every beacon of every run -/

/-- The beacon has the right size and carries the network id, the key refresh
flag and the CMAC of the key copy that the phase of the key selects. -/
structure Authentic (env : NetEnv) (data : List Byte) (size : Byte)
    (st : NetState) : Prop where
  size : size = 22
  verified : ∃ netKey, st.findNetKeyById (beaconNetId data) = some netKey ∧
    beaconKeyRefresh data = decide (netKey.phase = 2) ∧
    netKey.beaconPart.netId = beaconNetId data ∧
    env.beaconCmac netKey.beaconPart.beaconKey netKey.beaconPart.netId
      (beaconIvIndex data) (netKey.phase = 2) (beaconIvUpdate data) =
        some (beaconCmacField data)

structure BeaconSound (env : NetEnv) (data : List Byte) (size : Byte)
    (before after : NetState) : Prop where
  forward : before.ivIndex.toNat ≤ after.ivIndex.toNat ∧
    after.ivIndex.toNat ≤ before.ivIndex.toNat + 42
  authentic : after.ivIndex ≠ before.ivIndex ∨
    after.ivUpdate ≠ before.ivUpdate ∨ after.seqNum ≠ before.seqNum →
    Authentic env data size before
  inFlight : before.msgOut.records ≠ [] → before.ivUpdate = true →
    after.ivUpdate = true

/-- The range test leaves only IV indexes up to 42 ahead, also where the sum
wraps around. -/
theorem acceptsBeacon_spec {data : List Byte} {size : Byte} {st : NetState}
    (isSize : size = 22) (accepted : acceptsBeacon env data st = true) :
    Authentic env data size st ∧
      st.ivIndex.toNat ≤ (beaconIvIndex data).toNat ∧
      (beaconIvIndex data).toNat ≤ st.ivIndex.toNat + 42 := by
  rw [acceptsBeacon] at accepted
  split at accepted
  next => cases accepted
  next netKey found =>
    simp only at accepted
    split_ifs at accepted with refresh netId range
    split at accepted
    next => cases accepted
    next cmac computed =>
      refine ⟨⟨isSize, netKey, found, ?_, ?_, ?_⟩, ?_⟩
      · simpa using refresh
      · simpa using netId
      · rw [computed, of_decide_eq_true accepted]
      · simp only [Bool.or_eq_true, decide_eq_true_eq, BitVec.lt_def,
          BitVec.toNat_add, BitVec.ofNat_eq_ofNat, BitVec.toNat_ofNat] at range
        omega

theorem processBeacon_sound (env : NetEnv) (data : List Byte) (size : Byte)
    (st : NetState) :
    BeaconSound env data size st
      (processBeacon env data size st).nextState := by
  rcases processBeacon_cases data size st with
    unchanged | ⟨isSize, accepted, windows, passed, sent⟩
  · rw [unchanged]
    refine ⟨⟨Nat.le_refl _, Nat.le_add_right _ _⟩, ?_, fun _ update => update⟩
    intro changed
    simp at changed
  · have ⟨authentic, low, high⟩ := acceptsBeacon_spec isSize accepted
    have ivIndex : (processBeacon env data size st).nextState.ivIndex =
        beaconIvIndex data := by
      rw [sent.ivIndex]
      rfl
    have ivUpdate : (processBeacon env data size st).nextState.ivUpdate =
        recognizedIvUpdate data st := by
      rw [sent.ivUpdate]
      rfl
    refine ⟨?_, fun _ => authentic, fun waiting update => ?_⟩
    · rw [ivIndex]
      exact ⟨low, high⟩
    · rw [ivUpdate, recognizedIvUpdate, update]
      simp [waiting]

/-- Whatever state a run starts from and whatever else happens in it, each of
its beacons moves the IV index forward by at most 42, changes the IV state and
the sequence counter only when it is authentic, and never ends an IV update
while messages are in flight. -/
theorem beacons_sound (env : NetEnv) (start : NetState)
    (inputs : List NetInput) :
    ∀ entry ∈ (netModel env).trace start inputs, ∀ data size,
      entry.input = .beacon data size →
      BeaconSound env data size entry.before entry.after := by
  intro entry member data size isBeacon
  rw [(netModel env).entry_of_mem_trace member, isBeacon]
  exact processBeacon_sound env data size entry.before

/-! ### A beacon that changes the IV index -/

/-- A beacon for the only network key, with flags and IV index. -/
def plainBeacon (flags : Byte) (ivIndex : U32) : List Byte :=
  [1, flags] ++ be64 0 ++ be32 ivIndex ++ be64 0

theorem beacons_sound_next_index :
    BeaconSound plainEnv (plainBeacon 0 6) 22 openNode
      (netStep plainEnv openNode (.beacon (plainBeacon 0 6) 22)).nextState :=
  beacons_sound plainEnv openNode [.beacon (plainBeacon 0 6) 22] _
    List.mem_cons_self _ _ rfl

example : (netStep plainEnv openNode
    (.beacon (plainBeacon 0 6) 22)).nextState.ivIndex = 6 := by decide

end Meshctl.Net
