import Meshctl.Net.KeyStore

/-! # Which copy of a network key is in force

Four functions choose between the two copies of a network key, each with a test
of its own. They agree outside a key refresh and in the second phase of one
whose new copy was stored.
-/

namespace Meshctl.Net

open Execution

/-! ## The choices -/

inductive KeyCopy where
  | current
  | new
deriving DecidableEq

namespace MeshNetKey

variable (netKey : MeshNetKey)

def copy : KeyCopy → NetKeyParts
  | .current => netKey.current
  | .new => netKey.new

/-- The copy that `send_seg` secures packets with. -/
def sendCopy : KeyCopy :=
  if netKey.phase = 2 ∧ netKey.new.nid ≠ invalidNid then .new else .current

/-- The copy that `process_beacon` authenticates beacons with. -/
def beaconCopy : KeyCopy := if netKey.phase ≠ 2 then .current else .new

/-- The copy that `get_key` hands out. -/
def givenCopy : Option KeyCopy :=
  if netKey.phase = 2 ∧ netKey.new.nid ≠ invalidNid then some .new
  else if netKey.current.nid ≠ invalidNid then some .current
  else none

theorem sendPart_eq : netKey.sendPart = netKey.copy netKey.sendCopy := by
  rw [sendPart, sendCopy, invalidNid]
  split <;> rfl

theorem beaconPart_eq : netKey.beaconPart = netKey.copy netKey.beaconCopy := by
  rw [beaconPart, beaconCopy]
  split <;> rfl

end MeshNetKey

theorem netGetKey_eq {netIdx : U16} {st : NetState} {netKey : MeshNetKey}
    (present : st.findNetKeyByIdx netIdx = some netKey) :
    netGetKey netIdx st =
      netKey.givenCopy.map fun copy => (netKey.copy copy).netKey := by
  have found : findNetKey netIdx st.netKeys = some netKey := present
  simp only [netGetKey, getNetKey, found, MeshNetKey.givenCopy]
  split
  · rfl
  · split <;> rfl

/-! ## Agreement -/

/-- All users of a network key use the same valid copy, and new devices are told
of a key refresh exactly when that copy is the new one. -/
structure InForce (st : NetState) (netIdx : U16) (netKey : MeshNetKey)
    (copy : KeyCopy) : Prop where
  valid : (netKey.copy copy).nid ≠ invalidNid
  sends : netKey.sendCopy = copy
  authenticates : netKey.beaconCopy = copy
  given : netKey.givenCopy = some copy
  flagged : ∃ flags, netGetFlags netIdx st = some flags ∧
    (flags &&& 0x01 ≠ 0 ↔ copy = .new)

/-- The key is not being refreshed, or its new copy is stored and in use. -/
def Settled (netKey : MeshNetKey) : Prop :=
  netKey.phase = KrPhase.none.value ∨
    netKey.phase = KrPhase.two.value ∧ netKey.new.nid ≠ invalidNid

section Agreement

variable {st : NetState} {netIdx : U16} {netKey : MeshNetKey}

/-- The key refresh bit tells whether the phase is not `KR_PHASE_NONE`. -/
theorem netGetFlags_eq (present : st.findNetKeyByIdx netIdx = some netKey)
    (defined : netKey.phase ≠ krPhaseInvalid) :
    ∃ flags, netGetFlags netIdx st = some flags ∧
      (flags &&& 0x01 ≠ 0 ↔ netKey.phase ≠ KrPhase.none.value) := by
  have found : findNetKey netIdx st.netKeys = some netKey := present
  have phase : keysGetKrPhase netIdx st.netKeys = netKey.phase := by
    rw [keysGetKrPhase, found]
  rw [netGetFlags, phase]
  simp only [if_neg defined]
  refine ⟨_, rfl, ?_⟩
  by_cases refreshing : netKey.phase = KrPhase.none.value <;>
    cases st.ivUpdate <;> simp [refreshing]

theorem inForce_of_settled (present : st.findNetKeyByIdx netIdx = some netKey)
    (valid : netKey.current.nid ≠ invalidNid) (settled : Settled netKey) :
    ∃ copy, InForce st netIdx netKey copy := by
  have defined : netKey.phase ≠ krPhaseInvalid := by
    rcases settled with none | ⟨two, _⟩
    · rw [none]
      decide
    · rw [two]
      decide
  rcases netGetFlags_eq present defined with ⟨flags, isFlags, bit⟩
  rcases settled with none | ⟨two, stored⟩
  · have notTwo : ¬netKey.phase = 2 := by
      rw [none]
      decide
    refine ⟨.current, valid, ?_, ?_, ?_, flags, isFlags, ?_⟩
    · exact if_neg fun both => notTwo both.1
    · exact if_pos notTwo
    · rw [MeshNetKey.givenCopy, if_neg fun both => notTwo both.1, if_pos valid]
    · rw [bit, none]
      simp
  · have isTwo : netKey.phase = 2 := two
    refine ⟨.new, stored, ?_, ?_, ?_, flags, isFlags, ?_⟩
    · exact if_pos ⟨isTwo, stored⟩
    · exact if_neg (not_not_intro isTwo)
    · exact if_pos ⟨isTwo, stored⟩
    · rw [bit, two]
      decide

theorem settled_of_inForce (present : st.findNetKeyByIdx netIdx = some netKey)
    {copy : KeyCopy} (inForce : InForce st netIdx netKey copy) :
    Settled netKey := by
  by_cases two : netKey.phase = 2
  · refine Or.inr ⟨two, ?_⟩
    have isNew : netKey.beaconCopy = .new := if_neg (not_not_intro two)
    have valid := inForce.valid
    rw [← inForce.authenticates, isNew] at valid
    exact valid
  · have isCurrent : netKey.beaconCopy = .current := if_pos two
    rcases inForce.flagged with ⟨flags, isFlags, bit⟩
    have defined : netKey.phase ≠ krPhaseInvalid := by
      intro invalid
      have found : findNetKey netIdx st.netKeys = some netKey := present
      rw [netGetFlags, keysGetKrPhase, found] at isFlags
      simp [invalid] at isFlags
    rcases netGetFlags_eq present defined with ⟨flags', isFlags', bit'⟩
    rw [isFlags, Option.some.injEq] at isFlags'
    rw [← isFlags', bit, ← inForce.authenticates, isCurrent] at bit'
    left
    by_contra refreshing
    cases bit'.mpr refreshing

end Agreement

/-! ## Runs of the key store -/

inductive KeyInput where
  | add (netIdx : U16) (key : Key) (update : Bool) (memory : MeshNetKey)
  | setPhase (netIdx : U16) (phase : KrPhase)
  | delete (netIdx : U16)

def keyStep (crypto : KeyCrypto) (st : NetState) :
    KeyInput → StepResult NetState Bool
  | .add netIdx key update memory =>
      let (result, netKeys) :=
        keysNetKeyAdd crypto netIdx key update memory st.netKeys
      ⟨{ st with netKeys }, result⟩
  | .setPhase netIdx phase =>
      let (result, netKeys) := keysSetKrPhase netIdx phase.value st.netKeys
      ⟨{ st with netKeys }, result⟩
  | .delete netIdx =>
      let (result, netKeys) := keysNetKeyDelete netIdx st.netKeys
      ⟨{ st with netKeys }, result⟩

def keyModel (crypto : KeyCrypto) : Model NetState KeyInput Bool where
  step := keyStep crypto

/-- The program starts without network keys. -/
def withoutKeys (st : NetState) : NetState := { st with netKeys := [] }

def CurrentValid (netKeys : List MeshNetKey) : Prop :=
  ∀ netKey ∈ netKeys, netKey.current.nid ≠ invalidNid

section Runs

variable {crypto : KeyCrypto}

/-- A copy that was derived is valid. -/
theorem deriveNetKey_valid {key : Key} {parts : NetKeyParts}
    (derived : (deriveNetKey crypto key parts).1 = true) :
    (deriveNetKey crypto key parts).2.nid ≠ invalidNid := by
  revert derived
  simp only [deriveNetKey]
  cases crypto.nkbk key with
  | none => intro derived; cases derived
  | some beaconKey =>
      cases crypto.k3 key with
      | none => intro derived; cases derived
      | some netId =>
          cases complete : (crypto.k2 key).ok with
          | false => intro derived; simp at derived
          | true =>
              intro _
              rw [K2Result.ok, Bool.and_eq_true, Bool.and_eq_true] at complete
              rcases Option.isSome_iff_exists.mp complete.1.1 with ⟨nid, isNid⟩
              simp only [isNid, if_true, Option.map_some, Option.getD_some]
              intro equal
              have value := congrArg BitVec.toNat equal
              have bound := nid.isLt
              simp only [BitVec.toNat_setWidth, invalidNid, BitVec.ofNat_eq_ofNat,
                BitVec.toNat_ofNat] at value
              omega

theorem changeNetKey_current {netIdx : U16} {change : MeshNetKey → MeshNetKey}
    (keeps : ∀ netKey, (change netKey).current = netKey.current)
    {netKeys : List MeshNetKey} (valid : CurrentValid netKeys) :
    CurrentValid (changeNetKey netIdx change netKeys) := by
  induction netKeys with
  | nil => exact valid
  | cons first rest induction =>
      rcases List.forall_mem_cons.mp valid with ⟨here, later⟩
      rw [changeNetKey]
      split
      · apply List.forall_mem_cons.mpr ⟨?_, later⟩
        rw [keeps]
        exact here
      · exact List.forall_mem_cons.mpr ⟨here, induction later⟩

theorem keysNetKeyAdd_valid (netIdx : U16) (key : Key) (update : Bool)
    (memory : MeshNetKey) {netKeys : List MeshNetKey}
    (valid : CurrentValid netKeys) :
    CurrentValid (keysNetKeyAdd crypto netIdx key update memory netKeys).2 := by
  rw [keysNetKeyAdd]
  split
  next netKey found =>
    split
    next =>
      apply changeNetKey_current _ valid
      exact fun _ => rfl
    next => exact valid
  next =>
    dsimp only
    split
    next derived =>
      intro other member
      rcases List.mem_append.mp member with earlier | isNew
      · exact valid other earlier
      · rw [List.mem_singleton.mp isNew]
        exact deriveNetKey_valid derived
    next => exact valid

theorem keyStep_valid {st : NetState} (valid : CurrentValid st.netKeys)
    (input : KeyInput) :
    CurrentValid (keyStep crypto st input).nextState.netKeys := by
  cases input with
  | add netIdx key update memory =>
      exact keysNetKeyAdd_valid netIdx key update memory valid
  | setPhase netIdx phase =>
      simp only [keyStep, keysSetKrPhase]
      split
      · exact valid
      · apply changeNetKey_current _ valid
        exact fun _ => rfl
  | delete netIdx =>
      simp only [keyStep, keysNetKeyDelete]
      split
      · exact valid
      · exact fun netKey member => valid netKey (List.mem_of_mem_eraseP member)

end Runs

/-- After every run of the key store, the users of a network key agree on a copy
if and only if the key is not being refreshed, or is in the second phase of a
refresh whose new copy was stored. -/
theorem copies_agree_iff (crypto : KeyCrypto) (st : NetState)
    (inputs : List KeyInput) (netIdx : U16) (netKey : MeshNetKey)
    (present : ((keyModel crypto).finalState (withoutKeys st)
      inputs).findNetKeyByIdx netIdx = some netKey) :
    (∃ copy, InForce ((keyModel crypto).finalState (withoutKeys st) inputs)
      netIdx netKey copy) ↔ Settled netKey := by
  have valid : CurrentValid
      ((keyModel crypto).finalState (withoutKeys st) inputs).netKeys := by
    apply (keyModel crypto).invariant_finalState
      (fun st => CurrentValid st.netKeys) (fun _ => True)
      (fun st input valid _ => keyStep_valid valid input)
    · intro netKey member
      cases member
    · exact fun _ _ => trivial
  have member := List.mem_of_find?_eq_some present
  constructor
  · intro ⟨copy, inForce⟩
    exact settled_of_inForce present inForce
  · exact inForce_of_settled present (valid netKey member)

/-! ### The first phase -/

/-- A crypto that derives every key as zero. -/
def zeroCrypto : KeyCrypto where
  nkbk _ := some 0
  k3 _ := some 0
  k2 _ := ⟨some 0, some 0, some 0⟩
  k4 _ := some 0

/-- A key refresh that was announced and whose key was not switched yet. -/
def firstPhaseInputs : List KeyInput :=
  [.add 0 1 false onlyNetKey, .add 0 2 true onlyNetKey, .setPhase 0 .one]

def firstPhaseKey : MeshNetKey where
  idx := 0
  phase := 1
  current :=
    { nid := 0, encKey := 0, privacyKey := 0, netKey := 1, beaconKey := 0
      netId := 0 }
  new :=
    { nid := 0, encKey := 0, privacyKey := 0, netKey := 2, beaconKey := 0
      netId := 0 }

theorem copies_disagree_in_first_phase :
    ¬∀ (crypto : KeyCrypto), crypto.Succeeds → ∀ (st : NetState)
      (inputs : List KeyInput) (netIdx : U16) (netKey : MeshNetKey),
      ((keyModel crypto).finalState (withoutKeys st) inputs).findNetKeyByIdx
        netIdx = some netKey →
      ∃ copy, InForce ((keyModel crypto).finalState (withoutKeys st) inputs)
        netIdx netKey copy := by
  intro always
  have succeeds : zeroCrypto.Succeeds := ⟨fun _ => rfl, fun _ => rfl,
    fun _ => rfl, fun _ => rfl⟩
  have present : ((keyModel zeroCrypto).finalState (withoutKeys NetState.zero)
      firstPhaseInputs).findNetKeyByIdx 0 = some firstPhaseKey := rfl
  rcases always zeroCrypto succeeds NetState.zero firstPhaseInputs 0
    firstPhaseKey present with ⟨copy, inForce⟩
  have isCurrent : copy = .current := inForce.authenticates.symm
  rcases inForce.flagged with ⟨flags, isFlags, bit⟩
  have isOne : flags = 0x01 := by
    have same : netGetFlags 0 ((keyModel zeroCrypto).finalState
        (withoutKeys NetState.zero) firstPhaseInputs) = some 0x01 := rfl
    rw [same, Option.some.injEq] at isFlags
    exact isFlags.symm
  rw [isCurrent, isOne] at bit
  revert bit
  decide

theorem copies_agree_iff_first_phase :
    (∃ copy, InForce ((keyModel zeroCrypto).finalState
      (withoutKeys NetState.zero) firstPhaseInputs) 0 firstPhaseKey copy) ↔
        Settled firstPhaseKey :=
  copies_agree_iff zeroCrypto NetState.zero firstPhaseInputs 0 firstPhaseKey rfl

end Meshctl.Net
