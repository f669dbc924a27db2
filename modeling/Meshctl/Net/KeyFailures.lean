import Meshctl.Net.KeyRefresh

/-! # Key operations that fail

What the users of the key store see of its two lists, and when a call that fails
leaves all of it as it was.
-/

namespace Meshctl.Net

/-! ## What is seen of the keys -/

structure KeyTables where
  netKeys : List MeshNetKey
  appKeys : List MeshAppKey

/-- The part of a copy that secures packets. -/
structure PacketParts where
  nid : Byte
  encKey : Key
  privacyKey : Key
deriving DecidableEq

def NetKeyParts.packetParts (parts : NetKeyParts) : PacketParts where
  nid := parts.nid
  encKey := parts.encKey
  privacyKey := parts.privacyKey

namespace MeshNetKey

variable (netKey : MeshNetKey)

/-- The copies that a received packet can be decoded with: the packet has seven bits
for the identifier. -/
def receiveParts : List PacketParts :=
  ([netKey.current, netKey.new].filter fun parts => parts.nid.toNat < 128).map
    NetKeyParts.packetParts

/-- The network ids by which a beacon finds the key. -/
def recognizedIds : List U64 :=
  ([netKey.current, netKey.new].filter fun parts => parts.nid ≠ invalidNid).map
    NetKeyParts.netId

/-- The network id and the key that a beacon is checked with. -/
def beaconCheck : U64 × Key := (netKey.beaconPart.netId, netKey.beaconPart.beaconKey)

end MeshNetKey

namespace KeyTables

variable (tables : KeyTables)

def keysNetKeyGet (netIdx : U16) (current : Bool) : Option Key :=
  (findNetKey netIdx tables.netKeys).map fun netKey =>
    if current then netKey.current.netKey else netKey.new.netKey

def keysAppKeyGet (appIdx : U16) (current : Bool) : Option Key :=
  (findAppKey appIdx tables.appKeys).map fun appKey =>
    if current then appKey.current.key else appKey.new.key

/-- The copy of an application key that messages are encrypted with. -/
def appSendPart (appIdx : U16) : Option AppKeyParts := do
  let appKey ← findAppKey appIdx tables.appKeys
  let netKey ← findNetKey appKey.netIdx tables.netKeys
  some (if netKey.phase = 2 ∧ appKey.new.akfAid ≠ invalidAid then appKey.new
    else appKey.current)

end KeyTables

/-- Nobody who uses the keys sees a difference. -/
structure SameView (before after : KeyTables) : Prop where
  netGetKey : ∀ netIdx, getNetKey netIdx after.netKeys = getNetKey netIdx before.netKeys
  keysNetKeyGet : ∀ netIdx current,
    after.keysNetKeyGet netIdx current = before.keysNetKeyGet netIdx current
  keysAppKeyGet : ∀ appIdx current,
    after.keysAppKeyGet appIdx current = before.keysAppKeyGet appIdx current
  sends : ∀ netIdx,
    (findNetKey netIdx after.netKeys).map (·.sendPart.packetParts) =
      (findNetKey netIdx before.netKeys).map (·.sendPart.packetParts)
  encrypts : ∀ appIdx, after.appSendPart appIdx = before.appSendPart appIdx
  receives : after.netKeys.flatMap MeshNetKey.receiveParts =
    before.netKeys.flatMap MeshNetKey.receiveParts
  decrypts : after.appKeys = before.appKeys
  recognizes : after.netKeys.map MeshNetKey.recognizedIds =
    before.netKeys.map MeshNetKey.recognizedIds
  authenticates : after.netKeys.map MeshNetKey.beaconCheck =
    before.netKeys.map MeshNetKey.beaconCheck

theorem SameView.refl (tables : KeyTables) : SameView tables tables where
  netGetKey _ := rfl
  keysNetKeyGet _ _ := rfl
  keysAppKeyGet _ _ := rfl
  sends _ := rfl
  encrypts _ := rfl
  receives := rfl
  decrypts := rfl
  recognizes := rfl
  authenticates := rfl

/-! ## The operations -/

inductive KeyOperation where
  | netKeyAdd (netIdx : U16) (key : Key) (update : Bool) (memory : MeshNetKey)
  | appKeyAdd (netIdx appIdx : U16) (key : Key) (update : Bool) (memory : MeshAppKey)

def KeyOperation.run (crypto : KeyCrypto) (operation : KeyOperation)
    (tables : KeyTables) : Bool × KeyTables :=
  match operation with
  | .netKeyAdd netIdx key update memory =>
      let (result, netKeys) := keysNetKeyAdd crypto netIdx key update memory tables.netKeys
      (result, { tables with netKeys })
  | .appKeyAdd netIdx appIdx key update memory =>
      let (result, appKeys) :=
        keysAppKeyAdd crypto netIdx appIdx key update memory tables.appKeys
      (result, { tables with appKeys })

/-! ## Derivations that fail -/

/-- All three derivations succeed. -/
def KeyCrypto.Derives (crypto : KeyCrypto) (key : Key) : Prop :=
  (crypto.nkbk key).isSome ∧ (crypto.k3 key).isSome ∧ (crypto.k2 key).ok

theorem deriveNetKey_succeeds_iff (crypto : KeyCrypto) (key : Key)
    (parts : NetKeyParts) :
    (deriveNetKey crypto key parts).1 = true ↔ crypto.Derives key := by
  simp only [deriveNetKey, KeyCrypto.Derives]
  cases crypto.nkbk key with
  | none => simp
  | some beaconKey =>
      cases crypto.k3 key with
      | none => simp
      | some netId => cases (crypto.k2 key).ok <;> simp

section Derived

variable {crypto : KeyCrypto} {key beaconKey : Key} {netId : U64} {parts : NetKeyParts}

theorem deriveNetKey_netKey : (deriveNetKey crypto key parts).2.netKey = key := by
  simp only [deriveNetKey]
  repeat' split
  all_goals rfl

theorem deriveNetKey_beaconKey (isBeaconKey : crypto.nkbk key = some beaconKey) :
    (deriveNetKey crypto key parts).2.beaconKey = beaconKey := by
  simp only [deriveNetKey, isBeaconKey]
  repeat' split
  all_goals rfl

theorem deriveNetKey_netId (isBeaconKey : crypto.nkbk key = some beaconKey)
    (isNetId : crypto.k3 key = some netId) :
    (deriveNetKey crypto key parts).2.netId = netId := by
  simp only [deriveNetKey, isBeaconKey, isNetId]
  split <;> rfl

theorem deriveNetKey_nid (isBeaconKey : crypto.nkbk key = some beaconKey)
    (isNetId : crypto.k3 key = some netId) (fails : ¬crypto.Derives key) :
    (deriveNetKey crypto key parts).2.nid = invalidNid := by
  have notOk : (crypto.k2 key).ok = false := by
    cases ok : (crypto.k2 key).ok with
    | false => rfl
    | true => exact absurd ⟨by rw [isBeaconKey]; rfl, by rw [isNetId]; rfl, ok⟩ fails
  simp only [deriveNetKey, isBeaconKey, isNetId, notOk, Bool.false_eq_true, if_false]

end Derived

/-- The new copy of a key before and after a derivation that failed is the same for
everybody: it had the key already, the parts that a beacon is checked with did not
change while they are in use, and it is not invalidated if it was valid. -/
structure LeavesNoTrace (crypto : KeyCrypto) (key : Key) (netKey : MeshNetKey) :
    Prop where
  sameKey : netKey.new.netKey = key
  sameBeaconKey : netKey.phase = 2 → ∀ beaconKey, crypto.nkbk key = some beaconKey →
    netKey.new.beaconKey = beaconKey
  sameNetId : netKey.phase = 2 → (crypto.nkbk key).isSome → ∀ netId,
    crypto.k3 key = some netId → netKey.new.netId = netId
  invalid : (crypto.nkbk key).isSome → (crypto.k3 key).isSome →
    netKey.new.nid = invalidNid

/-! ## A changed key in the list -/

section Changed

variable {netIdx : U16} {netKeys : List MeshNetKey} {netKey : MeshNetKey}
  {change : MeshNetKey → MeshNetKey}

theorem map_changeNetKey_eq_iff {α : Type*} {view : MeshNetKey → α}
    (found : findNetKey netIdx netKeys = some netKey) :
    (changeNetKey netIdx change netKeys).map view = netKeys.map view ↔
      view (change netKey) = view netKey := by
  induction netKeys with
  | nil => cases found
  | cons first rest induction =>
      rw [findNetKey, List.find?_cons] at found
      rw [changeNetKey]
      by_cases isFirst : first.idx = netIdx
      · rw [decide_eq_true isFirst] at found
        cases found
        rw [if_pos isFirst, List.map_cons, List.map_cons, List.cons.injEq, and_iff_left rfl]
      · rw [decide_eq_false isFirst] at found
        rw [if_neg isFirst, List.map_cons, List.map_cons, List.cons.injEq,
          and_iff_right rfl]
        exact induction found

theorem findNetKey_changeNetKey (found : findNetKey netIdx netKeys = some netKey)
    (sameIdx : ∀ other, (change other).idx = other.idx) (idx : U16) :
    findNetKey idx (changeNetKey netIdx change netKeys) =
      if idx = netIdx then some (change netKey) else findNetKey idx netKeys := by
  induction netKeys with
  | nil => cases found
  | cons first rest induction =>
      simp only [findNetKey, List.find?_cons] at found induction ⊢
      rw [changeNetKey]
      by_cases isFirst : first.idx = netIdx
      · rw [decide_eq_true isFirst] at found
        cases found
        rw [if_pos isFirst, List.find?_cons, sameIdx]
        by_cases isIdx : idx = netIdx
        · rw [if_pos isIdx, isIdx, decide_eq_true isFirst]
        · have notFirst : netKey.idx ≠ idx := fun same => isIdx (same.symm.trans isFirst)
          rw [if_neg isIdx, decide_eq_false notFirst]
      · rw [decide_eq_false isFirst] at found
        rw [if_neg isFirst, List.find?_cons]
        by_cases isIdx : idx = netIdx
        · have notFirst : first.idx ≠ idx := fun same => isFirst (same.trans isIdx)
          rw [if_pos isIdx, decide_eq_false notFirst]
          have later := induction found
          rwa [if_pos isIdx] at later
        · have later := induction found
          rw [if_neg isIdx] at later ⊢
          rw [later]

end Changed

/-! ## Keys that look the same -/

/-- What is seen of a key does not depend on the rest of its new copy. -/
structure SameCopy (phase : Byte) (before after : NetKeyParts) : Prop where
  netKey : after.netKey = before.netKey
  nid : after.nid = before.nid
  valid : before.nid ≠ invalidNid → after = { before with beaconKey := after.beaconKey }
  checks : phase = 2 → after.netId = before.netId ∧ after.beaconKey = before.beaconKey

section SameCopy

variable {netKey : MeshNetKey} {after : NetKeyParts}

theorem SameCopy.sendPart (same : SameCopy netKey.phase netKey.new after) :
    { netKey with new := after }.sendPart.packetParts = netKey.sendPart.packetParts := by
  simp only [MeshNetKey.sendPart, same.nid]
  split
  next uses =>
    rw [same.valid uses.2]
    rfl
  next => rfl

theorem SameCopy.given (same : SameCopy netKey.phase netKey.new after) :
    ({ netKey with new := after }.givenCopy.map fun copy =>
        ({ netKey with new := after }.copy copy).netKey) =
      netKey.givenCopy.map fun copy => (netKey.copy copy).netKey := by
  simp only [MeshNetKey.givenCopy, same.nid]
  split
  · exact congrArg some same.netKey
  · split <;> rfl

theorem SameCopy.receiveParts (same : SameCopy netKey.phase netKey.new after) :
    { netKey with new := after }.receiveParts = netKey.receiveParts := by
  simp only [MeshNetKey.receiveParts, List.filter_cons, List.filter_nil, same.nid]
  by_cases inUse : netKey.new.nid.toNat < 128
  · have valid : netKey.new.nid ≠ invalidNid := by
      intro invalid
      rw [invalid] at inUse
      exact absurd inUse (by decide)
    rw [same.valid valid]
    simp only [inUse, decide_true, if_true]
    split <;> rfl
  · simp only [inUse, decide_false, Bool.false_eq_true, if_false]

theorem SameCopy.recognizedIds (same : SameCopy netKey.phase netKey.new after) :
    { netKey with new := after }.recognizedIds = netKey.recognizedIds := by
  simp only [MeshNetKey.recognizedIds, List.filter_cons, List.filter_nil, same.nid]
  by_cases valid : netKey.new.nid ≠ invalidNid
  · rw [same.valid valid, decide_eq_true valid]
    split <;> rfl
  · simp only [valid, decide_false, Bool.false_eq_true, if_false]

theorem SameCopy.beaconCheck (same : SameCopy netKey.phase netKey.new after) :
    { netKey with new := after }.beaconCheck = netKey.beaconCheck := by
  simp only [MeshNetKey.beaconCheck, MeshNetKey.beaconPart]
  split
  next => rfl
  next two =>
    have checks := same.checks (not_not.mp two)
    rw [checks.1, checks.2]

end SameCopy

/-- A derivation that leaves no trace. -/
theorem LeavesNoTrace.sameCopy {crypto : KeyCrypto} {key : Key} {netKey : MeshNetKey}
    (noTrace : LeavesNoTrace crypto key netKey) (fails : ¬crypto.Derives key) :
    SameCopy netKey.phase netKey.new (deriveNetKey crypto key netKey.new).2 := by
  have isSame : { netKey.new with netKey := key } = netKey.new := by
    rw [← noTrace.sameKey]
  have beaconKeys := noTrace.sameBeaconKey
  have netIds := noTrace.sameNetId
  have invalid := noTrace.invalid
  simp only [KeyCrypto.Derives] at fails
  simp only [deriveNetKey]
  cases isBeaconKey : crypto.nkbk key with
  | none =>
      rw [isSame]
      exact ⟨rfl, rfl, fun _ => rfl, fun _ => ⟨rfl, rfl⟩⟩
  | some beaconKey =>
      rw [isBeaconKey] at fails netIds invalid
      cases isNetId : crypto.k3 key with
      | none =>
          refine ⟨noTrace.sameKey.symm, rfl, fun _ => ?_, fun two => ⟨rfl, ?_⟩⟩
          · rw [← noTrace.sameKey]
          · exact (beaconKeys two beaconKey isBeaconKey).symm
      | some netId =>
          rw [isNetId] at fails netIds invalid
          have isInvalid := invalid rfl rfl
          have notOk : (crypto.k2 key).ok = false := by
            cases ok : (crypto.k2 key).ok with
            | false => rfl
            | true => exact absurd ⟨rfl, rfl, ok⟩ fails
          simp only [notOk, Bool.false_eq_true, if_false]
          refine ⟨noTrace.sameKey.symm, isInvalid.symm, fun valid => ?_, fun two => ⟨?_, ?_⟩⟩
          · exact absurd isInvalid valid
          · exact (netIds two rfl netId rfl).symm
          · exact (beaconKeys two beaconKey isBeaconKey).symm

/-! ## The lists -/

/-- The copy of a key that `get_key` hands out. -/
def MeshNetKey.given (netKey : MeshNetKey) : Option Key :=
  netKey.givenCopy.map fun copy => (netKey.copy copy).netKey

theorem getNetKey_eq (netIdx : U16) (netKeys : List MeshNetKey) :
    getNetKey netIdx netKeys = ((findNetKey netIdx netKeys).map MeshNetKey.given).join := by
  rw [getNetKey]
  cases findNetKey netIdx netKeys with
  | none => rfl
  | some netKey =>
      simp only [Option.map_some, Option.join_some, MeshNetKey.given, MeshNetKey.givenCopy]
      split
      · rfl
      · split <;> rfl

/-- Of the network key only the phase matters for an application key. -/
theorem appSendPart_eq (tables : KeyTables) (appIdx : U16) :
    tables.appSendPart appIdx =
      (findAppKey appIdx tables.appKeys).bind fun appKey =>
        ((findNetKey appKey.netIdx tables.netKeys).map MeshNetKey.phase).map fun phase =>
          if phase = 2 ∧ appKey.new.akfAid ≠ invalidAid then appKey.new
          else appKey.current := by
  rw [KeyTables.appSendPart]
  cases findAppKey appIdx tables.appKeys with
  | none => rfl
  | some appKey =>
      simp only [Option.bind_eq_bind, Option.bind_some]
      cases findNetKey appKey.netIdx tables.netKeys <;> rfl

section Update

variable {netIdx : U16} {netKey : MeshNetKey} {after : NetKeyParts}
  {tables : KeyTables}

/-- The tables with another new copy of a key. -/
def KeyTables.setNew (tables : KeyTables) (netIdx : U16) (new : NetKeyParts) :
    KeyTables :=
  { tables with
    netKeys := changeNetKey netIdx (fun netKey => { netKey with new }) tables.netKeys }

theorem findNetKey_setNew (found : findNetKey netIdx tables.netKeys = some netKey)
    (idx : U16) :
    findNetKey idx (tables.setNew netIdx after).netKeys =
      if idx = netIdx then some { netKey with new := after }
      else findNetKey idx tables.netKeys := by
  rw [KeyTables.setNew, findNetKey_changeNetKey found]
  exact fun _ => rfl

/-- What looks the same in the key looks the same in the list. -/
theorem find_setNew {α : Type*} {view : MeshNetKey → α}
    (found : findNetKey netIdx tables.netKeys = some netKey)
    (same : view { netKey with new := after } = view netKey) (idx : U16) :
    (findNetKey idx (tables.setNew netIdx after).netKeys).map view =
      (findNetKey idx tables.netKeys).map view := by
  rw [findNetKey_setNew found]
  split
  next isIdx => rw [isIdx, found, Option.map_some, Option.map_some, same]
  next => rfl

theorem SameCopy.sameView (found : findNetKey netIdx tables.netKeys = some netKey)
    (same : SameCopy netKey.phase netKey.new after) :
    SameView tables (tables.setNew netIdx after) where
  netGetKey idx := by
    have given : (findNetKey idx (tables.setNew netIdx after).netKeys).map
        MeshNetKey.given = (findNetKey idx tables.netKeys).map MeshNetKey.given :=
      find_setNew found same.given idx
    rw [getNetKey_eq, getNetKey_eq, given]
  keysNetKeyGet idx current := by
    refine find_setNew found ?_ idx
    cases current with
    | false => exact same.netKey
    | true => rfl
  keysAppKeyGet appIdx current := rfl
  sends idx := find_setNew found same.sendPart idx
  encrypts appIdx := by
    have phase (idx : U16) : (findNetKey idx (tables.setNew netIdx after).netKeys).map
        MeshNetKey.phase = (findNetKey idx tables.netKeys).map MeshNetKey.phase := by
      refine find_setNew found ?_ idx
      rfl
    rw [appSendPart_eq, appSendPart_eq]
    simp only [phase]
    rfl
  receives := by
    have each : (tables.setNew netIdx after).netKeys.map MeshNetKey.receiveParts =
        tables.netKeys.map MeshNetKey.receiveParts :=
      (map_changeNetKey_eq_iff found).mpr same.receiveParts
    rw [List.flatMap_def, List.flatMap_def]
    exact congrArg List.flatten each
  decrypts := rfl
  recognizes := (map_changeNetKey_eq_iff found).mpr same.recognizedIds
  authenticates := (map_changeNetKey_eq_iff found).mpr same.beaconCheck

/-- What a failed derivation must have left alone when nobody sees it. -/
theorem SameView.leavesNoTrace {crypto : KeyCrypto} {key : Key}
    (found : findNetKey netIdx tables.netKeys = some netKey)
    (fails : ¬crypto.Derives key)
    (same : SameView tables
      (tables.setNew netIdx (deriveNetKey crypto key netKey.new).2)) :
    LeavesNoTrace crypto key netKey := by
  have newKey := same.keysNetKeyGet netIdx false
  have check := (map_changeNetKey_eq_iff found).mp same.authenticates
  have ids := (map_changeNetKey_eq_iff found).mp same.recognizes
  rw [KeyTables.keysNetKeyGet, KeyTables.keysNetKeyGet, findNetKey_setNew found, if_pos rfl,
    found, Option.map_some, Option.map_some, Option.some_inj] at newKey
  simp only [Bool.false_eq_true, if_false, deriveNetKey_netKey] at newKey
  have inUse (two : netKey.phase = 2) :
      (deriveNetKey crypto key netKey.new).2.netId = netKey.new.netId ∧
        (deriveNetKey crypto key netKey.new).2.beaconKey = netKey.new.beaconKey := by
    simp only [MeshNetKey.beaconCheck, MeshNetKey.beaconPart, two, ne_eq,
      not_true_eq_false, if_false, Prod.mk.injEq] at check
    exact check
  constructor
  · exact newKey.symm
  · intro two beaconKey isBeaconKey
    rw [← (inUse two).2, deriveNetKey_beaconKey isBeaconKey]
  · intro two isSome netId isNetId
    rcases Option.isSome_iff_exists.mp isSome with ⟨beaconKey, isBeaconKey⟩
    rw [← (inUse two).1, deriveNetKey_netId isBeaconKey isNetId]
  · intro someBeaconKey someNetId
    rcases Option.isSome_iff_exists.mp someBeaconKey with ⟨beaconKey, isBeaconKey⟩
    rcases Option.isSome_iff_exists.mp someNetId with ⟨netId, isNetId⟩
    by_contra valid
    -- the copy was recognized, and no longer is
    have invalid := @deriveNetKey_nid crypto key beaconKey netId netKey.new isBeaconKey
      isNetId fails
    have shorter := congrArg List.length ids
    simp only [MeshNetKey.recognizedIds, List.filter_cons, List.filter_nil, invalid,
      valid, ne_eq, not_true_eq_false, not_false_eq_true, decide_false, decide_true,
      Bool.false_eq_true, if_false, if_true, List.length_map] at shorter
    split at shorter <;> cases shorter

end Update

/-! ## Failed operations -/

/-- When an operation that fails changes nothing: an update of a network key may leave
no trace in its new copy. -/
def KeyOperation.FailsCleanly (crypto : KeyCrypto) (tables : KeyTables) :
    KeyOperation → Prop
  | .netKeyAdd netIdx key update _ =>
      update = true → ¬crypto.Derives key → ∀ netKey,
        findNetKey netIdx tables.netKeys = some netKey → LeavesNoTrace crypto key netKey
  | .appKeyAdd _ _ _ _ _ => True

theorem keysAppKeyAdd_failed {crypto : KeyCrypto} {netIdx appIdx : U16} {key : Key}
    {update : Bool} {memory : MeshAppKey} {appKeys : List MeshAppKey}
    (failed : (keysAppKeyAdd crypto netIdx appIdx key update memory appKeys).1 = false) :
    (keysAppKeyAdd crypto netIdx appIdx key update memory appKeys).2 = appKeys := by
  revert failed
  simp only [keysAppKeyAdd]
  repeat' split
  all_goals simp

/-- A failed update of a network key that is known. -/
theorem keysNetKeyAdd_update (crypto : KeyCrypto) {netIdx : U16} (key : Key)
    (memory : MeshNetKey) {tables : KeyTables} {netKey : MeshNetKey}
    (found : findNetKey netIdx tables.netKeys = some netKey) :
    KeyOperation.run crypto (.netKeyAdd netIdx key true memory) tables =
      ((deriveNetKey crypto key netKey.new).1,
        tables.setNew netIdx (deriveNetKey crypto key netKey.new).2) := by
  rw [KeyOperation.run, keysNetKeyAdd]
  simp only [found, if_true]
  rfl

/-- Any other failed addition leaves the list as it is. -/
theorem keysNetKeyAdd_failed {crypto : KeyCrypto} {netIdx : U16} {key : Key}
    {update : Bool} {memory : MeshNetKey} {netKeys : List MeshNetKey}
    (noUpdate : update = false ∨ findNetKey netIdx netKeys = none)
    (failed : (keysNetKeyAdd crypto netIdx key update memory netKeys).1 = false) :
    (keysNetKeyAdd crypto netIdx key update memory netKeys).2 = netKeys := by
  revert failed
  rw [keysNetKeyAdd]
  cases found : findNetKey netIdx netKeys with
  | none =>
      simp only
      split <;> simp
  | some netKey =>
      have isNew : update = false := by
        rcases noUpdate with isNew | missing
        · exact isNew
        · rw [missing] at found
          cases found
      simp only [isNew, Bool.false_eq_true, if_false, implies_true]

/-- Nobody sees a failed key operation, if and only if it is none that leaves a trace
in the new copy of a network key. -/
theorem failed_operation_unseen_iff (crypto : KeyCrypto) (tables : KeyTables)
    (operation : KeyOperation) :
    ((operation.run crypto tables).1 = false →
        SameView tables (operation.run crypto tables).2) ↔
      operation.FailsCleanly crypto tables := by
  cases operation with
  | appKeyAdd netIdx appIdx key update memory =>
      refine iff_of_true (fun failed => ?_) trivial
      have same : (KeyOperation.run crypto (.appKeyAdd netIdx appIdx key update memory)
          tables).2 = tables := by
        simp only [KeyOperation.run, keysAppKeyAdd_failed failed]
      rw [same]
      exact SameView.refl tables
  | netKeyAdd netIdx key update memory =>
      by_cases updates : update = true ∧ (findNetKey netIdx tables.netKeys).isSome
      · rcases updates with ⟨rfl, isSome⟩
        rcases Option.isSome_iff_exists.mp isSome with ⟨netKey, found⟩
        rw [keysNetKeyAdd_update crypto key memory found, ← Bool.not_eq_true,
          deriveNetKey_succeeds_iff]
        constructor
        · intro unseen _ fails other isOther
          cases found.symm.trans isOther
          exact (unseen fails).leavesNoTrace found fails
        · intro clean fails
          exact ((clean rfl fails netKey found).sameCopy fails).sameView found
      · have noUpdate : update = false ∨ findNetKey netIdx tables.netKeys = none := by
          simpa only [not_and_or, Bool.not_eq_true, Option.isSome_eq_false_iff,
            Option.isNone_iff_eq_none] using updates
        apply iff_of_true
        · intro failed
          have same : (KeyOperation.run crypto (.netKeyAdd netIdx key update memory)
              tables).2 = tables := by
            simp only [KeyOperation.run, keysNetKeyAdd_failed noUpdate failed]
          rw [same]
          exact SameView.refl tables
        · intro isUpdate _ netKey found
          rcases noUpdate with isNew | missing
          · rw [isUpdate] at isNew
            cases isNew
          · rw [found] at missing
            cases missing

/-! ### The second phase -/

/-- A crypto that cannot derive beacon keys. -/
def noBeaconCrypto : KeyCrypto := { zeroCrypto with nkbk := fun _ => none }

/-- A key whose new copy is in use, behind a refresh that succeeded. -/
def refreshedTables : KeyTables where
  netKeys := [{ firstPhaseKey with phase := 2 }]
  appKeys := []

theorem failed_operation_seen :
    ¬∀ (crypto : KeyCrypto) (tables : KeyTables) (operation : KeyOperation),
      (operation.run crypto tables).1 = false →
        SameView tables (operation.run crypto tables).2 := by
  intro unseen
  have same := (unseen noBeaconCrypto refreshedTables (.netKeyAdd 0 3 true firstPhaseKey)
    rfl).netGetKey 0
  exact absurd same (by decide)

end Meshctl.Net
