import Meshctl.Db.Reading

/-! # Key lists over a restart

Indices are written in hexadecimal and read in decimal, and the local node is
read before any application key is known.
-/

namespace Meshctl.Db

open Net Text

/-! ## Reading a list back -/

section

variable {α : Type} [DecidableEq α]

/-- An entry that cannot be used, or is there already, is left out. -/
def addEntry (entry : Option α) (entries : List α) : List α :=
  match entry with
  | none => entries
  | some entry => if entries.contains entry then entries else entries ++ [entry]

/-- Make entries from numbers; at a number out of range the reading ends. -/
def readEntries (entry : Nat → Option α) : List α → List Nat → List α
  | entries, [] => entries
  | entries, number :: numbers =>
      if number ≤ 4095 then
        readEntries entry (addEntry (entry number) entries) numbers
      else entries

theorem prefix_addEntry (new : Option α) (entries : List α) :
    entries <+: addEntry new entries := by
  unfold addEntry
  split
  · exact List.prefix_refl entries
  · split
    · exact List.prefix_refl entries
    · exact List.prefix_append _ _

theorem length_addEntry_le (new : Option α) (entries : List α) :
    (addEntry new entries).length ≤ entries.length + 1 := by
  unfold addEntry
  split
  · exact Nat.le_succ _
  · split
    · exact Nat.le_succ _
    · simp

theorem prefix_readEntries (entry : Nat → Option α) (entries : List α)
    (numbers : List Nat) :
    entries <+: readEntries entry entries numbers := by
  induction numbers generalizing entries with
  | nil => exact List.prefix_refl entries
  | cons number numbers induction =>
      rw [readEntries]
      split
      · exact (prefix_addEntry _ _).trans (induction _)
      · exact List.prefix_refl entries

theorem length_readEntries_le (entry : Nat → Option α) (entries : List α)
    (numbers : List Nat) :
    (readEntries entry entries numbers).length ≤
      entries.length + numbers.length := by
  induction numbers generalizing entries with
  | nil => exact Nat.le_refl _
  | cons number numbers induction =>
      rw [readEntries, List.length_cons]
      have one := length_addEntry_le (entry number) entries
      split
      · have rest := induction (addEntry (entry number) entries)
        omega
      · omega

/-- A list is read back as it was exactly when every entry is made from its
number again and none occurs twice. -/
theorem readEntries_eq_iff (entry : Nat → Option α) (number : α → Nat)
    (entries stored : List α) :
    readEntries entry entries (stored.map number) = entries ++ stored ↔
      (∀ item ∈ stored, number item ≤ 4095 ∧ entry (number item) = some item) ∧
        stored.Nodup ∧ ∀ item ∈ stored, item ∉ entries := by
  induction stored generalizing entries with
  | nil => simp [readEntries]
  | cons item stored induction =>
      rw [List.map_cons, readEntries]
      by_cases inRange : number item ≤ 4095
      swap
      · simp [inRange]
      rw [if_pos inRange]
      by_cases added : addEntry (entry (number item)) entries = entries ++ [item]
      · have isItem : entry (number item) = some item ∧ item ∉ entries := by
          unfold addEntry at added
          split at added
          · simp at added
          · next new isNew =>
              split at added
              · simp at added
              · next absent =>
                  have same := List.append_cancel_left added
                  rw [List.singleton_inj.mp same] at isNew absent
                  exact ⟨isNew, by simpa using absent⟩
        have split : entries ++ item :: stored = entries ++ [item] ++ stored := by
          simp
        rw [added, split, induction]
        simp only [List.forall_mem_cons, inRange, isItem, List.nodup_cons,
          true_and, not_false_eq_true, List.mem_append, List.mem_singleton,
          not_or]
        constructor
        · rintro ⟨readable, nodup, fresh⟩
          exact ⟨readable, ⟨fun member => (fresh item member).2 rfl, nodup⟩,
            fun other member => (fresh other member).1⟩
        · rintro ⟨readable, ⟨absent, nodup⟩, fresh⟩
          exact ⟨readable, nodup, fun other member =>
            ⟨fresh other member, fun same => absent (same ▸ member)⟩⟩
      · constructor
        · intro same
          refine absurd ?_ added
          have before := prefix_readEntries entry
            (addEntry (entry (number item)) entries) (stored.map number)
          have bound := length_readEntries_le entry
            (addEntry (entry (number item)) entries) (stored.map number)
          rw [same] at before bound
          simp only [List.length_append, List.length_cons, List.length_map] at bound
          have longer := length_addEntry_le (entry (number item)) entries
          rw [List.append_cons] at before
          exact (List.prefix_of_prefix_length_le before
            (List.prefix_append (entries ++ [item]) stored)
            (by simp; omega)).eq_of_length (by simp; omega)
        · rintro ⟨readable, _, fresh⟩
          refine absurd ?_ added
          rw [(readable item List.mem_cons_self).2, addEntry, if_neg]
          simpa using fresh item List.mem_cons_self

end

/-! ## A stored list -/

/-- The number that is read for an index. -/
def storedNumber (idx : U16) : Nat := decimalPrefix idx.toNat

def storedIndices (idxs : List U16) : List Json :=
  idxs.map fun idx => Json.hex16 idx.toNat

theorem ofNat_storedNumber_eq_iff (idx : U16) :
    storedNumber idx ≤ 4095 ∧ BitVec.ofNat 16 (storedNumber idx) = idx ↔
      idx.toNat < 10 := by
  have spec := decimalPrefix_spec idx.isLt
  rw [← BitVec.toNat_inj, BitVec.toNat_ofNat, storedNumber,
    Nat.mod_eq_of_lt (lt_of_le_of_lt spec.1 idx.isLt), spec.2]
  constructor
  · exact And.right
  · intro small
    exact ⟨by omega, small⟩

/-- A function that adds keys to a node whose list is `write entries` makes the
list of the entries that can be read. -/
theorem parseNodeKeys_stored {α : Type} [DecidableEq α]
    (keyAdd : MeshNode → U16 → Option MeshNode) (write : List α → MeshNode)
    (entry : Nat → Option α)
    (adds : ∀ entries number, number ≤ 4095 →
      (keyAdd (write entries) (BitVec.ofNat 16 number)).getD (write entries) =
        write (addEntry (entry number) entries))
    (entries : List α) (idxs : List U16) :
    (parseNodeKeys keyAdd (write entries) (storedIndices idxs)).1 =
      write (readEntries entry entries (idxs.map storedNumber)) := by
  induction idxs generalizing entries with
  | nil => rfl
  | cons idx idxs induction =>
      rw [storedIndices, List.map_cons, List.map_cons, parseNodeKeys, readEntries]
      have pointer : (Json.hex16 idx.toNat).pointer =
          some (Json.hex16 idx.toNat) := rfl
      have inRange : keyIdxInRange (storedNumber idx : Int) ↔
          storedNumber idx ≤ 4095 := by
        unfold keyIdxInRange
        omega
      simp only [pointer, Json.getInt_hex16 idx.isLt]
      rw [← storedNumber]
      by_cases small : storedNumber idx ≤ 4095
      · rw [if_pos (inRange.mpr small), if_pos small, BitVec.ofInt_natCast,
          adds entries _ small]
        exact induction _
      · rw [if_neg (inRange.not.mpr small), if_neg small]

theorem parseNodeKeys_count {keyAdd : MeshNode → U16 → Option MeshNode}
    (node : MeshNode) (idxs : List U16) :
    (parseNodeKeys keyAdd node (storedIndices idxs)).2 ≠ 0 ↔
      ∃ idx rest, idxs = idx :: rest ∧ storedNumber idx ≤ 4095 := by
  cases idxs with
  | nil => simp [storedIndices, parseNodeKeys]
  | cons idx idxs =>
      have pointer : (Json.hex16 idx.toNat).pointer =
          some (Json.hex16 idx.toNat) := rfl
      have inRange : keyIdxInRange (decimalPrefix idx.toNat : Int) ↔
          decimalPrefix idx.toNat ≤ 4095 := by
        unfold keyIdxInRange
        omega
      rw [storedIndices, List.map_cons, parseNodeKeys]
      simp only [pointer, Json.getInt_hex16 idx.isLt, inRange, storedNumber]
      by_cases small : decimalPrefix idx.toNat ≤ 4095
      · rw [if_pos small]
        exact iff_of_true (Nat.succ_ne_zero _) ⟨idx, idxs, rfl, small⟩
      · rw [if_neg small]
        refine iff_of_false (fun nonzero => nonzero rfl) ?_
        rintro ⟨_, _, same, found⟩
        cases same
        exact small found

/-! ## Both lists of a node -/

/-- The entry that an index of an application key makes: its network key has to
be known and belong to the node. -/
def appEntry (appKeys : List MeshAppKey) (netKeys : List U16) (number : Nat) :
    Option U32 :=
  let idx := BitVec.ofNat 16 number
  let netIdx := keysAppKeyGetBound idx appKeys
  if netIdx = netIdxInvalid then none
  else if !netKeys.contains netIdx then none
  else some (MeshNode.packAppKey netIdx idx)

/-- The low half of an entry is the index of the application key. -/
def appIndex (entry : U32) : U16 := entry.setWidth 16

@[simp] theorem appIndex_packAppKey (netIdx appIdx : U16) :
    appIndex (MeshNode.packAppKey netIdx appIdx) = appIdx := by
  apply BitVec.eq_of_toNat_eq
  rw [appIndex, MeshNode.packAppKey, BitVec.toNat_setWidth, BitVec.toNat_add,
    BitVec.toNat_shiftLeft, BitVec.toNat_setWidth, BitVec.toNat_setWidth]
  have net := netIdx.isLt
  have app := appIdx.isLt
  rw [Nat.shiftLeft_eq]
  omega

/-- An entry belongs to the network key that its application key is bound to,
which is one of the node's. -/
def BoundTo (appKeys : List MeshAppKey) (netKeys : List U16) (entry : U32) :
    Prop :=
  let netIdx := keysAppKeyGetBound (appIndex entry) appKeys
  netIdx ≠ netIdxInvalid ∧ netIdx ∈ netKeys ∧
    MeshNode.packAppKey netIdx (appIndex entry) = entry

instance (appKeys : List MeshAppKey) (netKeys : List U16) (entry : U32) :
    Decidable (BoundTo appKeys netKeys entry) :=
  inferInstanceAs (Decidable (_ ∧ _ ∧ _))

theorem appEntry_eq_iff (appKeys : List MeshAppKey) (netKeys : List U16)
    (entry : U32) :
    storedNumber (appIndex entry) ≤ 4095 ∧
        appEntry appKeys netKeys (storedNumber (appIndex entry)) = some entry ↔
      (appIndex entry).toNat < 10 ∧ BoundTo appKeys netKeys entry := by
  have index := ofNat_storedNumber_eq_iff (appIndex entry)
  constructor
  · rintro ⟨inRange, isEntry⟩
    unfold appEntry at isEntry
    simp only at isEntry
    split at isEntry
    · cases isEntry
    · next known =>
        split at isEntry
        · cases isEntry
        · next owned =>
            have packed := Option.some.inj isEntry
            have same : BitVec.ofNat 16 (storedNumber (appIndex entry)) =
                appIndex entry := by
              rw [← appIndex_packAppKey (keysAppKeyGetBound (BitVec.ofNat 16
                (storedNumber (appIndex entry))) appKeys)
                (BitVec.ofNat 16 (storedNumber (appIndex entry))), packed]
            rw [same] at known owned packed
            exact ⟨index.mp ⟨inRange, same⟩, known, by simpa using owned, packed⟩
  · rintro ⟨small, known, owned, packed⟩
    rcases index.mpr small with ⟨inRange, same⟩
    refine ⟨inRange, ?_⟩
    rw [appEntry, same]
    simp only [known, if_false]
    rw [if_neg (by simpa using owned), packed]

/-- The lists of a node that come back from their stored form. -/
structure KeyListsReadable (appKeys : List MeshAppKey) (node : MeshNode) :
    Prop where
  someNetKey : node.netKeys ≠ []
  netKeysDistinct : node.netKeys.Nodup
  netKeysSmall : ∀ idx ∈ node.netKeys, idx.toNat < 10
  appKeysDistinct : node.appKeys.Nodup
  appKeysSmall : ∀ entry ∈ node.appKeys, (appIndex entry).toNat < 10
  appKeysBound : ∀ entry ∈ node.appKeys, BoundTo appKeys node.netKeys entry

-- The quantifiers go over the lists here, not over all numbers with 16 bits.
instance (appKeys : List MeshAppKey) (node : MeshNode) :
    Decidable (KeyListsReadable appKeys node) :=
  decidable_of_iff
    (node.netKeys ≠ [] ∧ node.netKeys.Nodup ∧
      node.netKeys.all (fun idx => idx.toNat < 10) ∧ node.appKeys.Nodup ∧
      node.appKeys.all (fun entry => (appIndex entry).toNat < 10 ∧
        BoundTo appKeys node.netKeys entry))
    (by
      simp only [List.all_eq_true, decide_eq_true_eq]
      constructor
      · rintro ⟨some, netDistinct, netSmall, appDistinct, each⟩
        exact ⟨some, netDistinct, netSmall, appDistinct,
          fun entry member => (each entry member).1,
          fun entry member => (each entry member).2⟩
      · intro readable
        exact ⟨readable.1, readable.2, readable.3, readable.4,
          fun entry member => ⟨readable.5 entry member, readable.6 entry member⟩⟩)

def SameKeyLists (first second : MeshNode) : Prop :=
  first.netKeys = second.netKeys ∧ first.appKeys = second.appKeys

/-- What the writers leave in a configuration for the list of network keys. Only
for a new node an empty list is stored. -/
def StoresNetKeys (node : MeshNode) (config : Json) : Prop :=
  config.get "netKeys" = some (.array (storedIndices node.netKeys)) ∨
    node.netKeys = [] ∧ config.get "netKeys" = none

def StoresAppKeys (node : MeshNode) (config : Json) : Prop :=
  config.get "appKeys" =
    if node.appKeys = [] then none
    else some (.array (storedIndices (node.appKeys.map appIndex)))

structure StoresKeyLists (node : MeshNode) (config : Json) : Prop where
  netKeys : StoresNetKeys node config
  appKeys : StoresAppKeys node config

theorem putUint16List_netKeys (idxs : List U16) :
    putUint16List (idxs.map (·.setWidth 32)) = .array (storedIndices idxs) := by
  rw [putUint16List, storedIndices, List.map_map]
  congr 1
  refine List.map_congr_left fun idx _ => ?_
  rw [Function.comp_apply, BitVec.setWidth_setWidth_of_le _ (by decide),
    BitVec.setWidth_eq]

theorem putUint16List_appKeys (entries : List U32) :
    putUint16List entries = .array (storedIndices (entries.map appIndex)) := by
  rw [putUint16List, storedIndices, List.map_map]
  rfl

theorem readNetKeys_eq (start : MeshNode) (idxs : List U16) :
    (parseNodeKeys MeshNode.netKeyAdd { start with netKeys := [] }
      (storedIndices idxs)).1 =
    { start with
      netKeys := readEntries (fun number => some (BitVec.ofNat 16 number)) []
        (idxs.map storedNumber) } := by
  refine parseNodeKeys_stored MeshNode.netKeyAdd
    (fun netKeys => { start with netKeys }) _ ?_ [] idxs
  intro entries number inRange
  unfold MeshNode.netKeyAdd addEntry
  split <;> simp_all

theorem readAppKeys_eq (appKeys : List MeshAppKey) (start : MeshNode)
    (entries : List U32) :
    (parseNodeKeys (fun node => node.appKeyAdd appKeys)
      { start with appKeys := [] } (storedIndices (entries.map appIndex))).1 =
    { start with
      appKeys := readEntries (appEntry appKeys start.netKeys) []
        (entries.map fun entry => storedNumber (appIndex entry)) } := by
  have read := parseNodeKeys_stored (fun node => node.appKeyAdd appKeys)
    (fun appKeys => { start with appKeys }) (appEntry appKeys start.netKeys) ?_ []
    (entries.map appIndex)
  · rw [List.map_map] at read
    refine read.trans ?_
    rfl
  · intro entries number inRange
    unfold MeshNode.appKeyAdd addEntry appEntry
    simp only
    split
    · rfl
    · split
      · rfl
      · split <;> simp_all

theorem parseAppKeys_stored (appKeys : List MeshAppKey) {start node : MeshNode}
    {config : Json} (noAppKeys : start.appKeys = [])
    (stores : StoresAppKeys node config) :
    parseIfPresent (parseAppKeys appKeys) start (config.get "appKeys") =
      some { start with
        appKeys := readEntries (appEntry appKeys start.netKeys) []
          (node.appKeys.map fun entry => storedNumber (appIndex entry)) } := by
  rw [stores]
  have cleared : start = { start with appKeys := [] } := by rw [← noAppKeys]
  split
  · next empty =>
      rw [empty]
      exact congrArg some cleared
  · rw [parseIfPresent, parseAppKeys]
    simp only [Json.items, Option.bind_eq_bind, Option.bind_some]
    rw [← readAppKeys_eq, ← cleared]

/-- What is read from stored lists: nothing when no network key is counted. -/
theorem parseNodeConfiguration_stored (appKeys : List MeshAppKey)
    {start node : MeshNode} {config : Json}
    (noNetKeys : start.netKeys = []) (noAppKeys : start.appKeys = [])
    (stores : StoresAppKeys node config)
    (stored : config.get "netKeys" = some (.array (storedIndices node.netKeys)))
    (counted : (parseNodeKeys MeshNode.netKeyAdd start
      (storedIndices node.netKeys)).2 ≠ 0) :
    ∃ loaded, parseNodeConfiguration appKeys start config = some loaded ∧
      loaded.netKeys = readEntries (fun number => some (BitVec.ofNat 16 number)) []
        (node.netKeys.map storedNumber) ∧
      loaded.appKeys = readEntries (appEntry appKeys loaded.netKeys) []
        (node.appKeys.map fun entry => storedNumber (appIndex entry)) := by
  have cleared : start = { start with netKeys := [] } := by rw [← noNetKeys]
  have read := readNetKeys_eq start node.netKeys
  rw [← cleared] at read
  unfold parseNodeConfiguration
  rw [stored]
  simp only [Option.bind_eq_bind, Option.bind_some, Json.items]
  rw [if_neg counted, read, parseAppKeys_stored appKeys _ stores]
  · cases config.get "defaultTTL" with
    | none => exact ⟨_, rfl, rfl, rfl⟩
    | some value => exact ⟨_, rfl, rfl, rfl⟩
  · exact noAppKeys

/-- The lists of a configuration are read as they were exactly when they are
readable. -/
theorem parseNodeConfiguration_iff (appKeys : List MeshAppKey)
    {start node : MeshNode} {config : Json}
    (noNetKeys : start.netKeys = []) (noAppKeys : start.appKeys = [])
    (stores : StoresKeyLists node config) :
    (∃ loaded, parseNodeConfiguration appKeys start config = some loaded ∧
      SameKeyLists loaded node) ↔ KeyListsReadable appKeys node := by
  have netKeys := readEntries_eq_iff
    (fun number => some (BitVec.ofNat 16 number)) storedNumber [] node.netKeys
  have entries := readEntries_eq_iff (appEntry appKeys node.netKeys)
    (fun entry => storedNumber (appIndex entry)) [] node.appKeys
  simp only [List.nil_append, Option.some.injEq, ofNat_storedNumber_eq_iff,
    appEntry_eq_iff, List.not_mem_nil, not_false_eq_true, implies_true, and_true]
    at netKeys entries
  rcases stores.netKeys with stored | ⟨empty, missing⟩
  swap
  · constructor
    · rintro ⟨loaded, isLoaded, _⟩
      unfold parseNodeConfiguration at isLoaded
      rw [missing] at isLoaded
      cases isLoaded
    · intro readable
      exact absurd empty readable.someNetKey
  constructor
  · rintro ⟨loaded, isLoaded, sameNetKeys, sameAppKeys⟩
    have counted : (parseNodeKeys MeshNode.netKeyAdd start
        (storedIndices node.netKeys)).2 ≠ 0 := by
      intro none
      unfold parseNodeConfiguration at isLoaded
      rw [stored] at isLoaded
      simp only [Option.bind_eq_bind, Option.bind_some, Json.items] at isLoaded
      rw [if_pos none] at isLoaded
      cases isLoaded
    rcases parseNodeConfiguration_stored appKeys noNetKeys noAppKeys
      stores.appKeys stored counted with ⟨other, isOther, readNets, readApps⟩
    cases isLoaded.symm.trans isOther
    rw [sameNetKeys] at readNets readApps
    rw [sameAppKeys] at readApps
    rcases netKeys.mp readNets.symm with ⟨netsSmall, netsDistinct⟩
    rcases entries.mp readApps.symm with ⟨apps, appsDistinct⟩
    refine ⟨?_, netsDistinct, netsSmall, appsDistinct,
      fun entry member => (apps entry member).1,
      fun entry member => (apps entry member).2⟩
    rcases (parseNodeKeys_count start node.netKeys).mp counted with
      ⟨idx, rest, isCons, _⟩
    rw [isCons]
    exact List.cons_ne_nil _ _
  · intro readable
    have counted : (parseNodeKeys MeshNode.netKeyAdd start
        (storedIndices node.netKeys)).2 ≠ 0 := by
      rcases List.exists_cons_of_ne_nil readable.someNetKey with ⟨idx, rest, isCons⟩
      refine (parseNodeKeys_count start node.netKeys).mpr ⟨idx, rest, isCons, ?_⟩
      have small := readable.netKeysSmall idx (by simp [isCons])
      exact ((ofNat_storedNumber_eq_iff idx).mpr small).1
    rcases parseNodeConfiguration_stored appKeys noNetKeys noAppKeys
      stores.appKeys stored counted with ⟨loaded, isLoaded, readNets, readApps⟩
    have sameNetKeys : loaded.netKeys = node.netKeys := by
      rw [readNets]
      exact netKeys.mpr ⟨readable.netKeysSmall, readable.netKeysDistinct⟩
    refine ⟨loaded, isLoaded, sameNetKeys, ?_⟩
    rw [readApps, sameNetKeys]
    exact entries.mpr ⟨fun entry member =>
      ⟨readable.appKeysSmall entry member, readable.appKeysBound entry member⟩,
      readable.appKeysDistinct⟩

end Meshctl.Db
