import Meshctl.Db.Load
import Meshctl.Node.ConfigClient

/-! # Messages of the configuration client

The commands that put key indices and publications into messages, beside the receive
functions that take these out again.
-/

namespace Meshctl.Node

open Bytes Net

/-! ## Writing a message -/

def opAppKeyDelete : U32 := 0x8000

def defaultTtl : Byte := 0xff

/-- `put_le16` -/
def le16 (value : U16) : List Byte :=
  [value.extractLsb' 0 8, value.extractLsb' 8 8]

theorem getLe16_of_le16 {data : List Byte} {offset : Nat} {value : U16}
    (low : get data offset = value.extractLsb' 0 8)
    (high : get data (offset + 1) = value.extractLsb' 8 8) :
    getLe16 data offset = value := by
  rw [getLe16, low, high]
  exact append_halves 8 value

def meshOpcodeSet (opcode : U32) : List Byte :=
  if opcode.toNat ≤ 0x7e then
    [opcode.setWidth 8]
  else if 0x8000 ≤ opcode.toNat ∧ opcode.toNat ≤ 0xbfff then
    be16 (opcode.setWidth 16)
  else if 0xc00000 ≤ opcode.toNat ∧ opcode.toNat ≤ 0xffffff then
    (opcode >>> 16).setWidth 8 :: be16 (opcode.setWidth 16)
  else
    []

/-! ## Key indices -/

/-- The three bytes for two indices. -/
def packKeyIndices (netIdx appIdx : U16) : List Byte :=
  [(netIdx &&& 0xf).setWidth 8,
    (((netIdx >>> 8) &&& 0xf) ||| ((appIdx <<< 4) &&& 0xf0)).setWidth 8,
    (appIdx >>> 4).setWidth 8]

/-- The message of `cmd_app_key`, for a target that is a known node. -/
def cmdAppKey (opcode : U32) (appKeys : List MeshAppKey) (parms : List U32) :
    Option (List Byte) :=
  match parms with
  | [parm] =>
      let appIdx : U16 := parm.setWidth 16
      let netIdx := keysAppKeyGetBound appIdx appKeys
      let msg := meshOpcodeSet opcode ++ packKeyIndices netIdx appIdx
      if netIdx = netIdxInvalid then none
      else if opcode ≠ opAppKeyDelete then
        (findAppKey appIdx appKeys).map fun appKey =>
          msg ++ Db.keyBytes appKey.current.key
      else some msg
  | _ => none

/-- Behind the opcode are the packed indices of the key and of its network key. -/
theorem cmdAppKey_indices {opcode : U32} {appKeys : List MeshAppKey} {parm : U32}
    {msg : List Byte} (sent : cmdAppKey opcode appKeys [parm] = some msg) :
    (msg.drop (meshOpcodeSet opcode).length).take 3 =
      packKeyIndices (keysAppKeyGetBound (parm.setWidth 16) appKeys)
        (parm.setWidth 16) := by
  simp only [cmdAppKey] at sent
  split at sent
  · cases sent
  · split at sent
    · rcases Option.map_eq_some_iff.mp sent with ⟨appKey, _, rfl⟩
      rw [List.append_assoc, List.drop_left]
      rfl
    · cases sent
      rw [List.drop_left]
      rfl

/-- The indices that `client_msg_recvd` takes from an application key status. -/
def appKeyStatusIndices (data : List Byte) : U16 × U16 :=
  (getLe16 data 1 &&& 0xfff, getLe16 data 2 >>> 4)

theorem clientAction_keyRefused {data : List Byte} {src : U16} {isLocal : Bool}
    (refused : keyRefused (get data 0) = true) :
    clientAction opAppKeyStatus data 4 src isLocal =
      some (.change (.appKeyDelete (appKeyStatusIndices data).1
        (appKeyStatusIndices data).2)) := by
  rw [clientAction_appKeyStatus, refused]
  rfl

/-- The two bytes that a network key index is taken from. -/
theorem netIdx_of_packed (netIdx appIdx : U16) :
    (((((netIdx >>> 8) &&& 0xf) ||| ((appIdx <<< 4) &&& 0xf0)).setWidth 8 : Byte) ++
        ((netIdx &&& 0xf).setWidth 8 : Byte)) &&& 0xfff = netIdx &&& 0xf0f := by
  apply BitVec.eq_of_getLsbD_eq
  intro index inRange
  simp only [BitVec.getLsbD_and, BitVec.getLsbD_append, BitVec.getLsbD_setWidth,
    BitVec.getLsbD_or, BitVec.getLsbD_ushiftRight, BitVec.getLsbD_shiftLeft]
  interval_cases index <;> simp

/-- The two bytes that an application key index is taken from. -/
theorem appIdx_of_packed (netIdx appIdx : U16) :
    (((appIdx >>> 4).setWidth 8 : Byte) ++
        ((((netIdx >>> 8) &&& 0xf) ||| ((appIdx <<< 4) &&& 0xf0)).setWidth 8 : Byte)) >>> 4 =
      appIdx &&& 0xfff := by
  apply BitVec.eq_of_getLsbD_eq
  intro index inRange
  simp only [BitVec.getLsbD_and, BitVec.getLsbD_append, BitVec.getLsbD_setWidth,
    BitVec.getLsbD_or, BitVec.getLsbD_ushiftRight, BitVec.getLsbD_shiftLeft]
  interval_cases index <;> simp

/-- Four bits of the network key index are lost. -/
theorem appKeyStatusIndices_packed (status : Byte) (netIdx appIdx : U16) :
    appKeyStatusIndices (status :: packKeyIndices netIdx appIdx) =
      (netIdx &&& 0xf0f, appIdx &&& 0xfff) :=
  Prod.ext (netIdx_of_packed netIdx appIdx) (appIdx_of_packed netIdx appIdx)

theorem and_0xfff_of_le {index : U16} (small : index.toNat ≤ 4095) :
    index &&& 0xfff = index := by
  apply BitVec.eq_of_toNat_eq
  change index.toNat &&& (2 ^ 12 - 1) = index.toNat
  rw [Nat.and_two_pow_sub_one_eq_mod]
  omega

/-- Packed key indices are taken out again as they were, if and only if the bits 4 to 7
of the network key index are 0. -/
theorem packed_indices_iff (status : Byte) {netIdx appIdx : U16}
    (netSmall : netIdx.toNat ≤ 4095) (appSmall : appIdx.toNat ≤ 4095) :
    appKeyStatusIndices (status :: packKeyIndices netIdx appIdx) = (netIdx, appIdx) ↔
      netIdx &&& 0xf0 = 0 := by
  rw [appKeyStatusIndices_packed, Prod.mk.injEq, and_iff_left (and_0xfff_of_le appSmall)]
  have parts : netIdx = netIdx &&& 0xf0f ||| netIdx &&& 0xf0 := by
    rw [← BitVec.and_or_distrib_left]
    exact (and_0xfff_of_le netSmall).symm
  constructor
  · intro same
    rw [← same, BitVec.and_assoc]
    exact BitVec.and_zero
  · intro lost
    rw [lost] at parts
    exact (parts.trans BitVec.or_zero).symm

theorem packed_indices_small :
    appKeyStatusIndices (0 :: packKeyIndices 5 6) = (5, 6) :=
  (packed_indices_iff 0 (by decide) (by decide)).mpr (by decide)

theorem indices_not_always_packed :
    ¬∀ (status : Byte) (netIdx appIdx : U16), netIdx.toNat ≤ 4095 →
      appIdx.toNat ≤ 4095 →
      appKeyStatusIndices (status :: packKeyIndices netIdx appIdx) =
        (netIdx, appIdx) := by
  intro packed
  exact absurd (packed 0 0x10 0 (by decide) (by decide)) (by decide)

/-! ## Publications -/

/-- The message of `cmd_pub_set`; the parameters are the hexadecimal arguments. -/
def cmdPubSet (parms : List U32) : Option (List Byte) :=
  let parm (index : Nat) : U32 := parms.getD index 0xffffffff
  let parmLe16 (index : Nat) : List Byte := le16 ((parm index).setWidth 16)
  if parms.length ≠ 6 ∧ parms.length ≠ 7 then none
  else
    some (meshOpcodeSet opConfigModelPubSet ++
      parmLe16 0 ++ parmLe16 1 ++ parmLe16 2 ++
      [defaultTtl, (parm 3).setWidth 8, (parm 4).setWidth 8] ++
      if parms.length = 7 then parmLe16 6 ++ parmLe16 5 else parmLe16 5)

/-- What `server_msg_recvd` takes from a publication request. -/
structure PubSetRequest where
  eleAddr : U16
  modId : U32
  pub : Db.MeshPublication
deriving DecidableEq

def decodePubSet (data : List Byte) (len : U16) : Option PubSetRequest :=
  if len ≠ 11 ∧ len ≠ 13 then none
  else
    let modId : U32 := (getLe16 data 9).setWidth 32
    some
      { eleAddr := getLe16 data 0
        modId :=
          if len = 14 then modId <<< 16 ||| (getLe16 data 11).setWidth 32
          else modId ||| 0xffff0000
        pub := getPublication data 2 }

def serverPubSet (data : List Byte) (len : U16) : Option PubSetRequest :=
  match meshOpcodeGet data len with
  | none => none
  | some (opcode, n) =>
      if opcode &&& ~~~opUnreliable = opConfigModelPubSet then
        decodePubSet (data.drop n) (len - BitVec.ofNat 16 n)
      else none

/-- The local node is configured with what is taken from the request. -/
theorem serverMsgRecvd_pubSet {World : Type*} {behaviour : Behaviour World}
    {store : Store World} {src : U16} {data : List Byte} {len : U16} {node : MeshNode}
    {request : PubSetRequest} (isLocal : store.table.localRecord = some node)
    (decoded : serverPubSet data len = some request) :
    serverMsgRecvd behaviour src data len store =
      (true, behaviour.configure (.modelPub
        ((request.eleAddr - node.primary).setWidth 8) request.modId request.pub)
        node.ref store) := by
  unfold serverPubSet at decoded
  split at decoded
  · cases decoded
  · next opcode n isOpcode =>
      split at decoded
      · next isPubSet =>
          unfold decodePubSet at decoded
          split at decoded
          · cases decoded
          · next lengths =>
              cases decoded
              have never : len - BitVec.ofNat 16 n ≠ 14 := fun same =>
                lengths ⟨same ▸ by decide, same ▸ by decide⟩
              simp only [serverMsgRecvd, isOpcode, isLocal, isPubSet, if_neg lengths,
                if_neg never, printModId, Bool.false_eq_true, if_false]
              rw [BitVec.or_comm (BitVec.setWidth 32 _)]
              rfl
      · cases decoded

/-- A model of the Bluetooth SIG, or of a company. -/
inductive ModelId where
  | sig (model : U16)
  | vendor (company model : U16)

namespace ModelId

/-- The arguments for a model: the id of a company stands last. -/
def parms : ModelId → List U32
  | sig model => [model.setWidth 32]
  | vendor company model => [model.setWidth 32, company.setWidth 32]

/-- How a model is written into messages. -/
def bytes : ModelId → List Byte
  | sig model => le16 model
  | vendor company model => le16 company ++ le16 model

def isVendor : ModelId → Bool
  | sig _ => false
  | vendor _ _ => true

/-- The id that a node keeps a model under. -/
def id : ModelId → U32
  | sig model => 0xffff0000 ||| model.setWidth 32
  | vendor company model => company.setWidth 32 <<< 16 ||| model.setWidth 32

theorem printModId_bytes (model : ModelId) :
    printModId model.bytes 0 model.isVendor = model.id := by
  cases model with
  | sig model =>
      have read : getLe16 (le16 model) 0 = model := getLe16_of_le16 rfl rfl
      rw [bytes, isVendor, printModId, read]
      rfl
  | vendor company model =>
      have first : getLe16 (le16 company ++ le16 model) 0 = company :=
        getLe16_of_le16 rfl rfl
      have second : getLe16 (le16 company ++ le16 model) 2 = model :=
        getLe16_of_le16 rfl rfl
      rw [bytes, isVendor, printModId, first, second]
      rfl

end ModelId

section Publications

variable (eleAddr pubAddr appIdx : U16) (period retransmit : Byte) (model : ModelId)

def pubSetParms : List U32 :=
  [eleAddr.setWidth 32, pubAddr.setWidth 32, appIdx.setWidth 32, period.setWidth 32,
    retransmit.setWidth 32] ++ model.parms

/-- The request that the arguments stand for. -/
def pubSetRequest (modId : U32) : PubSetRequest where
  eleAddr := eleAddr
  modId := modId
  pub := { appIdx, addr16 := pubAddr, ttl := defaultTtl, period, retransmit }

/-- The request is taken from the message as it was put into it. -/
def PubSetDecodes : Prop :=
  ∃ msg, cmdPubSet (pubSetParms eleAddr pubAddr appIdx period retransmit model) =
      some msg ∧
    serverPubSet msg (BitVec.ofNat 16 msg.length) =
      some (pubSetRequest eleAddr pubAddr appIdx period retransmit model.id)

def pubSetMessage : List Byte :=
  0x03 :: le16 eleAddr ++ le16 pubAddr ++ le16 appIdx ++
    [defaultTtl, period, retransmit] ++ model.bytes

theorem cmdPubSet_pubSetParms :
    cmdPubSet (pubSetParms eleAddr pubAddr appIdx period retransmit model) =
      some (pubSetMessage eleAddr pubAddr appIdx period retransmit model) := by
  have parm16 (value : U16) : (value.setWidth 32).setWidth 16 = value := by simp
  have parm8 (value : Byte) : (value.setWidth 32).setWidth 8 = value := by simp
  cases model with
  | sig model =>
      change some (_ ++ le16 ((eleAddr.setWidth 32).setWidth 16) ++
        le16 ((pubAddr.setWidth 32).setWidth 16) ++ le16 ((appIdx.setWidth 32).setWidth 16) ++
        [_, (period.setWidth 32).setWidth 8, (retransmit.setWidth 32).setWidth 8] ++
        le16 ((model.setWidth 32).setWidth 16)) = _
      simp only [parm16, parm8]
      rfl
  | vendor company model =>
      change some (_ ++ le16 ((eleAddr.setWidth 32).setWidth 16) ++
        le16 ((pubAddr.setWidth 32).setWidth 16) ++ le16 ((appIdx.setWidth 32).setWidth 16) ++
        [_, (period.setWidth 32).setWidth 8, (retransmit.setWidth 32).setWidth 8] ++
        (le16 ((company.setWidth 32).setWidth 16) ++
          le16 ((model.setWidth 32).setWidth 16))) = _
      simp only [parm16, parm8]
      rfl

/-- The id that the server takes a model for: the company of a vendor model passes for a
SIG model. -/
def ModelId.serverId : ModelId → U32
  | sig model => model.setWidth 32 ||| 0xffff0000
  | vendor company _ => company.setWidth 32 ||| 0xffff0000

theorem serverPubSet_pubSetMessage :
    serverPubSet (pubSetMessage eleAddr pubAddr appIdx period retransmit model)
        (BitVec.ofNat 16
          (pubSetMessage eleAddr pubAddr appIdx period retransmit model).length) =
      some (pubSetRequest eleAddr pubAddr appIdx period retransmit model.serverId) := by
  have isPubSet (len : U16) (notEmpty : 1 ≤ len.toNat) :
      serverPubSet (pubSetMessage eleAddr pubAddr appIdx period retransmit model) len =
        decodePubSet ((pubSetMessage eleAddr pubAddr appIdx period retransmit model).drop 1)
          (len - 1) := by
    have isOpcode : meshOpcodeGet
        (pubSetMessage eleAddr pubAddr appIdx period retransmit model) len =
          some (0x03, 1) := by
      have first : get (pubSetMessage eleAddr pubAddr appIdx period retransmit model) 0 =
          0x03 := rfl
      rw [meshOpcodeGet, first, if_neg (not_lt.mpr notEmpty)]
      rfl
    unfold serverPubSet
    rw [isOpcode]
    rfl
  let data := (pubSetMessage eleAddr pubAddr appIdx period retransmit model).drop 1
  have element : getLe16 data 0 = eleAddr := getLe16_of_le16 rfl rfl
  have pub : getPublication data 2 =
      { appIdx, addr16 := pubAddr, ttl := defaultTtl, period, retransmit } := by
    have address : getLe16 data 2 = pubAddr := getLe16_of_le16 rfl rfl
    have index : getLe16 data 4 = appIdx := getLe16_of_le16 rfl rfl
    rw [getPublication, address, index]
    rfl
  cases model with
  | sig model =>
      have modId : getLe16 data 9 = model := getLe16_of_le16 rfl rfl
      have decoded : decodePubSet data 11 = some
          { eleAddr := getLe16 data 0
            modId := (getLe16 data 9).setWidth 32 ||| 0xffff0000
            pub := getPublication data 2 } := rfl
      refine (isPubSet 12 (by decide)).trans (decoded.trans ?_)
      rw [element, modId, pub]
      rfl
  | vendor company model =>
      have modId : getLe16 data 9 = company := getLe16_of_le16 rfl rfl
      have decoded : decodePubSet data 13 = some
          { eleAddr := getLe16 data 0
            modId := (getLe16 data 9).setWidth 32 ||| 0xffff0000
            pub := getPublication data 2 } := rfl
      refine (isPubSet 14 (by decide)).trans (decoded.trans ?_)
      rw [element, modId, pub]
      rfl

theorem toNat_halves (high low : U16) :
    (high.setWidth 32 <<< 16 ||| low.setWidth 32 : U32).toNat =
      high.toNat * 65536 + low.toNat := by
  have highBound := high.isLt
  have shifted : (high.setWidth 32 <<< 16 : U32).toNat = high.toNat <<< 16 := by
    rw [BitVec.toNat_shiftLeft, BitVec.toNat_setWidth_of_le (by decide),
      Nat.shiftLeft_eq]
    omega
  rw [BitVec.toNat_or, shifted, BitVec.toNat_setWidth_of_le (by decide),
    ← Nat.shiftLeft_add_eq_or_of_lt low.isLt, Nat.shiftLeft_eq]

theorem ModelId.serverId_eq_iff :
    model.serverId = model.id ↔
      ∀ company number, model = .vendor company number →
        company = 0xffff ∧ number = 0xffff := by
  cases model with
  | sig model =>
      refine iff_of_true (BitVec.or_comm _ _) ?_
      intro company number same
      cases same
  | vendor company model =>
      simp only [vendor.injEq, and_imp]
      constructor
      · intro same other number isCompany isModel
        subst isCompany isModel
        have taken : (vendor company model).serverId =
            (0xffff : U16).setWidth 32 <<< 16 ||| company.setWidth 32 :=
          BitVec.or_comm _ _
        have values := congrArg BitVec.toNat (taken.symm.trans same)
        rw [id, toNat_halves, toNat_halves] at values
        change 65535 * 65536 + company.toNat = _ at values
        have companyBound := company.isLt
        have modelBound := model.isLt
        exact ⟨BitVec.eq_of_toNat_eq (show company.toNat = 65535 by omega),
          BitVec.eq_of_toNat_eq (show model.toNat = 65535 by omega)⟩
      · intro last
        rcases last company model rfl rfl with ⟨isCompany, isModel⟩
        rw [serverId, id, isCompany, isModel]
        rfl

theorem pubSetDecodes_iff :
    PubSetDecodes eleAddr pubAddr appIdx period retransmit model ↔
      model.serverId = model.id := by
  unfold PubSetDecodes
  rw [cmdPubSet_pubSetParms]
  simp only [Option.some_inj, exists_eq_left', serverPubSet_pubSetMessage]
  constructor
  · exact congrArg PubSetRequest.modId
  · intro same
    rw [same]

/-- A publication is taken from its request as it was put there, if and only if its model
is not one of a company, up to the last model of company `ffff`. -/
theorem publication_decodes_iff :
    PubSetDecodes eleAddr pubAddr appIdx period retransmit model ↔
      ∀ company number, model = .vendor company number →
        company = 0xffff ∧ number = 0xffff := by
  rw [pubSetDecodes_iff, ModelId.serverId_eq_iff]

end Publications

theorem publication_not_always_decodes :
    ¬∀ (eleAddr pubAddr appIdx : U16) (period retransmit : Byte) (model : ModelId),
      PubSetDecodes eleAddr pubAddr appIdx period retransmit model := by
  intro decodes
  have same := (pubSetDecodes_iff ..).mp (decodes 0x0100 0xc000 0 0x45 0x21
    (.vendor 0x05f1 0x0001))
  exact absurd same (by decide)

end Meshctl.Node
