import Meshctl.Crypto.Application
import Meshctl.Net.Decode
import Meshctl.Net.Reassembly

/-! # Decrypting access messages

`msg_rxed` and what it calls. Lengths carry the subtractions they were computed
with, and each function notes the subtractions whose results it uses.
-/

namespace Meshctl.Net

open Bytes Crypto

/-! ## Lengths -/

structure Subtraction where
  minuend : Nat
  subtrahend : Nat
deriving DecidableEq

/-- The result does not wrap below zero. -/
def Subtraction.Fits (use : Subtraction) : Prop := use.subtrahend ≤ use.minuend

def AllFit (uses : List Subtraction) : Prop := ∀ use ∈ uses, use.Fits

@[simp] theorem allFit_nil : AllFit [] := fun _ absurd => (by cases absurd)

@[simp] theorem allFit_cons {use : Subtraction} {uses : List Subtraction} :
    AllFit (use :: uses) ↔ use.subtrahend ≤ use.minuend ∧ AllFit uses :=
  List.forall_mem_cons

@[simp] theorem allFit_append {first second : List Subtraction} :
    AllFit (first ++ second) ↔ AllFit first ∧ AllFit second :=
  List.forall_mem_append

/-- A length and what was subtracted to get it. -/
structure Length where
  value : U16
  taken : List Subtraction

def Length.sub (len : Length) (size : Nat) : Length where
  value := len.value - BitVec.ofNat 16 size
  taken := len.taken ++ [⟨len.value.toNat, size⟩]

/-- `mesh_crypto_aes_ccm_decrypt` compares the length it is given before it
subtracts the size of the MIC. -/
def ccmUses (len : Length) (micSize : Nat) : List Subtraction :=
  len.taken ++
    if len.value.toNat < 5 then [] else [⟨len.value.toNat, micSize⟩]

/-! ## Decryption -/

/-- A message for the upper layer of a node. -/
structure DeliveredAccess where
  src : U16
  dst : U32
  ivIndex : U32
  seqNum : U32
  appIdx : U16
  data : List Byte
  len : U16

/-- `node_local_data_handler` and everything behind it never touch the messages
that are being received. -/
structure RxEnv extends DecodeEnv where
  net : NetEnv
  deliver : DeliveredAccess → NetState → NetState
  keepsSarIn : ∀ access st, (deliver access st).sarIn = st.sarIn

structure Decrypted where
  result : Bool
  out : List Byte
  uses : List Subtraction

/-- What is decrypted, but for the key. -/
structure AccessPdu where
  nonce : List Byte
  aad : Option Key
  netIdx : U16
  akfAid : Byte
  szmic : Bool
  trans : List Byte
  len : Length

namespace AccessPdu

variable (pdu : AccessPdu)

def micSize : Nat := if pdu.szmic then 8 else 4

def decryptUses : List Subtraction := ccmUses pdu.len pdu.micSize

/-- The length of a decrypted message. -/
def msgLen : Length := pdu.len.sub pdu.micSize

end AccessPdu

section Decrypt

variable (env : RxEnv) (pdu : AccessPdu)

def decryptWith (key : Key) (out : List Byte) : Decrypted :=
  let answer := aesCcmDecrypt (env.aes key) (.apart pdu.trans 0) env.stale
    pdu.nonce (labelByte pdu.aad) (labelLen pdu.aad) pdu.len.value false
    pdu.micSize out
  { result := answer.result, out := answer.memory, uses := pdu.decryptUses }

/-! ### Application keys -/

def appIdxInvalid : U16 := 0xffff

structure AppDecrypt where
  appIdx : U16
  outMsg : List Byte
  uses : List Subtraction

/-- Decrypt with one copy of a key, unless the other one succeeded. -/
def decryptCopy (parts : AppKeyParts) (status : Bool) (decrypt : AppDecrypt) :
    Bool × AppDecrypt :=
  if !status && parts.akfAid = pdu.akfAid then
    let answer := decryptWith env pdu parts.key decrypt.outMsg
    (answer.result,
      { decrypt with outMsg := answer.out, uses := decrypt.uses ++ answer.uses })
  else
    (status, decrypt)

def tryDecrypt (decrypt : AppDecrypt) (appKey : MeshAppKey) : AppDecrypt :=
  if decrypt.appIdx ≠ appIdxInvalid || appKey.netIdx ≠ pdu.netIdx then
    decrypt
  else
    let first := decryptCopy env pdu appKey.current false decrypt
    let second := decryptCopy env pdu appKey.new first.1 first.2
    if second.1 then { second.2 with appIdx := appKey.idx } else second.2

/-- The output is allocated with the length of the message. -/
def accessPktDecrypt (appKeys : List MeshAppKey) : AppDecrypt :=
  appKeys.foldl (tryDecrypt env pdu)
    { appIdx := appIdxInvalid
      outMsg := List.replicate pdu.len.value.toNat 0
      uses := pdu.len.taken }

end Decrypt

/-! ## Receiving -/

/-- What `msg_rxed` returned, wrote back and delivered. -/
structure MsgRx where
  result : Bool
  payload : Option (List Byte)
  delivered : Option DeliveredAccess
  uses : List Subtraction

def MsgRx.failed (result : Bool) (uses : List Subtraction) : MsgRx where
  result := result
  payload := none
  delivered := none
  uses := uses

section Receive

variable (env : RxEnv) (st : NetState) (message : HandedMessage)
  (pdu : AccessPdu)

/-- A message that was decrypted with an application key replaces its
ciphertext. -/
def appRx (src : U16) (dst : U32) (decrypt : AppDecrypt) : MsgRx :=
  if decrypt.appIdx ≠ appIdxInvalid then
    { result := true
      payload := some decrypt.outMsg
      delivered := some
        { src, dst, ivIndex := message.ivIndex, seqNum := message.seqNum
          appIdx := decrypt.appIdx, data := decrypt.outMsg
          len := pdu.msgLen.value }
      uses := decrypt.uses ++ pdu.msgLen.taken }
  else
    .failed false decrypt.uses

def accessRxed : MsgRx :=
  appRx message pdu message.src (message.dst.setWidth 32)
    (accessPktDecrypt env pdu st.appKeys)

/-- One label. Its messages are delivered as if their destination was also
their source. -/
def tryVirtDecrypt (rx : MsgRx) (virt : MeshVirtAddr) : MsgRx :=
  if rx.result || message.dst ≠ virt.va16 then
    rx
  else
    let pdu := { pdu with aad := some virt.va128 }
    let next := appRx message pdu message.dst virt.va32
      (accessPktDecrypt env pdu st.appKeys)
    { next with uses := rx.uses ++ next.uses }

def virtualRxed : MsgRx :=
  st.virtAddrs.foldl (tryVirtDecrypt env st message pdu) (.failed false [])

/-- The device keys that a message can be under: that of its source, for the
provisioner, and the local one. -/
def deviceKeys : List Key :=
  (if st.provisioner then
    ((st.nodes.nodeFindByAddr message.src).map Node.MeshNode.devKey).toList
  else []) ++ (st.nodes.localRecord.map Node.MeshNode.devKey).toList

/-- Try device keys in turn. Without a key the result is what the nonce left. -/
def deviceRxed (result : Bool) (out : List Byte) : List Key → MsgRx
  | [] => .failed result []
  | key :: rest =>
      let answer := decryptWith env pdu key out
      if answer.result then
        { result := true
          payload := none
          delivered := some
            { src := message.src, dst := message.dst.setWidth 32
              ivIndex := message.ivIndex, seqNum := message.seqNum
              appIdx := appIdxDev, data := answer.out
              len := pdu.msgLen.value }
          uses := answer.uses ++ pdu.msgLen.taken }
      else
        let later := deviceRxed answer.result answer.out rest
        { later with uses := answer.uses ++ later.uses }

/-- The transport header in front of an access message. -/
def transHeader (trans : List Byte) : Nat :=
  if transSegmented trans then 4 else 1

/-- What a message is decrypted with, but for the key. -/
def accessPdu (len : Length) : AccessPdu where
  nonce :=
    (if transAkf message.data then applicationNonce else deviceNonce)
      message.seqAuth message.src message.dst message.ivIndex message.szmic
  aad := none
  netIdx := message.netIdx
  akfAid := transAkfAid message.data
  szmic := message.szmic
  trans := message.data.drop (transHeader message.data)
  len := len.sub (transHeader message.data)

/-- `msg_rxed`. The output for device keys is allocated before there is one. -/
def msgRxed (len : Length) : MsgRx :=
  let pdu := accessPdu message len
  if !transAkf message.data then
    let rx := deviceRxed env message pdu true
      (List.replicate pdu.len.value.toNat 0) (deviceKeys st message)
    { rx with uses := pdu.len.taken ++ rx.uses }
  else if isVirtual message.dst then
    virtualRxed env st message pdu
  else
    accessRxed env st message pdu

/-- `msg_rxed` as the upper layer of reassembly. -/
def msgReceiver : MsgReceiver where
  receive message st :=
    let rx := msgRxed env st message ⟨message.len, []⟩
    { result := rx.result
      payload := rx.payload
      nextState := rx.delivered.elim st (env.deliver · st) }
  keepsSarIn message st := by
    dsimp only
    cases (msgRxed env st message ⟨message.len, []⟩).delivered with
    | none => rfl
    | some access => exact env.keepsSarIn access st

end Receive

/-! ## Which subtractions are used -/

section Uses

variable {env : RxEnv} {pdu : AccessPdu}

/-- An application key that is tried: it belongs to the network key, and one of
its copies has the identifier of the message. -/
structure AccessPdu.Tries (pdu : AccessPdu) (appKey : MeshAppKey) : Prop where
  netIdx : appKey.netIdx = pdu.netIdx
  akfAid : appKey.current.akfAid = pdu.akfAid ∨ appKey.new.akfAid = pdu.akfAid

theorem decryptWith_accepts {key : Key} {out : List Byte}
    (accepts : (decryptWith env pdu key out).result = true) :
    5 ≤ pdu.len.value.toNat := by
  by_contra short
  have refused : (decryptWith env pdu key out).result = false := by
    rw [decryptWith, aesCcmDecrypt, if_pos (by simp; omega)]
  rw [refused] at accepts
  cases accepts

/-- What is accepted has a length for the message. -/
theorem allFit_msgLen (long : 5 ≤ pdu.len.value.toNat)
    (fits : AllFit pdu.decryptUses) : AllFit pdu.msgLen.taken := by
  rw [AccessPdu.decryptUses, ccmUses, if_neg (by omega)] at fits
  exact fits

/-- The outcome of looking at one copy of a key. -/
structure TriedCopy (pdu : AccessPdu) (parts : AppKeyParts) (status : Bool)
    (before : AppDecrypt) (after : Bool × AppDecrypt) : Prop where
  appIdx : after.2.appIdx = before.appIdx
  succeeded : after.1 = true →
    status = true ∨ parts.akfAid = pdu.akfAid ∧ 5 ≤ pdu.len.value.toNat
  uses : AllFit after.2.uses ↔ AllFit before.uses ∧
    (status = false → parts.akfAid = pdu.akfAid → AllFit pdu.decryptUses)

theorem decryptCopy_tried (parts : AppKeyParts) (status : Bool)
    (before : AppDecrypt) :
    TriedCopy pdu parts status before
      (decryptCopy env pdu parts status before) := by
  rw [decryptCopy]
  by_cases tries : (!status && parts.akfAid = pdu.akfAid) = true
  · have isTried : status = false ∧ parts.akfAid = pdu.akfAid := by
      simpa using tries
    rw [if_pos tries]
    constructor
    · rfl
    · exact fun accepts => Or.inr ⟨isTried.2, decryptWith_accepts accepts⟩
    · rw [allFit_append]
      exact and_congr_right fun _ =>
        ⟨fun fits _ _ => fits, fun fits => fits isTried.1 isTried.2⟩
  · rw [if_neg tries]
    constructor
    · rfl
    · exact fun done => Or.inl done
    · apply iff_of_eq
      apply propext
      constructor
      · exact fun fits => ⟨fits, fun isFalse isAid =>
          absurd (by simp [isFalse, isAid]) tries⟩
      · exact fun both => both.1

/-- The outcome of trying both copies of a key, if none succeeded before. -/
structure TriedKey (pdu : AccessPdu) (appKey : MeshAppKey)
    (before after : AppDecrypt) : Prop where
  uses : AllFit after.uses ↔
    AllFit before.uses ∧ (pdu.Tries appKey → AllFit pdu.decryptUses)
  succeeded : after.appIdx ≠ appIdxInvalid →
    pdu.Tries appKey ∧ 5 ≤ pdu.len.value.toNat

theorem tryDecrypt_tried {before : AppDecrypt} (appKey : MeshAppKey)
    (unknown : before.appIdx = appIdxInvalid) :
    TriedKey pdu appKey before (tryDecrypt env pdu before appKey) := by
  rw [tryDecrypt]
  by_cases isNet : appKey.netIdx = pdu.netIdx
  · have first := @decryptCopy_tried env pdu appKey.current false before
    have second := @decryptCopy_tried env pdu appKey.new
      (decryptCopy env pdu appKey.current false before).1
      (decryptCopy env pdu appKey.current false before).2
    rw [if_neg (by simp [unknown, isNet])]
    dsimp only
    have uses : AllFit (decryptCopy env pdu appKey.new
        (decryptCopy env pdu appKey.current false before).1
        (decryptCopy env pdu appKey.current false before).2).2.uses ↔
        AllFit before.uses ∧ (pdu.Tries appKey → AllFit pdu.decryptUses) := by
      rw [second.uses, first.uses]
      constructor
      · rintro ⟨⟨fits, current⟩, new⟩
        refine ⟨fits, fun tries => ?_⟩
        rcases tries.akfAid with isCurrent | isNew
        · exact current rfl isCurrent
        · by_cases done : (decryptCopy env pdu appKey.current false before).1 =
            true
          · rcases first.succeeded done with ⟨⟨⟩⟩ | ⟨isCurrent, _⟩
            exact current rfl isCurrent
          · exact new (Bool.eq_false_of_not_eq_true done) isNew
      · rintro ⟨fits, tried⟩
        exact ⟨⟨fits, fun _ isCurrent => tried ⟨isNet, Or.inl isCurrent⟩⟩,
          fun _ isNew => tried ⟨isNet, Or.inr isNew⟩⟩
    split
    next succeeds =>
      constructor
      · exact uses
      · intro _
        rcases second.succeeded succeeds with done | ⟨isNew, long⟩
        · rcases first.succeeded done with ⟨⟨⟩⟩ | ⟨isCurrent, long⟩
          exact ⟨⟨isNet, Or.inl isCurrent⟩, long⟩
        · exact ⟨⟨isNet, Or.inr isNew⟩, long⟩
    next =>
      constructor
      · exact uses
      · intro known
        exact absurd (second.appIdx.trans (first.appIdx.trans unknown)) known
  · rw [if_pos (by simp [isNet])]
    constructor
    · exact ⟨fun fits => ⟨fits, fun tries => absurd tries.netIdx isNet⟩,
        fun both => both.1⟩
    · exact fun known => absurd unknown known

theorem tryDecrypt_known {before : AppDecrypt} (appKey : MeshAppKey)
    (known : before.appIdx ≠ appIdxInvalid) :
    tryDecrypt env pdu before appKey = before := by
  rw [tryDecrypt, if_pos (by simp [known])]

theorem foldl_tryDecrypt_known {before : AppDecrypt}
    (known : before.appIdx ≠ appIdxInvalid) (appKeys : List MeshAppKey) :
    appKeys.foldl (tryDecrypt env pdu) before = before := by
  induction appKeys with
  | nil => rfl
  | cons appKey rest induction =>
      rw [List.foldl_cons, tryDecrypt_known appKey known, induction]

/-- The outcome of a search through the application keys. -/
structure TriedKeys (pdu : AccessPdu) (appKeys : List MeshAppKey)
    (before after : AppDecrypt) : Prop where
  uses : AllFit after.uses ↔ AllFit before.uses ∧
    ((∃ appKey ∈ appKeys, pdu.Tries appKey) → AllFit pdu.decryptUses)
  succeeded : after.appIdx ≠ appIdxInvalid →
    (∃ appKey ∈ appKeys, pdu.Tries appKey) ∧ 5 ≤ pdu.len.value.toNat

theorem foldl_tryDecrypt {before : AppDecrypt}
    (unknown : before.appIdx = appIdxInvalid) (appKeys : List MeshAppKey) :
    TriedKeys pdu appKeys before (appKeys.foldl (tryDecrypt env pdu) before) := by
  induction appKeys generalizing before with
  | nil =>
      constructor
      · exact ⟨fun fits => ⟨fits, fun tries => by simp at tries⟩,
          fun both => both.1⟩
      · exact fun known => absurd unknown known
  | cons appKey rest induction =>
      have step := @tryDecrypt_tried env pdu before appKey unknown
      rw [List.foldl_cons]
      by_cases known : (tryDecrypt env pdu before appKey).appIdx = appIdxInvalid
      · have later := induction known
        constructor
        · rw [later.uses, step.uses, and_assoc]
          apply and_congr_right
          intro _
          constructor
          · rintro ⟨here, there⟩ ⟨other, member, tries⟩
            rcases List.mem_cons.mp member with isKey | inRest
            · exact here (isKey ▸ tries)
            · exact there ⟨other, inRest, tries⟩
          · intro all
            exact ⟨fun tries => all ⟨appKey, List.mem_cons_self, tries⟩,
              fun ⟨other, inRest, tries⟩ =>
                all ⟨other, List.mem_cons_of_mem _ inRest, tries⟩⟩
        · intro succeeds
          rcases later.succeeded succeeds with ⟨⟨other, inRest, tries⟩, long⟩
          exact ⟨⟨other, List.mem_cons_of_mem _ inRest, tries⟩, long⟩
      · have succeeded := step.succeeded known
        rw [foldl_tryDecrypt_known known]
        constructor
        · rw [step.uses]
          exact and_congr_right fun _ =>
            ⟨fun here _ => here succeeded.1, fun all _ =>
              all ⟨appKey, List.mem_cons_self, succeeded.1⟩⟩
        · exact fun _ =>
            ⟨⟨appKey, List.mem_cons_self, succeeded.1⟩, succeeded.2⟩

end Uses

end Meshctl.Net
