import Meshctl.Net.DeliveredMetadata
import Meshctl.Net.PayloadRecovery

/-! # Decrypting what was encrypted

A receiver that has the key of a message, and no other key that authenticates
it, delivers the payload that the message was made of.
-/

namespace Meshctl.Net

open Bytes Crypto

/-! ## Messages that arrived whole -/

/-- The message is the one of the record, and its last packet has the sequence
number `seqNum`. -/
structure HandedMessage.Holds (message : HandedMessage) (len : Length)
    (sar : MeshSarMsg) (seqNum : U32) : Prop where
  netIdx : message.netIdx = sar.netIdx
  ivIndex : message.ivIndex = sar.ivIndex
  seqAuth : message.seqAuth = sar.seqAuth
  seqNum : message.seqNum = seqNum
  src : message.src = sar.src
  dst : message.dst = sar.dst.setWidth 16
  szmic : message.szmic = false
  first : get message.data 0 = sar.akfAid
  pdu : ∀ index < sar.len.toNat, get message.data (1 + index) = get sar.data index
  len : len.value.toNat = sar.len.toNat + 1

/-- What the upper layer is told of the message. -/
structure Conveyed (sar : MeshSarMsg) (appIdx : U16) (payload : List Byte)
    (seqNum : U32) (access : DeliveredAccess) : Prop where
  src : access.src = sar.src
  dst : access.dst = (sar.dst.setWidth 16).setWidth 32
  ivIndex : access.ivIndex = sar.ivIndex
  seqNum : access.seqNum = seqNum
  appIdx : access.appIdx = appIdx
  len : access.len.toNat = payload.length
  data : access.data.take payload.length = payload

/-! ## One key -/

section Key

variable (aes : Key → AesBlock → AesBlock) (key : Key) (sar : MeshSarMsg)

/-- The encrypted payload and its MIC. -/
def MeshSarMsg.accessPdu : List Byte := slice sar.data 0 sar.len.toNat

def MeshSarMsg.nonce : List Byte :=
  messageNonce sar.akfAid sar.seqAuth sar.src (sar.dst.setWidth 16) sar.ivIndex
    false

def MeshSarMsg.plain : List Byte :=
  ccmPlain (aes key) sar.nonce 4 sar.accessPdu

/-- The key authenticates the record. -/
def MeshSarMsg.Authentic : Prop :=
  sar.accessPdu.drop (sar.len.toNat - 4) =
    sentTag (aes key) sar.nonce (labelByte none) (labelLen none) 4
      (sar.plain aes key)

end Key

/-- The length of the record has room for the MIC, and its identifier is that
of an application key or none. -/
structure MeshSarMsg.Encrypted (sar : MeshSarMsg) : Prop where
  long : 5 ≤ sar.len.toNat
  akfAid : sar.akfAid = 0 ∨ 0x40 ≤ sar.akfAid.toNat ∧ sar.akfAid.toNat < 0x80

section Decrypt

variable {env : RxEnv} {message : HandedMessage} {len : Length}
  {sar : MeshSarMsg} {seqNum : U32}

theorem MeshSarMsg.Encrypted.bits (encrypted : sar.Encrypted) :
    sar.akfAid &&& 0x7f = sar.akfAid ∧ sar.akfAid &&& 0x80 = 0 ∧
      (sar.akfAid &&& 0x40 ≠ 0 ↔ sar.akfAid ≠ 0) := by
  rcases encrypted.akfAid with none | ⟨low, high⟩
  · rw [none]
    decide
  · have small : sar.akfAid.toNat < 2 ^ 7 := high
    have seventh : sar.akfAid[7] = false := by
      rw [BitVec.getElem_eq_testBit_toNat]
      exact Nat.testBit_lt_two_pow small
    have sixth : sar.akfAid[6] = true := by
      rw [BitVec.getElem_eq_testBit_toNat, Nat.testBit_eq_decide_div_mod_eq,
        decide_eq_true_eq]
      omega
    refine ⟨?_, ?_, ?_⟩
    · ext index inRange
      interval_cases index <;> simp [seventh]
    · ext index inRange
      interval_cases index <;> simp [seventh]
    · refine iff_of_true (fun zero => ?_) (fun zero => ?_)
      · have bit := congrArg (fun value : Byte => value[6]) zero
        simp [sixth] at bit
      · rw [zero] at low
        exact absurd low (by decide)

namespace HandedMessage.Holds

theorem transHeader (holds : message.Holds len sar seqNum)
    (encrypted : sar.Encrypted) : transHeader message.data = 1 := by
  rw [Net.transHeader, transSegmented, holds.first, encrypted.bits.2.1]
  rfl

theorem transAkf (holds : message.Holds len sar seqNum)
    (encrypted : sar.Encrypted) :
    transAkf message.data = decide (sar.akfAid ≠ 0) := by
  rw [Net.transAkf, holds.first]
  exact decide_eq_decide.mpr encrypted.bits.2.2

theorem transAkfAid (holds : message.Holds len sar seqNum)
    (encrypted : sar.Encrypted) :
    (accessPdu message len).akfAid = sar.akfAid := by
  change get message.data 0 &&& 0x7f = _
  rw [holds.first]
  exact encrypted.bits.1

theorem micSize (holds : message.Holds len sar seqNum) :
    (accessPdu message len).micSize = 4 := by
  change (if message.szmic then 8 else 4) = 4
  rw [holds.szmic]
  rfl

theorem nonce (holds : message.Holds len sar seqNum)
    (encrypted : sar.Encrypted) :
    (accessPdu message len).nonce = sar.nonce := by
  change (if Net.transAkf message.data then applicationNonce else deviceNonce)
    message.seqAuth message.src message.dst message.ivIndex message.szmic = _
  rw [holds.transAkf encrypted, holds.seqAuth, holds.src, holds.dst,
    holds.ivIndex, holds.szmic, MeshSarMsg.nonce, messageNonce]
  by_cases none : sar.akfAid = 0
  · rw [if_pos none, if_neg (by simp [none])]
  · rw [if_neg none, if_pos (decide_eq_true none)]

theorem toNat_len (holds : message.Holds len sar seqNum)
    (encrypted : sar.Encrypted) :
    (accessPdu message len).len.value.toNat = sar.len.toNat ∧
      (accessPdu message len).msgLen.value.toNat = sar.len.toNat - 4 := by
  have long := encrypted.long
  have isLen := holds.len
  have behind : (accessPdu message len).len.value.toNat = sar.len.toNat := by
    change (len.sub (Net.transHeader message.data)).value.toNat = _
    rw [holds.transHeader encrypted]
    exact (toNat_sub_size (by omega)).trans (by omega)
  refine ⟨behind, ?_⟩
  change ((accessPdu message len).len.sub
    (accessPdu message len).micSize).value.toNat = _
  rw [holds.micSize, ← behind]
  exact toNat_sub_size (by omega)

theorem get_trans (holds : message.Holds len sar seqNum)
    (encrypted : sar.Encrypted) {index : Nat}
    (inside : index < sar.accessPdu.length) :
    get (accessPdu message len).trans index = get sar.accessPdu index := by
  rw [MeshSarMsg.accessPdu, length_slice] at inside
  change get (message.data.drop (Net.transHeader message.data)) index = _
  rw [holds.transHeader encrypted, get_drop, holds.pdu index inside,
    MeshSarMsg.accessPdu, get_slice inside, Nat.zero_add]

/-- Decrypting with any key succeeds if the key authenticates the record, and
leaves the payload as the key decrypts it. -/
theorem decryptWith_eq (holds : message.Holds len sar seqNum)
    (encrypted : sar.Encrypted) (key : Key) (out : List Byte) :
    ((decryptWith env (accessPdu message len) key out).result = true ↔
        sar.Authentic env.aes key) ∧
      (decryptWith env (accessPdu message len) key out).out =
        splice out 0 (sar.plain env.aes key) := by
  have long := encrypted.long
  have total : sar.accessPdu.length = sar.len.toNat := length_slice _ _ _
  have small := sar.len.isLt
  have isValue : (accessPdu message len).len.value =
      BitVec.ofNat 16 sar.accessPdu.length := by
    apply BitVec.eq_of_toNat_eq
    rw [(holds.toNat_len encrypted).1, BitVec.toNat_ofNat, total]
    omega
  have label : (accessPdu message len).aad = none := rfl
  have decrypted := @aesCcmDecrypt_eq _ (env.aes key)
    (.apart (accessPdu message len).trans 0) env.stale sar.nonce
    (labelByte none) (labelLen none) 4 out (CipherBuffers.apart_streams _ _)
    sar.accessPdu (fun index inside => holds.get_trans encrypted inside)
    (Or.inl rfl) (by omega) (by omega) (by decide) false
  rw [decryptWith, holds.nonce encrypted, holds.micSize, label, isValue,
    decrypted, CipherBuffers.writeAll_apart]
  dsimp only
  rw [Bool.false_or, decide_eq_true_eq, total]
  exact ⟨Iff.rfl, rfl⟩

end HandedMessage.Holds

/-! ## Finding the key -/

/-- The key authenticates a message that is given to every attempt. -/
def Accepts (env : RxEnv) (pdu : AccessPdu) (key : Key) : Prop :=
  ∀ out, (decryptWith env pdu key out).result = true

section Search

variable {pdu : AccessPdu}

/-- A copy with the identifier of the message and a key that authenticates
it. -/
structure MeshAppKey.Reads (env : RxEnv) (pdu : AccessPdu) (appKey : MeshAppKey)
    (parts : AppKeyParts) : Prop where
  copy : appKey.HasCopy parts
  akfAid : parts.akfAid = pdu.akfAid
  accepts : Accepts env pdu parts.key

theorem decryptCopy_reads {parts : AppKeyParts} {status : Bool}
    {before : AppDecrypt} (done : status = true ∨
      parts.akfAid = pdu.akfAid ∧ Accepts env pdu parts.key) :
    (decryptCopy env pdu parts status before).1 = true := by
  rw [decryptCopy]
  split
  next tries =>
    rcases done with isDone | ⟨_, accepts⟩
    · rw [isDone] at tries
      exact absurd tries (by simp)
    · exact accepts before.outMsg
  next skipped =>
    rcases done with isDone | ⟨isAid, _⟩
    · exact isDone
    · by_contra undone
      have isFalse : status = false := Bool.eq_false_of_not_eq_true undone
      exact skipped (by simp [isFalse, isAid])

theorem tryDecrypt_reads {before : AppDecrypt} {appKey : MeshAppKey}
    {parts : AppKeyParts} (unknown : before.appIdx = appIdxInvalid)
    (isNet : appKey.netIdx = pdu.netIdx) (reads : appKey.Reads env pdu parts) :
    (tryDecrypt env pdu before appKey).appIdx = appKey.idx := by
  rw [tryDecrypt, if_neg (by simp [unknown, isNet])]
  dsimp only
  rw [if_pos]
  apply decryptCopy_reads
  rcases reads.copy with isCurrent | isNew
  · exact Or.inl (decryptCopy_reads
      (Or.inr ⟨isCurrent ▸ reads.akfAid, isCurrent ▸ reads.accepts⟩))
  · exact Or.inr ⟨isNew ▸ reads.akfAid, isNew ▸ reads.accepts⟩

/-- A search that comes to a key with a copy that reads the message ends with
some key. -/
theorem foldl_tryDecrypt_finds {before : AppDecrypt} {appKeys : List MeshAppKey}
    {appKey : MeshAppKey} {parts : AppKeyParts}
    (unknown : before.appIdx = appIdxInvalid) (member : appKey ∈ appKeys)
    (isNet : appKey.netIdx = pdu.netIdx) (reads : appKey.Reads env pdu parts)
    (named : appKey.idx ≠ appIdxInvalid) :
    (appKeys.foldl (tryDecrypt env pdu) before).appIdx ≠ appIdxInvalid := by
  induction appKeys generalizing before with
  | nil => cases member
  | cons first rest induction =>
      rw [List.foldl_cons]
      by_cases now : (tryDecrypt env pdu before first).appIdx = appIdxInvalid
      · refine induction now ((List.mem_cons.mp member).resolve_left ?_)
        intro isFirst
        rw [isFirst] at isNet reads named
        exact named ((tryDecrypt_reads unknown isNet reads).symm.trans now)
      · rw [foldl_tryDecrypt_known now]
        exact now

/-- The copy that a search ended with. -/
structure FoundCopy (env : RxEnv) (pdu : AccessPdu) (appKey : MeshAppKey)
    (after : AppDecrypt) : Prop where
  netIdx : appKey.netIdx = pdu.netIdx
  appIdx : after.appIdx = appKey.idx
  copy : ∃ parts, appKey.HasCopy parts ∧ parts.akfAid = pdu.akfAid ∧
    Opens env pdu parts.key after.outMsg

theorem tryDecrypt_found {before : AppDecrypt} {appKey : MeshAppKey}
    (length : before.outMsg.length = pdu.len.value.toNat)
    (unknown : before.appIdx = appIdxInvalid)
    (known : (tryDecrypt env pdu before appKey).appIdx ≠ appIdxInvalid) :
    FoundCopy env pdu appKey (tryDecrypt env pdu before appKey) := by
  have tries := ((tryDecrypt_tried appKey unknown).succeeded known).1
  have opened := tryDecrypt_opens length unknown known
  refine ⟨tries.netIdx, opened.1, ?_⟩
  have first := @decryptCopy_tried env pdu appKey.current false before
  have second := @decryptCopy_tried env pdu appKey.new
    (decryptCopy env pdu appKey.current false before).1
    (decryptCopy env pdu appKey.current false before).2
  rw [tryDecrypt, if_neg (by simp [unknown, tries.netIdx])] at known ⊢
  dsimp only at known ⊢
  by_cases done : (decryptCopy env pdu appKey.current false before).1 = true
  · -- The other copy is left alone.
    have skipped : decryptCopy env pdu appKey.new
        (decryptCopy env pdu appKey.current false before).1
        (decryptCopy env pdu appKey.current false before).2 =
        ((decryptCopy env pdu appKey.current false before).1,
          (decryptCopy env pdu appKey.current false before).2) := by
      rw [decryptCopy, if_neg (by simp [done])]
    rcases first.succeeded done with ⟨⟨⟩⟩ | ⟨isAid, _⟩
    rw [skipped, if_pos done]
    exact ⟨appKey.current, Or.inl rfl, isAid, decryptCopy_opens length done⟩
  · rw [Bool.eq_false_of_not_eq_true done] at known second ⊢
    by_cases succeeds : (decryptCopy env pdu appKey.new false
        (decryptCopy env pdu appKey.current false before).2).1 = true
    · rcases second.succeeded succeeds with ⟨⟨⟩⟩ | ⟨isAid, _⟩
      rw [if_pos succeeds]
      exact ⟨appKey.new, Or.inr rfl, isAid,
        decryptCopy_opens ((length_decryptCopy _ _ _).trans length) succeeds⟩
    · rw [if_neg succeeds] at known
      exact absurd (second.appIdx.trans (first.appIdx.trans unknown)) known

/-- The key that was found belongs to the network of the message, and a copy of
it has its identifier. -/
theorem foldl_tryDecrypt_found {before : AppDecrypt}
    (length : before.outMsg.length = pdu.len.value.toNat)
    (unknown : before.appIdx = appIdxInvalid) (appKeys : List MeshAppKey)
    (known : (appKeys.foldl (tryDecrypt env pdu) before).appIdx ≠
      appIdxInvalid) :
    ∃ appKey ∈ appKeys, FoundCopy env pdu appKey
      (appKeys.foldl (tryDecrypt env pdu) before) := by
  induction appKeys generalizing before with
  | nil => exact absurd unknown known
  | cons appKey rest induction =>
      rw [List.foldl_cons] at known ⊢
      by_cases here : (tryDecrypt env pdu before appKey).appIdx = appIdxInvalid
      · rcases induction ((length_tryDecrypt before appKey).trans length) here
          known with ⟨other, inRest, found⟩
        exact ⟨other, List.mem_cons_of_mem _ inRest, found⟩
      · rw [foldl_tryDecrypt_known here]
        exact ⟨appKey, List.mem_cons_self, tryDecrypt_found length unknown here⟩

end Search

/-! ## Delivery -/

/-- A receiver reads the record with `key`, and no other key that it would try
authenticates the record. -/
inductive ReadWith (env : RxEnv) (st : NetState) (sar : MeshSarMsg) (key : Key) :
    U16 → Prop where
  | device (unnamed : sar.akfAid = 0)
      (known : ∀ message : HandedMessage, message.src = sar.src →
        key ∈ deviceKeys st message)
      (only : ∀ message : HandedMessage, message.src = sar.src →
        ∀ other ∈ deviceKeys st message, sar.Authentic env.aes other →
          other = key) :
      ReadWith env st sar key appIdxDev
  | application {appIdx : U16} (named : sar.akfAid ≠ 0)
      (valid : appIdx ≠ appIdxInvalid)
      (known : ∃ appKey ∈ st.appKeys, appKey.netIdx = sar.netIdx ∧
        ∃ parts, appKey.HasCopy parts ∧ parts.akfAid = sar.akfAid ∧
          parts.key = key)
      (only : ∀ appKey ∈ st.appKeys, appKey.netIdx = sar.netIdx →
        ∀ parts, appKey.HasCopy parts → parts.akfAid = sar.akfAid →
          sar.Authentic env.aes parts.key →
            appKey.idx = appIdx ∧ parts.key = key) :
      ReadWith env st sar key appIdx

section Deliver

variable {st : NetState} {key : Key} {appIdx : U16} {payload : List Byte}

/-- What a key leaves in an output of the length of the message. -/
theorem HandedMessage.Holds.opens (holds : message.Holds len sar seqNum)
    (encrypted : sar.Encrypted) {text : List Byte}
    (opens : Opens env (accessPdu message len) key text) :
    sar.Authentic env.aes key ∧
      text.take (sar.len.toNat - 4) = sar.plain env.aes key := by
  rcases opens with ⟨out, length, accepts, isText⟩
  have long := encrypted.long
  have decrypted := @decryptWith_eq env _ _ _ _ holds encrypted key out
  have plainLength : (sar.plain env.aes key).length = sar.len.toNat - 4 := by
    rw [MeshSarMsg.plain, length_ccmPlain, MeshSarMsg.accessPdu, length_slice]
  rw [(holds.toNat_len encrypted).1] at length
  refine ⟨decrypted.1.mp accepts, ?_⟩
  rw [isText, decrypted.2]
  apply ext_get
  · rw [List.length_take, length_splice]
    omega
  · intro index inside
    rw [List.length_take, length_splice] at inside
    rw [get_take (by omega), get_splice_inside (by omega) (by omega) (by omega),
      Nat.sub_zero]

theorem deviceRxed_conveys (holds : message.Holds len sar seqNum)
    (encrypted : sar.Encrypted) {keys : List Key} (known : key ∈ keys)
    (authentic : sar.Authentic env.aes key) (result : Bool) (out : List Byte) :
    (deviceRxed env message (accessPdu message len) result out
      keys).delivered ≠ none := by
  induction keys generalizing result out with
  | nil => cases known
  | cons first rest induction =>
      rw [deviceRxed]
      dsimp only
      split
      next => simp
      next refuses =>
        apply induction
        refine (List.mem_cons.mp known).resolve_left fun isFirst => ?_
        exact refuses ((holds.decryptWith_eq encrypted first out).1.mpr
          (isFirst ▸ authentic))

theorem deviceRxed_dst {pdu : AccessPdu} {keys : List Key} {result : Bool}
    {out : List Byte} {access : DeliveredAccess}
    (delivered : (deviceRxed env message pdu result out keys).delivered =
      some access) : access.dst = message.dst.setWidth 32 := by
  induction keys generalizing result out with
  | nil => cases delivered
  | cons key rest induction =>
      rw [deviceRxed] at delivered
      dsimp only at delivered
      split at delivered
      next => rw [← Option.some_inj.mp delivered]
      next => exact induction delivered

/-- The receiver delivers the payload, under the index of its own key. -/
theorem msgRxed_conveys (holds : message.Holds len sar seqNum)
    (encrypted : sar.Encrypted)
    (unlabelled : isVirtual (sar.dst.setWidth 16 : U16) = false)
    (readWith : ReadWith env st sar key appIdx)
    (authentic : sar.Authentic env.aes key)
    (isPayload : sar.plain env.aes key = payload) :
    ∃ access, (msgRxed env st message len).delivered = some access ∧
      Conveyed sar appIdx payload seqNum access := by
  have long := encrypted.long
  have length : payload.length = sar.len.toNat - 4 := by
    rw [← isPayload, MeshSarMsg.plain, length_ccmPlain, MeshSarMsg.accessPdu,
      length_slice]
  have room : (List.replicate (accessPdu message len).len.value.toNat
      (0 : Byte)).length = (accessPdu message len).len.value.toNat :=
    List.length_replicate
  rw [msgRxed, holds.transAkf encrypted]
  cases readWith with
  | device unnamed known only =>
      rw [if_pos (by simp [unnamed])]
      rcases Option.ne_none_iff_exists'.mp (@deviceRxed_conveys env message len
        sar seqNum key holds encrypted _ (known message holds.src) authentic true
        _) with ⟨access, delivered⟩
      refine ⟨access, delivered, ?_⟩
      have dst := deviceRxed_dst delivered
      rcases deviceRxed_delivered room delivered with
        ⟨src, ivIndex, isSeq, isIdx, size, other, isKey, opens⟩
      have text := holds.opens encrypted opens
      rw [only message holds.src other isKey text.1, isPayload] at text
      refine ⟨src.trans holds.src, ?_, ivIndex.trans holds.ivIndex,
        isSeq.trans holds.seqNum, isIdx, ?_, ?_⟩
      · rw [dst, holds.dst]
      · rw [size, (holds.toNat_len encrypted).2, length]
      · rw [length]
        exact text.2
  | application named valid known only =>
      rcases known with ⟨appKey, isKey, isNet, parts, copy, isAid, same⟩
      have sameAid := holds.transAkfAid encrypted
      have sameNet : (accessPdu message len).netIdx = sar.netIdx := holds.netIdx
      have accepts : Accepts env (accessPdu message len) parts.key := by
        intro out
        rw [same]
        exact (holds.decryptWith_eq encrypted key out).1.mpr authentic
      have isNamed := only appKey isKey isNet parts copy isAid
        (same.symm ▸ authentic)
      have finds := @foldl_tryDecrypt_finds env (accessPdu message len)
        ⟨appIdxInvalid, List.replicate (accessPdu message len).len.value.toNat 0,
          (accessPdu message len).len.taken⟩ st.appKeys appKey parts rfl isKey
        (isNet.trans sameNet.symm)
        ⟨copy, isAid.trans sameAid.symm, accepts⟩ (isNamed.1 ▸ valid)
      rcases foldl_tryDecrypt_found room rfl st.appKeys finds with
        ⟨used, isUsed, found⟩
      rcases found.copy with ⟨usedParts, usedCopy, usedAid, opens⟩
      have text := holds.opens encrypted opens
      rcases only used isUsed (found.netIdx.trans sameNet) usedParts usedCopy
        (usedAid.trans sameAid) text.1 with ⟨isIdx, isSame⟩
      rw [isSame, isPayload] at text
      rw [decide_eq_true named, Bool.not_true, if_neg Bool.false_ne_true,
        holds.dst, unlabelled, if_neg Bool.false_ne_true, accessRxed, appRx,
        accessPktDecrypt, if_pos finds]
      refine ⟨_, rfl, holds.src, ?_, holds.ivIndex, holds.seqNum, ?_, ?_, ?_⟩
      · dsimp only
        rw [holds.dst]
      · exact found.appIdx.trans isIdx
      · exact ((holds.toNat_len encrypted).2).trans length.symm
      · rw [length]
        exact text.2

end Deliver

end Decrypt

end Meshctl.Net
