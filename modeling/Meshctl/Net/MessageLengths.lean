import Meshctl.Net.AccessReceive

/-! # The lengths of access messages

Which subtractions the decryption of a message uses, and when none of them wraps
below zero.
-/

namespace Meshctl.Net

open Bytes Crypto

section Keys

variable {env : RxEnv} {st : NetState} {message : HandedMessage}
  {pdu : AccessPdu}

/-! ## Application keys -/

/-- A key is found to try. -/
def AccessPdu.TriesOneOf (pdu : AccessPdu) (appKeys : List MeshAppKey) : Prop :=
  ∃ appKey ∈ appKeys, pdu.Tries appKey

/-- The allocation uses the length before any key is tried. -/
def AccessPdu.AppFits (pdu : AccessPdu) (appKeys : List MeshAppKey) : Prop :=
  AllFit pdu.len.taken ∧ (pdu.TriesOneOf appKeys → AllFit pdu.decryptUses)

/-- Labels are authenticated, but make no difference to lengths and keys. -/
theorem appFits_labelled (label : Option Key) (appKeys : List MeshAppKey) :
    { pdu with aad := label }.AppFits appKeys ↔ pdu.AppFits appKeys := by
  have tries (appKey : MeshAppKey) :
      { pdu with aad := label }.Tries appKey ↔ pdu.Tries appKey :=
    ⟨fun ⟨netIdx, akfAid⟩ => ⟨netIdx, akfAid⟩,
      fun ⟨netIdx, akfAid⟩ => ⟨netIdx, akfAid⟩⟩
  simp only [AccessPdu.AppFits, AccessPdu.TriesOneOf, tries]
  rfl

theorem accessPktDecrypt_tried (env : RxEnv) (pdu : AccessPdu)
    (appKeys : List MeshAppKey) :
    TriedKeys pdu appKeys
      { appIdx := appIdxInvalid
        outMsg := List.replicate pdu.len.value.toNat 0
        uses := pdu.len.taken }
      (accessPktDecrypt env pdu appKeys) :=
  foldl_tryDecrypt rfl appKeys

/-- The length of a decrypted message adds no new subtraction. -/
theorem allFit_appRx (message : HandedMessage) (src : U16) (dst : U32)
    (appKeys : List MeshAppKey) :
    AllFit (appRx message pdu src dst (accessPktDecrypt env pdu appKeys)).uses ↔
      pdu.AppFits appKeys := by
  have tried := accessPktDecrypt_tried env pdu appKeys
  rw [appRx, AccessPdu.AppFits, AccessPdu.TriesOneOf, ← tried.uses]
  split
  next succeeds =>
    rcases tried.succeeded succeeds with ⟨triesOne, long⟩
    dsimp only
    rw [allFit_append]
    constructor
    · exact And.left
    · intro fits
      exact ⟨fits, allFit_msgLen long ((tried.uses.mp fits).2 triesOne)⟩
  next => exact Iff.rfl

/-! ## Labels -/

/-- A label that is tried first asks for an allocation. -/
theorem allFit_foldl_tryVirtDecrypt (virtAddrs : List MeshVirtAddr)
    {rx : MsgRx} (undone : rx.result = false) :
    AllFit (virtAddrs.foldl (tryVirtDecrypt env st message pdu) rx).uses ↔
      AllFit rx.uses ∧ ((∃ virt ∈ virtAddrs, virt.va16 = message.dst) →
        pdu.AppFits st.appKeys) := by
  induction virtAddrs generalizing rx with
  | nil => simp
  | cons virt rest induction =>
      rw [List.foldl_cons]
      by_cases isLabel : virt.va16 = message.dst
      · have fits : AllFit (tryVirtDecrypt env st message pdu rx virt).uses ↔
            AllFit rx.uses ∧ pdu.AppFits st.appKeys := by
          rw [tryVirtDecrypt, if_neg (by simp [undone, isLabel])]
          dsimp only
          rw [allFit_append, allFit_appRx, appFits_labelled]
        have labelled : ∃ other ∈ virt :: rest, other.va16 = message.dst :=
          ⟨virt, List.mem_cons_self, isLabel⟩
        by_cases done :
            (tryVirtDecrypt env st message pdu rx virt).result = true
        · have stays : rest.foldl (tryVirtDecrypt env st message pdu)
              (tryVirtDecrypt env st message pdu rx virt) =
              tryVirtDecrypt env st message pdu rx virt := by
            apply List.foldl_fixed'
            intro other
            rw [tryVirtDecrypt, if_pos (by simp [done])]
          rw [stays, fits]
          exact and_congr_right fun _ =>
            ⟨fun appFits _ => appFits, fun appFits => appFits labelled⟩
        · rw [induction (Bool.eq_false_of_not_eq_true done), fits, and_assoc]
          exact and_congr_right fun _ =>
            ⟨fun both _ => both.1, fun appFits =>
              ⟨appFits labelled, fun _ => appFits labelled⟩⟩
      · have skipped : tryVirtDecrypt env st message pdu rx virt = rx := by
          rw [tryVirtDecrypt, if_pos (by simp [Ne.symm isLabel])]
        rw [skipped, induction undone]
        simp only [List.mem_cons, exists_eq_or_imp, isLabel, false_or]

/-! ## Device keys -/

theorem allFit_deviceRxed (result : Bool) (out : List Byte) (keys : List Key) :
    AllFit (deviceRxed env message pdu result out keys).uses ↔
      (keys ≠ [] → AllFit pdu.decryptUses) := by
  induction keys generalizing result out with
  | nil => simp [deviceRxed, MsgRx.failed]
  | cons key rest induction =>
      rw [deviceRxed]
      dsimp only
      split
      next accepts =>
        dsimp only
        rw [allFit_append]
        constructor
        · exact fun fits _ => fits.1
        · intro fits
          have decrypts := fits (List.cons_ne_nil _ _)
          exact ⟨decrypts,
            allFit_msgLen (decryptWith_accepts accepts) decrypts⟩
      next =>
        dsimp only
        rw [allFit_append, induction]
        constructor
        · exact fun fits _ => fits.1
        · intro fits
          have decrypts := fits (List.cons_ne_nil _ _)
          exact ⟨decrypts, fun _ => decrypts⟩

end Keys

/-! ## A whole message -/

section Message

variable (env : RxEnv) (st : NetState) (message : HandedMessage)

/-- The length of the ciphertext is used, unless it goes to a label that is not
known. -/
def ReadsLength : Prop :=
  transAkf message.data = true → isVirtual message.dst = true →
    ∃ virt ∈ st.virtAddrs, virt.va16 = message.dst

/-- There is a key to decrypt with. -/
def TriesKey : Prop :=
  if transAkf message.data then
    (accessPdu message ⟨message.len, []⟩).TriesOneOf st.appKeys
  else
    deviceKeys st message ≠ []

/-- Which keys are tried does not depend on the length. -/
theorem triesOneOf_len (len : Length) (appKeys : List MeshAppKey) :
    (accessPdu message len).TriesOneOf appKeys ↔
      (accessPdu message ⟨message.len, []⟩).TriesOneOf appKeys := by
  have tries (appKey : MeshAppKey) : (accessPdu message len).Tries appKey ↔
      (accessPdu message ⟨message.len, []⟩).Tries appKey :=
    ⟨fun ⟨netIdx, akfAid⟩ => ⟨netIdx, akfAid⟩,
      fun ⟨netIdx, akfAid⟩ => ⟨netIdx, akfAid⟩⟩
  simp only [AccessPdu.TriesOneOf, tries]

theorem allFit_msgRxed (len : Length) :
    AllFit (msgRxed env st message len).uses ↔
      (ReadsLength st message →
        AllFit (accessPdu message len).len.taken ∧
          (TriesKey st message →
            AllFit (accessPdu message len).decryptUses)) := by
  rw [msgRxed, ReadsLength, TriesKey, ← triesOneOf_len message len]
  by_cases isApp : transAkf message.data = true
  · simp only [isApp, Bool.not_true, Bool.false_eq_true, if_false, if_true,
      true_implies]
    by_cases toLabel : isVirtual message.dst = true
    · simp only [toLabel, if_true, true_implies]
      have labels := @allFit_foldl_tryVirtDecrypt env st message
        (accessPdu message len) st.virtAddrs (.failed false []) rfl
      rw [virtualRxed, labels]
      simp only [MsgRx.failed, allFit_nil, true_and]
      rfl
    · simp only [toLabel, Bool.false_eq_true, if_false, false_implies,
        true_implies]
      exact allFit_appRx message _ _ st.appKeys
  · simp only [isApp, Bool.not_false, if_true, Bool.false_eq_true, if_false,
      false_implies, true_implies]
    rw [allFit_append, allFit_deviceRxed]

/-! ### The sizes -/

variable {message}

theorem toNat_sub_size {value : U16} {size : Nat} (fits : size ≤ value.toNat) :
    (value - BitVec.ofNat 16 size).toNat = value.toNat - size := by
  have bound := value.isLt
  rw [BitVec.toNat_sub, BitVec.toNat_ofNat]
  omega

@[simp] theorem allFit_sub (len : Length) (size : Nat) :
    AllFit (len.sub size).taken ↔
      AllFit len.taken ∧ size ≤ len.value.toNat := by
  simp [Length.sub]

theorem allFit_ccmUses (len : Length) (micSize : Nat) :
    AllFit (ccmUses len micSize) ↔ AllFit len.taken ∧
      (5 ≤ len.value.toNat → micSize ≤ len.value.toNat) := by
  rw [ccmUses, allFit_append]
  apply and_congr_right
  intro _
  split
  next short =>
    exact iff_of_true allFit_nil fun long => absurd short (Nat.not_lt.mpr long)
  next long =>
    rw [allFit_cons]
    constructor
    · exact fun fits _ => fits.1
    · exact fun fits => ⟨fits (Nat.le_of_not_lt long), allFit_nil⟩

/-- A message is decrypted without wrapping if and only if the subtractions
behind its length fit, and what is left is too short to decrypt or has room for
the MIC. -/
theorem allFit_msgRxed_iff (len : Length) :
    AllFit (msgRxed env st message len).uses ↔
      (ReadsLength st message → AllFit len.taken ∧
        transHeader message.data ≤ len.value.toNat ∧
        (TriesKey st message → message.szmic = true →
          ¬(5 ≤ len.value.toNat - transHeader message.data ∧
            len.value.toNat - transHeader message.data < 8))) := by
  rw [allFit_msgRxed]
  apply imp_congr_right
  intro _
  have isLen : (accessPdu message len).len =
    len.sub (transHeader message.data) := rfl
  have isSzmic : (accessPdu message len).szmic = message.szmic := rfl
  rw [AccessPdu.decryptUses, allFit_ccmUses, isLen, allFit_sub, and_assoc]
  apply and_congr_right
  intro taken
  apply and_congr_right
  intro header
  apply imp_congr_right
  intro _
  have left : (len.sub (transHeader message.data)).value.toNat =
    len.value.toNat - transHeader message.data := toNat_sub_size header
  rw [left, AccessPdu.micSize, isSzmic]
  simp only [taken, header, and_self, true_and]
  cases message.szmic with
  | true =>
      simp only [if_true, true_implies]
      omega
  | false =>
      simp only [Bool.false_eq_true, if_false, false_implies, iff_true]
      omega

end Message

end Meshctl.Net
