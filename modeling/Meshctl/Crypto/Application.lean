import Meshctl.Crypto.CcmInverse

/-! # Securing access messages -/

namespace Meshctl.Crypto

open Bytes

/-- The two nonces of access messages differ in their type. -/
def accessNonce (type : Byte) (seq : U32) (src dst : U16) (ivIndex : U32)
    (aszmic : Bool) : List Byte :=
  [type, if aszmic then 0x80 else 0x00, seq.extractLsb' 16 8,
    seq.extractLsb' 8 8, seq.extractLsb' 0 8] ++ be16 src ++ be16 dst ++
    be32 ivIndex

def applicationNonce : U32 → U16 → U16 → U32 → Bool → List Byte :=
  accessNonce 0x01

def deviceNonce : U32 → U16 → U16 → U32 → Bool → List Byte :=
  accessNonce 0x02

/-- Messages under a device key have no key identifier. -/
def messageNonce (keyId : Byte) : U32 → U16 → U16 → U32 → Bool → List Byte :=
  if keyId = 0 then deviceNonce else applicationNonce

/-! ## Labels of virtual addresses -/

/-- The bytes of a label; anything may follow them in memory. -/
def labelByte (label : Option Key) (index : Nat) : Byte :=
  match label with
  | none => 0
  | some label => label.extractLsb' (120 - 8 * index) 8

def labelLen (label : Option Key) : U16 :=
  match label with
  | none => 0
  | some _ => 16

theorem labelLen_short (label : Option Key) :
    (labelLen label).toNat < 0xff00 := by
  cases label with
  | none => decide
  | some _ => exact (by decide : (16 : U16).toNat < 0xff00)

/-- `mesh_crypto_application_encrypt` with a MIC of four bytes: what it writes
to its output. The length of the message is a byte. -/
def applicationEncrypt (aes : Key → AesBlock → AesBlock) (stale : AesBlock)
    (keyId : Byte) (seq : U32) (src dst : U16) (ivIndex : U32) (appKey : Key)
    (aad : Option Key) (msg : List Byte) (msgLen : Byte) : List Byte :=
  (aesCcmEncrypt (aes appKey) (.apart msg 0) stale
    (messageNonce keyId seq src dst ivIndex false) (labelByte aad)
    (labelLen aad) (msgLen.setWidth 16) 4
    (List.replicate (msgLen.toNat + 4) 0)).memory

/-- Encrypting into a buffer keeps its length. -/
theorem length_aesCcmEncrypt (cipher : AesBlock → AesBlock) (stale : AesBlock)
    (nonce msg out : List Byte) (aad : Nat → Byte) (aadLen msgLen : U16)
    (micSize : Nat) :
    (aesCcmEncrypt cipher (.apart msg 0) stale nonce aad aadLen msgLen micSize
      out).memory.length = out.length := by
  rw [aesCcmEncrypt]
  split
  next => rfl
  next =>
    dsimp only
    rw [CipherBuffers.writeAll_apart, length_splice]
    apply Execution.foldl_range_invariant _ _ _
      (fun _ (state : CcmState (List Byte)) =>
        state.memory.length = out.length) rfl
    intro j _ state same
    rw [encryptBlock]
    dsimp only
    rw [CipherBuffers.foldl_write (CipherBuffers.apart_streams msg 0) _ _
      (cipher (counterBlock nonce (j + 1))).get, CipherBuffers.writeAll_apart,
      length_splice, same]

/-- The output is as long as the message and its MIC. -/
theorem length_applicationEncrypt (aes : Key → AesBlock → AesBlock) (stale : AesBlock)
    (keyId : Byte) (seq : U32) (src dst : U16) (ivIndex : U32) (appKey : Key)
    (aad : Option Key) (msg : List Byte) (msgLen : Byte) :
    (applicationEncrypt aes stale keyId seq src dst ivIndex appKey aad msg
      msgLen).length = msgLen.toNat + 4 := by
  rw [applicationEncrypt, length_aesCcmEncrypt, List.length_replicate]

/-- A message of 1 to 255 bytes is sealed. -/
theorem applicationEncrypt_eq (aes : Key → AesBlock → AesBlock) (stale : AesBlock)
    (keyId : Byte) (seq : U32) (src dst : U16) (ivIndex : U32) (appKey : Key)
    (aad : Option Key) {msg : List Byte} {msgLen : Byte}
    (nonempty : 0 < msgLen.toNat) (length : msg.length = msgLen.toNat) :
    applicationEncrypt aes stale keyId seq src dst ivIndex appKey aad msg
        msgLen =
      ccmSealed (aes appKey) (messageNonce keyId seq src dst ivIndex false)
        (labelByte aad) (labelLen aad) 4 msg := by
  have isLen : msgLen.setWidth 16 = BitVec.ofNat 16 msg.length := by
    rw [length]
    exact (BitVec.ofNat_toNat 16 msgLen).symm
  have sent := @encrypted_eq (aes appKey) stale
    (messageNonce keyId seq src dst ivIndex false) (labelByte aad) (labelLen aad)
    4 msg (List.replicate (msgLen.toNat + 4) 0) (by omega) (by omega) (by omega)
    (labelLen_short aad) (by simp [length])
  rw [applicationEncrypt, isLen]
  exact congrArg CcmResult.memory sent

end Meshctl.Crypto
