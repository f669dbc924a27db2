import Meshctl.Crypto.Application
import Meshctl.Net.MessageInProgress

/-! # Recovering what was sent

The payload of an access message is encrypted into its record, from where the
segments are cut. The length is a byte on the way to the encryption.
-/

namespace Meshctl.Net

open Bytes Crypto

section

variable (aes : Key → AesBlock → AesBlock) (stale : AesBlock)

/-- An environment that encrypts payloads as `crypto.c` does. -/
def cryptoEnv (env : NetEnv) : NetEnv :=
  { env with applicationEncrypt := applicationEncrypt aes stale }

/-- The first `len` bytes of the data of a record and the MIC behind them,
decrypted with the key, the label and the nonce of the message. -/
def decryptRecord (aad : Option Key) (keys : EncKeys) (len : U16)
    (sar : MeshSarMsg) (out : List Byte) : CcmResult (List Byte) :=
  aesCcmDecrypt (aes keys.appEncKey) (.apart sar.data 0) stale
    (messageNonce keys.akfAid sar.seqAuth sar.src (sar.dst.setWidth 16)
      sar.ivIndex sar.szmic)
    (labelByte aad) (labelLen aad) (len + 4) false 4 out

end

/-- Every payload of the length is recovered from its record, and its segments
fit the fields and the mask. -/
def RecoversPayloads (len : U16) : Prop :=
  ∀ (aes : Key → AesBlock → AesBlock) (stale stale' : AesBlock) (env : NetEnv)
    (st : NetState) (ttl : Byte) (src : U16) (dst : U32) (aad : Option Key)
    (keys : EncKeys) (payload out : List Byte),
    payload.length = len.toNat → out.length = len.toNat →
    let sar := accessRecord (cryptoEnv aes stale env) st ttl src dst aad keys
      payload len
    let received := decryptRecord aes stale' aad keys len sar out
    received.result = true ∧ received.memory = payload ∧ sar.segN.toNat ≤ 31

/-! ## What is decrypted -/

section Decrypt

variable {aes : Key → AesBlock → AesBlock} {stale : AesBlock} {aad : Option Key}
  {keys : EncKeys} {len : U16} {sar : MeshSarMsg} {out : List Byte}

theorem decryptRecord_eq (nonempty : 0 < len.toNat) (accepted : len.toNat ≤ 384)
    (room : out.length = len.toNat) :
    decryptRecord aes stale aad keys len sar out =
      let cipher := aes keys.appEncKey
      let nonce := messageNonce keys.akfAid sar.seqAuth sar.src
        (sar.dst.setWidth 16) sar.ivIndex sar.szmic
      let whole := slice sar.data 0 (len.toNat + 4)
      ⟨decide (whole.drop len.toNat = sentTag cipher nonce (labelByte aad)
          (labelLen aad) 4 (ccmPlain cipher nonce 4 whole)),
        ccmTag cipher nonce (labelByte aad) (labelLen aad) 4
          (ccmPlain cipher nonce 4 whole),
        ccmPlain cipher nonce 4 whole⟩ := by
  dsimp only
  have total : (slice sar.data 0 (len.toNat + 4)).length = len.toNat + 4 :=
    length_slice _ _ _
  have isLen : len + 4 =
      BitVec.ofNat 16 (slice sar.data 0 (len.toNat + 4)).length := by
    apply BitVec.eq_of_toNat_eq
    rw [total]
    simp
  have reads : ∀ index < (slice sar.data 0 (len.toNat + 4)).length,
      (CipherBuffers.apart sar.data 0).read out index =
        get (slice sar.data 0 (len.toNat + 4)) index := by
    intro index inside
    rw [get_slice (by omega), Nat.zero_add]
    rfl
  have decrypted := @aesCcmDecrypt_eq _ (aes keys.appEncKey)
    (.apart sar.data 0) stale (messageNonce keys.akfAid sar.seqAuth sar.src
      (sar.dst.setWidth 16) sar.ivIndex sar.szmic) (labelByte aad)
    (labelLen aad) 4 out (CipherBuffers.apart_streams _ _)
    (slice sar.data 0 (len.toNat + 4)) reads (Or.inl rfl) (by omega) (by omega)
    (labelLen_short aad) false
  rw [decryptRecord, isLen, decrypted, CipherBuffers.writeAll_apart, splice_all,
    Bool.false_or, total, Nat.add_sub_cancel]
  rw [length_ccmPlain, total, room, Nat.add_sub_cancel]

end Decrypt

/-! ## Which payloads are recovered -/

theorem segN_short {len : U16} (short : len.toNat ≤ 255) :
    (BitVec.ofNat 8 (segMax (len.toNat + 4)) : Byte).toNat =
        segMax (len.toNat + 4) ∧
      segMax (len.toNat + 4) ≤ 31 ∧
      len.toNat + 4 ≤ 20 + 12 * segMax (len.toNat + 4) := by
  rw [BitVec.toNat_ofNat, segMax, maxUnsegLen, maxSegLen]
  split <;> omega

/-- A payload whose length is a byte is recovered. -/
theorem recoversPayloads_of_short {len : U16} (nonempty : 0 < len.toNat)
    (short : len.toNat ≤ 255) : RecoversPayloads len := by
  intro aes stale stale' env st ttl src dst aad keys payload out length room
  rcases segN_short short with ⟨segN, small, fits⟩
  have isByte : (len.setWidth 8).toNat = len.toNat := by
    rw [BitVec.toNat_setWidth]
    omega
  have sealedLen := @length_ccmSealed (aes keys.appEncKey)
    (messageNonce keys.akfAid st.seqNum src (dst.setWidth 16) st.transmitIv
      false) (labelByte aad) (labelLen aad) 4 (by decide) payload
  have whole : slice (accessRecord (cryptoEnv aes stale env) st ttl src dst aad
      keys payload len).data 0 (len.toNat + 4) =
      ccmSealed (aes keys.appEncKey) (messageNonce keys.akfAid st.seqNum src
        (dst.setWidth 16) st.transmitIv false) (labelByte aad) (labelLen aad) 4
        payload := by
    change slice (splice (List.replicate (20 + 12 * (BitVec.ofNat 8
      (segMax (len.toNat + 4)) : Byte).toNat) 0) 0 (applicationEncrypt aes stale
        keys.akfAid st.seqNum src (dst.setWidth 16) st.transmitIv
        keys.appEncKey aad payload (len.setWidth 8))) 0 (len.toNat + 4) = _
    rw [applicationEncrypt_eq aes stale _ _ _ _ _ _ _ (by omega) (by omega),
      ← length, ← sealedLen]
    apply slice_splice
    rw [sealedLen, List.length_replicate, length, segN]
    exact fits
  have tag : (ccmSealed (aes keys.appEncKey) (messageNonce keys.akfAid st.seqNum
      src (dst.setWidth 16) st.transmitIv false) (labelByte aad) (labelLen aad) 4
      payload).drop len.toNat = sentTag (aes keys.appEncKey)
        (messageNonce keys.akfAid st.seqNum src (dst.setWidth 16) st.transmitIv
          false) (labelByte aad) (labelLen aad) 4 payload := by
    rw [← length]
    exact CounterMode.drop_sealed payload
  dsimp only
  rw [decryptRecord_eq nonempty (by omega) room]
  dsimp only
  rw [whole]
  have plain := @ccmPlain_ccmSealed (aes keys.appEncKey)
    (messageNonce keys.akfAid st.seqNum src (dst.setWidth 16) st.transmitIv
      false) (labelByte aad) (labelLen aad) 4 (by decide) payload
  refine ⟨decide_eq_true ?_, plain, ?_⟩
  · rw [tag]
    exact congrArg _ plain.symm
  · change (BitVec.ofNat 8 (segMax (len.toNat + 4)) : Byte).toNat ≤ 31
    omega

/-- The bytes behind the first 256 are not encrypted at all. -/
theorem not_recoversPayloads_of_long {len : U16} (long : 256 ≤ len.toNat)
    (accepted : len.toNat ≤ 384) : ¬RecoversPayloads len := by
  intro recovers
  have isByte : (len.setWidth 8).toNat = len.toNat - 256 := by
    rw [BitVec.toNat_setWidth]
    omega
  have received := (recovers (fun _ _ => .zero) .zero .zero plainEnv openNode 0 1
    2 none ⟨0, 0, 0⟩ (List.replicate len.toNat 0xff)
    (List.replicate len.toNat 0) (by simp) (by simp)).2.1
  rw [decryptRecord_eq (by omega) accepted (by simp)] at received
  have last := congrArg (get · (len.toNat - 1)) received
  dsimp only at last
  rw [ccmPlain, CounterMode.get_mask (by simp; omega), get_take (by simp; omega),
    get_slice (by omega), Nat.zero_add] at last
  have unsent : get (accessRecord (cryptoEnv (fun _ _ => .zero) .zero plainEnv)
      openNode 0 1 2 none ⟨0, 0, 0⟩ (List.replicate len.toNat 0xff) len).data
      (len.toNat - 1) = 0 := by
    change get (splice (List.replicate (20 + 12 * (BitVec.ofNat 8
      (segMax (len.toNat + 4)) : Byte).toNat) 0) 0 (applicationEncrypt
        (fun _ _ => .zero) .zero 0 openNode.seqNum 1 _ openNode.transmitIv 0
        none (List.replicate len.toNat 0xff) (len.setWidth 8)))
      (len.toNat - 1) = 0
    rw [get_splice_outside (by rw [length_applicationEncrypt]; omega)]
    exact get_replicate_zero _ _
  rw [unsent, get_replicate (by omega), CounterMode.stream] at last
  change (0 : Byte) ^^^ get (List.replicate 16 0) _ = 0xff at last
  rw [get_replicate_zero] at last
  cases last

theorem payloads_recovered_iff {len : U16} (nonempty : 1 ≤ len)
    (accepted : len ≤ 384) : RecoversPayloads len ↔ len ≤ 255 := by
  simp only [BitVec.le_def, BitVec.ofNat_eq_ofNat, BitVec.toNat_ofNat]
    at nonempty accepted ⊢
  constructor
  · intro recovers
    by_contra long
    exact not_recoversPayloads_of_long (by omega) (by omega) recovers
  · intro short
    exact recoversPayloads_of_short (by omega) (by omega)

/-- A payload of 256 bytes. -/
theorem payloads_not_always_recovered :
    ¬∀ len : U16, 1 ≤ len → len ≤ 384 → RecoversPayloads len := by
  intro always
  exact not_recoversPayloads_of_long (by decide) (by decide)
    (always 256 (by decide) (by decide))

theorem payloads_recovered_iff_one_byte :
    RecoversPayloads 1 ↔ (1 : U16) ≤ 255 :=
  payloads_recovered_iff (by decide) (by decide)

end Meshctl.Net
