import Meshctl.Crypto.PacketInverse

/-! # Packets in longer buffers

Packets are encoded and decoded at the front of buffers that have more room.
-/

namespace Meshctl.Crypto

open Bytes

section Buffers

variable {aes : Key → AesBlock → AesBlock} {stale : AesBlock}
  {buffer : List Byte} {size : Nat} {proxy : Bool} {networkKey privacyKey : Key}
  {ivIndex : U32}

theorem take_splice {source : List Byte} {offset : Nat} :
    (splice buffer offset source).take size =
      splice (buffer.take size) offset source := by
  apply ext_get (by simp)
  intro index inside
  rw [List.length_take, length_splice] at inside
  rw [get_take (by omega)]
  by_cases copied : offset ≤ index ∧ index < offset + source.length
  · rw [get_splice_inside (by omega) copied.1 copied.2,
      get_splice_inside (by rw [List.length_take]; omega) copied.1 copied.2]
  · rw [get_splice_outside (by omega), get_splice_outside (by omega),
      get_take (by omega)]

theorem take_hidden {pad : AesBlock} :
    (hidden pad buffer).take size = hidden pad (buffer.take size) := by
  apply ext_get (by simp)
  intro index inside
  rw [List.length_take, length_hidden] at inside
  rw [get_take (by omega), get_hidden (by omega),
    get_hidden (by rw [List.length_take]; omega), get_take (by omega)]

theorem netMicSize_take (long : 7 ≤ size) :
    netMicSize (buffer.take size) = netMicSize buffer := by
  rw [netMicSize, netMicSize, packetCtl, packetCtl, get_take (by omega)]

theorem privacyPad_take (long : 14 ≤ size) :
    privacyPad aes privacyKey ivIndex (buffer.take size) =
      privacyPad aes privacyKey ivIndex buffer := by
  have same : slice (buffer.take size) 7 7 = slice buffer 7 7 := by
    apply ext_get (by simp)
    intro index inside
    rw [length_slice] at inside
    rw [get_slice inside, get_slice inside, get_take (by omega)]
  rw [privacyPad, privacyPad, same]

/-- Encoding a packet at the front of a buffer does not look at what follows
it. -/
theorem packetEncode_take (long : 16 ≤ size) (small : size < 2 ^ 8)
    (room : size ≤ buffer.length) :
    (packetEncode aes stale buffer (BitVec.ofNat 8 size) networkKey ivIndex
        privacyKey).2.take size =
      (packetEncode aes stale (buffer.take size) (BitVec.ofNat 8 size)
        networkKey ivIndex privacyKey).2 := by
  have length : (buffer.take size).length = size := by
    rw [List.length_take]
    omega
  have whole := @packetEncode_eq aes stale (buffer.take size) networkKey ivIndex
    privacyKey (by omega) (by omega)
  rw [length] at whole
  have micSize := netMicSize_cases buffer
  have header : ∀ index < 7, get buffer index = get (buffer.take size) index :=
    fun index inHeader => (get_take (by omega)).symm
  have sameMic := @netMicSize_take buffer size (by omega)
  have sameProxy : getBe16 buffer 7 = getBe16 (buffer.take size) 7 := by
    rw [getBe16, getBe16, get_take (by omega), get_take (by omega)]
  have payload : (packetPayload (buffer.take size)).length =
      size - 7 - netMicSize buffer := by
    rw [length_packetPayload, length, sameMic]
  have isLen : (BitVec.ofNat 8 size).setWidth 16 - 7 -
      BitVec.ofNat 16 (netMicSize buffer) =
      BitVec.ofNat 16 (packetPayload (buffer.take size)).length := by
    have seven : (7 : U16).toNat = 7 := rfl
    rw [payload]
    apply BitVec.eq_of_toNat_eq
    simp only [BitVec.toNat_sub, BitVec.toNat_setWidth, BitVec.toNat_ofNat,
      seven]
    omega
  have reads : ∀ index < (packetPayload (buffer.take size)).length,
      (CipherBuffers.inPlace 7).read buffer index =
        get (packetPayload (buffer.take size)) index := by
    intro index inside
    rw [packetPayload, get_slice (by rw [length, sameMic]; omega),
      get_take (by omega)]
    rfl
  have written := @aesCcmEncrypt_eq _ (aes networkKey) (.inPlace 7) stale
    (networkNonce (buffer.take size) (getBe16 (buffer.take size) 7 = 0) ivIndex)
    (fun _ => 0) 0 (netMicSize buffer) buffer (CipherBuffers.inPlace_streams 7)
    (packetPayload (buffer.take size)) reads (by omega) (by omega) (by decide)
  rw [whole, packetEncode]
  dsimp only
  rw [networkNonce_congr header, sameProxy, isLen, written]
  dsimp only
  rw [if_neg (by decide), CipherBuffers.writeAll_inPlace, foldl_put_eq_hidden]
  dsimp only
  rw [take_hidden, take_splice, ← @privacyPad_take aes _ size privacyKey ivIndex
    (by omega), take_splice, sealedPacket, sameMic]

/-- What is written does not depend on what is read. -/
theorem writeAll_decodeBuffers (first second : List Byte) (out : OutBuffer)
    (index : Nat) (bytes : List Byte) :
    (decodeBuffers first).writeAll out index bytes =
      (decodeBuffers second).writeAll out index bytes := by
  induction bytes generalizing out index with
  | nil => rfl
  | cons byte rest induction =>
      rw [CipherBuffers.writeAll, CipherBuffers.writeAll, induction]
      rfl

/-- Decoding reads only what belongs to the packet. -/
theorem packetDecode_take (long : 16 ≤ size) (small : size < 2 ^ 8)
    (out : OutBuffer) :
    packetDecode aes stale (buffer.take size) (BitVec.ofNat 8 size) proxy out
        ivIndex networkKey privacyKey =
      packetDecode aes stale buffer (BitVec.ofNat 8 size) proxy out ivIndex
        networkKey privacyKey := by
  have isSize : (BitVec.ofNat 8 size).toNat = size := by
    rw [BitVec.toNat_ofNat, Nat.mod_eq_of_lt small]
  have sameSlice : slice (buffer.take size) 0 size = slice buffer 0 size := by
    apply ext_get (by simp)
    intro index inside
    rw [length_slice] at inside
    rw [get_slice inside, get_slice inside, get_take (by omega)]
  have encLen : (BitVec.ofNat 8 size).setWidth 16 - 7 =
      BitVec.ofNat 16 (slice buffer 7 (size - 7)).length := by
    have seven : (7 : U16).toNat = 7 := rfl
    rw [length_slice]
    apply BitVec.eq_of_toNat_eq
    simp only [BitVec.toNat_sub, BitVec.toNat_setWidth, BitVec.toNat_ofNat,
      seven]
    omega
  have opened : ∀ (nonce : List Byte) (micSize : Nat) (memory : OutBuffer),
      micSize = 4 ∨ micSize = 8 →
      aesCcmDecrypt (aes networkKey) (decodeBuffers (buffer.take size)) stale
          nonce (fun _ => 0) 0 ((BitVec.ofNat 8 size).setWidth 16 - 7) true
          micSize memory =
        aesCcmDecrypt (aes networkKey) (decodeBuffers buffer) stale
          nonce (fun _ => 0) 0 ((BitVec.ofNat 8 size).setWidth 16 - 7) true
          micSize memory := by
    intro nonce micSize memory isMicSize
    have reads : ∀ bytes : List Byte, (∀ index < size, get bytes index =
        get buffer index) → ∀ index < (slice buffer 7 (size - 7)).length,
        (decodeBuffers bytes).read memory index =
          get (slice buffer 7 (size - 7)) index := by
      intro bytes same index inside
      rw [length_slice] at inside
      rw [get_slice inside]
      exact same _ (by omega)
    have inBuffer := length_slice buffer 7 (size - 7)
    have front := @aesCcmDecrypt_eq _ (aes networkKey)
      (decodeBuffers (buffer.take size)) stale nonce (fun _ => 0) 0 micSize
      memory (decodeBuffers_streams _) _ (reads _ fun _ => get_take) isMicSize
      (by omega) (by omega) (by decide) true
    have whole := @aesCcmDecrypt_eq _ (aes networkKey)
      (decodeBuffers buffer) stale nonce (fun _ => 0) 0 micSize
      memory (decodeBuffers_streams _) _ (reads _ fun _ _ => rfl) isMicSize
      (by omega) (by omega) (by decide) true
    rw [encLen, front, whole, writeAll_decodeBuffers]
  rw [packetDecode, packetDecode, isSize, sameSlice,
    privacyPad_take (by omega)]
  split
  · rfl
  · dsimp only
    split
    · rfl
    · rw [opened _ _ _ (netMicSize_cases _)]

end Buffers

end Meshctl.Crypto
