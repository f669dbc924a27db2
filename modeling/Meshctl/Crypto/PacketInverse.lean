import Meshctl.Crypto.Packet

/-! # Decoding network packets inverts encoding them -/

namespace Meshctl.Crypto

open Bytes CounterMode

/-! ## What the decoder writes -/

namespace OutBuffer

variable (out : OutBuffer)

theorem bytes_unhide (pad : AesBlock) :
    ((List.range 6).foldl (fun out i =>
      out.put (1 + i) (out.get (1 + i) ^^^ pad.get i)) out).bytes =
      hidden pad out.bytes := by
  rw [← foldl_put_eq_hidden]
  exact (List.foldl_hom OutBuffer.bytes fun _ _ => rfl).symm

theorem bytes_writeAll (packet : List Byte) (index : Nat)
    (bytes : List Byte) :
    ((decodeBuffers packet).writeAll out index bytes).bytes =
      splice out.bytes (7 + index) bytes := by
  induction bytes generalizing out index with
  | nil => rw [splice_nil, CipherBuffers.writeAll]
  | cons byte rest induction =>
      rw [CipherBuffers.writeAll, induction, splice_cons]
      rfl

end OutBuffer

theorem decodeBuffers_streams (packet : List Byte) :
    (decodeBuffers packet).Streams := fun _ _ _ _ _ => rfl

/-! ## Packets that are sealed in place -/

section Sealed

variable {packet whole : List Byte} {out : OutBuffer}

/-- Only the header and the MIC size of a packet matter to its nonce. -/
theorem networkNonce_congr {other : List Byte}
    (same : ∀ index < 7, get packet index = get other index) (proxy : Bool)
    (ivIndex : U32) :
    networkNonce packet proxy ivIndex = networkNonce other proxy ivIndex := by
  have ctlByte := same 1 (by omega)
  have seqNum : slice packet 2 3 = slice other 2 3 := by
    apply ext_get (by simp)
    intro index inside
    rw [length_slice] at inside
    rw [get_slice inside, get_slice inside, same _ (by omega)]
  have src : slice packet 5 2 = slice other 5 2 := by
    apply ext_get (by simp)
    intro index inside
    rw [length_slice] at inside
    rw [get_slice inside, get_slice inside, same _ (by omega)]
  rw [networkNonce, networkNonce, packetCtl, packetCtl, ctlByte, seqNum, src]

theorem netMicSize_cases (packet : List Byte) :
    netMicSize packet = 4 ∨ netMicSize packet = 8 := by
  rw [netMicSize]
  split
  · exact Or.inr rfl
  · exact Or.inl rfl

/-- The pad is taken from bytes behind the header, which it does not hide. -/
theorem privacyPad_hidden (aes : Key → AesBlock → AesBlock) (privacyKey : Key)
    (ivIndex : U32) (pad : AesBlock) (long : 14 ≤ packet.length) :
    privacyPad aes privacyKey ivIndex (hidden pad packet) =
      privacyPad aes privacyKey ivIndex packet := by
  have same : slice (hidden pad packet) 7 7 = slice packet 7 7 := by
    apply ext_get (by simp)
    intro index inside
    rw [length_slice] at inside
    rw [get_slice inside, get_slice inside, get_hidden (by omega),
      if_neg (by omega)]
  rw [privacyPad, privacyPad, same]

/-- Copying a hidden packet and showing its header. -/
theorem hidden_splice_hidden {buffer : List Byte} (pad : AesBlock)
    (header : 7 ≤ packet.length) :
    hidden pad (splice buffer 0 (hidden pad packet)) =
      splice buffer 0 packet := by
  apply ext_get (by simp)
  intro index inside
  rw [length_hidden, length_splice] at inside
  rw [get_hidden (by simpa using inside)]
  by_cases inPacket : index < packet.length
  · rw [get_splice_inside inside (by omega) (by simpa using inPacket),
      get_splice_inside inside (by omega) (by omega), Nat.sub_zero,
      ← get_hidden (by simpa using inPacket), hidden_hidden]
  · rw [get_splice_outside (by simp; omega), get_splice_outside (by omega),
      if_neg (by omega)]

end Sealed

/-! ## The round trip -/

section RoundTrip

variable (aes : Key → AesBlock → AesBlock) (stale : AesBlock) (packet : List Byte)
  (proxy : Bool) (networkKey : Key) (ivIndex : U32) (privacyKey : Key)

/-- What follows the header, without the room for the MIC. -/
def packetPayload : List Byte :=
  slice packet 7 (packet.length - 7 - netMicSize packet)

/-- A packet with its payload sealed, before the header is hidden. -/
def sealedPacket : List Byte :=
  splice packet 7 (ccmSealed (aes networkKey)
    (networkNonce packet proxy ivIndex) (fun _ => 0) 0 (netMicSize packet)
    (packetPayload packet))

variable {aes stale packet proxy networkKey ivIndex privacyKey}

@[simp] theorem length_sealedPacket :
    (sealedPacket aes packet proxy networkKey ivIndex).length =
      packet.length := by
  rw [sealedPacket, length_splice]

theorem length_packetPayload :
    (packetPayload packet).length =
      packet.length - 7 - netMicSize packet := by
  rw [packetPayload, length_slice]

/-- The header is not sealed. -/
theorem get_sealedPacket_header {index : Nat} (inHeader : index < 7) :
    get (sealedPacket aes packet proxy networkKey ivIndex) index =
      get packet index := by
  rw [sealedPacket, get_splice_outside (Or.inl inHeader)]

theorem slice_sealedPacket (long : 16 ≤ packet.length) :
    slice (sealedPacket aes packet proxy networkKey ivIndex) 7
        (packet.length - 7) =
      ccmSealed (aes networkKey) (networkNonce packet proxy ivIndex)
        (fun _ => 0) 0 (netMicSize packet) (packetPayload packet) := by
  have micSize := netMicSize_cases packet
  have length := @length_ccmSealed (aes networkKey)
    (networkNonce packet proxy ivIndex) (fun _ => 0) 0 (netMicSize packet)
    (by omega) (packetPayload packet)
  rw [length_packetPayload] at length
  apply ext_get
  · rw [length_slice, length]
    omega
  · intro index inside
    rw [length_slice] at inside
    rw [get_slice inside, sealedPacket, get_splice_inside (by omega) (by omega)
      (by omega), Nat.add_sub_cancel_left]

theorem packetEncode_eq (long : 16 ≤ packet.length)
    (small : packet.length < 2 ^ 8) :
    packetEncode aes stale packet (BitVec.ofNat 8 packet.length) networkKey
        ivIndex privacyKey =
      let proxy : Bool := getBe16 packet 7 = 0
      let sent := sealedPacket aes packet proxy networkKey ivIndex
      (true, hidden (privacyPad aes privacyKey ivIndex sent) sent) := by
  have micSize := netMicSize_cases packet
  have isLen : (BitVec.ofNat 8 packet.length).setWidth 16 - 7 -
      BitVec.ofNat 16 (netMicSize packet) =
      BitVec.ofNat 16 (packetPayload packet).length := by
    have seven : (7 : U16).toNat = 7 := rfl
    rw [length_packetPayload]
    apply BitVec.eq_of_toNat_eq
    simp only [BitVec.toNat_sub, BitVec.toNat_setWidth, BitVec.toNat_ofNat,
      seven]
    omega
  have length : (packetPayload packet).length =
      packet.length - 7 - netMicSize packet := length_packetPayload
  have written := @aesCcmEncrypt_eq _ (aes networkKey) (.inPlace 7) stale
    (networkNonce packet (getBe16 packet 7 = 0) ivIndex) (fun _ => 0) 0
    (netMicSize packet) packet (CipherBuffers.inPlace_streams 7)
    (packetPayload packet)
    (fun index inside => (get_slice (length ▸ inside)).symm)
    (by omega) (by omega) (by decide)
  rw [packetEncode]
  dsimp only
  rw [isLen, written]
  dsimp only
  rw [CipherBuffers.writeAll_inPlace, foldl_put_eq_hidden]
  rfl

/-! ### The header that is shown -/

section Shown

variable {buffer : List Byte} (room : packet.length ≤ buffer.length)

include room

/-- A sealed packet at the front of the output. -/
theorem get_shown {index : Nat} (inside : index < packet.length) :
    get (splice buffer 0 (sealedPacket aes packet proxy networkKey ivIndex))
        index =
      get (sealedPacket aes packet proxy networkKey ivIndex) index := by
  rw [get_splice_inside (by omega) (by omega) (by simpa using inside),
    Nat.sub_zero]

theorem get_shown_header (long : 16 ≤ packet.length) {index : Nat}
    (inHeader : index < 7) :
    get (splice buffer 0 (sealedPacket aes packet proxy networkKey ivIndex))
        index =
      get packet index := by
  rw [get_shown room (by omega), get_sealedPacket_header inHeader]

theorem getBe16_shown (long : 16 ≤ packet.length) :
    getBe16 (splice buffer 0 (sealedPacket aes packet proxy networkKey ivIndex))
        5 =
      getBe16 packet 5 := by
  rw [getBe16, getBe16, get_shown_header room long (by omega),
    get_shown_header room long (by omega)]

theorem netMicSize_shown (long : 16 ≤ packet.length) :
    netMicSize
        (splice buffer 0 (sealedPacket aes packet proxy networkKey ivIndex)) =
      netMicSize packet := by
  rw [netMicSize, netMicSize, packetCtl, packetCtl,
    get_shown_header room long (by omega)]

end Shown

/-! ### The payload that is decrypted -/

/-- What is read behind a hidden header is the sealed payload. -/
theorem get_hidden_sealedPacket (long : 16 ≤ packet.length) (pad : AesBlock)
    {index : Nat} (inside : index < packet.length - 7) :
    get (hidden pad (sealedPacket aes packet proxy networkKey ivIndex))
        (7 + index) =
      get (ccmSealed (aes networkKey) (networkNonce packet proxy ivIndex)
        (fun _ => 0) 0 (netMicSize packet) (packetPayload packet)) index := by
  have length : (sealedPacket aes packet proxy networkKey ivIndex).length =
      packet.length := length_sealedPacket
  rw [← slice_sealedPacket long, get_slice inside, get_hidden (by omega),
    if_neg (by omega)]

theorem aesCcmDecrypt_sealed (long : 16 ≤ packet.length)
    (small : packet.length < 2 ^ 8) (pad : AesBlock) (out : OutBuffer) :
    aesCcmDecrypt (aes networkKey)
        (decodeBuffers
          (hidden pad (sealedPacket aes packet proxy networkKey ivIndex)))
        stale (networkNonce packet proxy ivIndex) (fun _ => 0) 0
        ((BitVec.ofNat 8 packet.length).setWidth 16 - 7) true
        (netMicSize packet) out =
      { result := true
        mic := ccmTag (aes networkKey) (networkNonce packet proxy ivIndex)
          (fun _ => 0) 0 (netMicSize packet) (packetPayload packet)
        memory := (decodeBuffers (hidden pad (sealedPacket aes packet proxy
          networkKey ivIndex))).writeAll out 0 (packetPayload packet) } := by
  have micSize := netMicSize_cases packet
  have payload : (packetPayload packet).length =
      packet.length - 7 - netMicSize packet := length_packetPayload
  have encLen : (BitVec.ofNat 8 packet.length).setWidth 16 - 7 =
      BitVec.ofNat 16 (packet.length - 7) := by
    have seven : (7 : U16).toNat = 7 := rfl
    apply BitVec.eq_of_toNat_eq
    simp only [BitVec.toNat_sub, BitVec.toNat_setWidth, BitVec.toNat_ofNat,
      seven]
    omega
  have sealedLength := @length_ccmSealed (aes networkKey)
    (networkNonce packet proxy ivIndex) (fun _ => 0) 0 (netMicSize packet)
    (by omega) (packetPayload packet)
  have plain := @ccmPlain_ccmSealed (aes networkKey)
    (networkNonce packet proxy ivIndex) (fun _ => 0) 0 (netMicSize packet)
    (by omega) (packetPayload packet)
  have reads (index : Nat) := @get_hidden_sealedPacket aes packet proxy
    networkKey ivIndex long pad index
  generalize ccmSealed (aes networkKey) (networkNonce packet proxy ivIndex)
    (fun _ => 0) 0 (netMicSize packet) (packetPayload packet) = text at *
  have textLen : packet.length - 7 = text.length := by omega
  rw [textLen] at reads
  have opensTo := @aesCcmDecrypt_eq _ (aes networkKey)
    (decodeBuffers (hidden pad (sealedPacket aes packet proxy networkKey
      ivIndex))) stale (networkNonce packet proxy ivIndex) (fun _ => 0) 0
    (netMicSize packet) out (decodeBuffers_streams _) text reads micSize
    (by omega) (by omega) (by decide) true
  rw [encLen, textLen, opensTo, plain, Bool.true_or]

/-- The MIC in the packet is the tag of the payload. -/
theorem get_sealedPacket_mic (long : 16 ≤ packet.length) {index : Nat}
    (inMic : index < netMicSize packet) :
    get (sealedPacket aes packet proxy networkKey ivIndex)
        (packet.length - netMicSize packet + index) =
      (ccmTag (aes networkKey) (networkNonce packet proxy ivIndex) (fun _ => 0)
        0 (netMicSize packet) (packetPayload packet)).get index := by
  have micSize := netMicSize_cases packet
  have payload : (packetPayload packet).length =
      packet.length - 7 - netMicSize packet := length_packetPayload
  have behind : packet.length - netMicSize packet + index =
      7 + ((packetPayload packet).length + index) := by omega
  have isTag : (ccmSealed (aes networkKey) (networkNonce packet proxy ivIndex)
      (fun _ => 0) 0 (netMicSize packet) (packetPayload packet)).drop
        (packetPayload packet).length =
      sentTag (aes networkKey) (networkNonce packet proxy ivIndex)
        (fun _ => 0) 0 (netMicSize packet) (packetPayload packet) :=
    drop_sealed _
  have sealedByte : get (slice (sealedPacket aes packet proxy networkKey
      ivIndex) 7 (packet.length - 7)) ((packetPayload packet).length + index) =
      get (sealedPacket aes packet proxy networkKey ivIndex)
        (7 + ((packetPayload packet).length + index)) := get_slice (by omega)
  rw [behind, ← sealedByte, slice_sealedPacket long, ← get_drop, isTag, sentTag,
    get_take inMic, Buffer.get]

/-- The packet with its payload, over the header and the MIC that are there. -/
theorem slice_opened {buffer : List Byte} (long : 16 ≤ packet.length)
    (room : packet.length ≤ buffer.length) :
    slice (splice
        (splice (splice buffer 0
          (sealedPacket aes packet proxy networkKey ivIndex)) 7
          (packetPayload packet))
        (packet.length - netMicSize packet)
        (List.replicate (netMicSize packet) 0)) 0 packet.length =
      splice packet (packet.length - netMicSize packet)
        (List.replicate (netMicSize packet) 0) := by
  have micSize := netMicSize_cases packet
  have payload : (packetPayload packet).length =
      packet.length - 7 - netMicSize packet := length_packetPayload
  have zeros : (List.replicate (netMicSize packet) (0 : Byte)).length =
      netMicSize packet := List.length_replicate
  apply ext_get (by simp)
  intro index inside
  rw [length_slice] at inside
  rw [get_slice inside, Nat.zero_add]
  by_cases inMic : packet.length - netMicSize packet ≤ index
  · rw [get_splice_inside (by simp; omega) inMic (by omega),
      get_splice_inside inside inMic (by omega)]
  · have notMic : get (splice packet (packet.length - netMicSize packet)
        (List.replicate (netMicSize packet) 0)) index = get packet index :=
      get_splice_outside (by omega)
    rw [notMic, get_splice_outside (by omega)]
    by_cases inHeader : index < 7
    · rw [get_splice_outside (by omega), get_shown_header room long inHeader]
    · obtain ⟨offset, isIndex⟩ := Nat.exists_eq_add_of_le
        (Nat.le_of_not_lt inHeader)
      subst isIndex
      rw [get_splice_inside (by simp; omega) (by omega) (by omega),
        Nat.add_sub_cancel_left, packetPayload, get_slice (by omega)]

/-- Decoding a sealed packet with a hidden header. -/
theorem packetDecode_sealed (long : 16 ≤ packet.length)
    (small : packet.length < 2 ^ 8) {out : OutBuffer}
    (room : packet.length ≤ out.bytes.length)
    (unicast : getBe16 packet 5 ≠ 0 ∧ getBe16 packet 5 < 0x8000) :
    let sent := sealedPacket aes packet proxy networkKey ivIndex
    let decoded := packetDecode aes stale
      (hidden (privacyPad aes privacyKey ivIndex sent) sent)
      (BitVec.ofNat 8 packet.length) proxy out ivIndex networkKey privacyKey
    decoded.1 = true ∧
      slice decoded.2.bytes 0 packet.length =
        splice packet (packet.length - netMicSize packet)
          (List.replicate (netMicSize packet) 0) := by
  have micSize := netMicSize_cases packet
  intro sent
  have sentLength : sent.length = packet.length := length_sealedPacket
  have size : (BitVec.ofNat 8 packet.length).toNat = packet.length := by
    rw [BitVec.toNat_ofNat, Nat.mod_eq_of_lt small]
  generalize isPad : privacyPad aes privacyKey ivIndex sent = pad
  have whole : slice (hidden pad sent) 0 packet.length = hidden pad sent := by
    apply ext_get (by simp [sentLength])
    intro index inside
    rw [length_slice] at inside
    rw [get_slice inside, Nat.zero_add]
  have legal : ¬(getBe16 packet 5 = 0 ∨ 0x8000 ≤ getBe16 packet 5) := by
    rw [not_or, BitVec.not_le]
    exact unicast
  rw [packetDecode, if_neg (by omega)]
  dsimp only
  rw [size, whole, privacyPad_hidden _ _ _ _ (by omega), isPad]
  generalize isOpened : (List.range 6).foldl (fun out i =>
    out.put (1 + i) (out.get (1 + i) ^^^ pad.get i))
    (out.copy 0 (hidden pad sent)) = opened
  have openedBytes : opened.bytes = splice out.bytes 0 sent := by
    rw [← isOpened, OutBuffer.bytes_unhide]
    exact hidden_splice_hidden pad (by omega)
  have header : ∀ index < 7,
      get (splice out.bytes 0 sent) index = get packet index :=
    fun _ inHeader => get_shown_header room long inHeader
  have sameNonce := networkNonce_congr header proxy ivIndex
  rw [openedBytes, getBe16_shown room long, if_neg legal,
    netMicSize_shown room long, sameNonce, aesCcmDecrypt_sealed long small]
  dsimp only
  rw [if_neg (by decide)]
  have written : ((decodeBuffers (hidden pad sent)).writeAll opened 0
      (packetPayload packet)).bytes =
      splice (splice out.bytes 0 sent) 7 (packetPayload packet) := by
    rw [OutBuffer.bytes_writeAll, openedBytes]
  -- The stored MIC was not overwritten, so it is the tag that is compared.
  have mic : ((List.range (netMicSize packet)).map fun index =>
      (ccmTag (aes networkKey) (networkNonce packet proxy ivIndex)
        (fun _ => 0) 0 (netMicSize packet) (packetPayload packet)).get index ^^^
        ((decodeBuffers (hidden pad sent)).writeAll opened 0
          (packetPayload packet)).get
          (packet.length - netMicSize packet + index)) =
      List.replicate (netMicSize packet) 0 := by
    apply ext_get (by simp)
    intro index inside
    have inMic : index < netMicSize packet := by simpa using inside
    have payload : (packetPayload packet).length =
        packet.length - 7 - netMicSize packet := length_packetPayload
    rw [get_map_range inMic, get_replicate inMic, OutBuffer.get, written,
      get_splice_outside (by omega), get_shown room (by omega),
      get_sealedPacket_mic long inMic, BitVec.xor_self]
    rfl
  rw [mic, OutBuffer.copy, written]
  exact ⟨by simp, slice_opened long room⟩

end RoundTrip

end Meshctl.Crypto
