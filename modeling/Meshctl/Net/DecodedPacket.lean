import Meshctl.Net.MessageLengths
import Meshctl.Net.Receive

/-! # The lengths of network packets

The MIC of a decoded packet is zero. A packet whose MIC reaches into its
transport PDU is therefore no segment and has no opcode.
-/

namespace Meshctl.Net

open Bytes Crypto

/-! ## Decoding -/

section Decode

variable {env : DecodeEnv} {rx : RxPacket} {parts : NetKeyParts}

/-- Decoding wraps no length unless there is no room for the MIC. -/
theorem allFit_packetDecodeUses (env : DecodeEnv) (rx : RxPacket)
    (parts : NetKeyParts) :
    AllFit (packetDecodeUses env rx parts) ↔
      ¬NoRoomForMic env.aes parts.privacyKey rx.ivIndex rx.packet rx.size := by
  rw [packetDecodeUses, NoRoomForMic]
  generalize shownHeader env.aes parts.privacyKey rx.ivIndex rx.packet = header
  split
  next givenUp =>
    apply iff_of_true allFit_nil
    rintro ⟨size, legal, _⟩
    rcases givenUp with short | illegal
    · omega
    · exact illegal legal
  next decrypted =>
    rw [not_or, not_not] at decrypted
    rcases decrypted with ⟨long, legal⟩
    have bound := rx.size.isLt
    have value : (rx.size.setWidth 16).toNat = rx.size.toNat := by
      rw [BitVec.toNat_setWidth]
      omega
    have behind : ((⟨rx.size.setWidth 16, []⟩ : Length).sub 7).value.toNat =
        rx.size.toNat - 7 := by
      have inPacket : 7 ≤ (rx.size.setWidth 16).toNat := by omega
      rw [← value]
      exact toNat_sub_size inPacket
    rw [allFit_append, allFit_ccmUses, allFit_sub, allFit_sub, behind]
    simp only [allFit_nil, true_and, value, netMicSize, legal]
    cases packetCtl header with
    | true =>
        simp only [if_true, and_true]
        omega
    | false =>
        simp only [Bool.false_eq_true, if_false, and_false, not_false_eq_true,
          iff_true]
        omega

/-- The bytes of the MIC are zero. -/
structure EndsInZeros (msg : List Byte) (size : Nat) : Prop where
  long : 14 ≤ size
  zeros : ∀ index, size - netMicSize msg ≤ index → index < size →
    get msg index = 0

theorem netMicSize_congr {left right : List Byte}
    (same : get left 1 = get right 1) : netMicSize left = netMicSize right := by
  rw [netMicSize, netMicSize, packetCtl, packetCtl, same]

theorem decodeAttempt_endsInZeros
    (decodes : (decodeAttempt env rx parts).1 = true) :
    EndsInZeros (decodeAttempt env rx parts).2.bytes rx.size.toNat := by
  by_cases short : rx.size.toNat < 14
  · have refused : decodeAttempt env rx parts = (false, ⟨env.tmp.bytes, []⟩) :=
      packetDecode_short short
    rw [refused] at decodes
    cases decodes
  · have long : 14 ≤ rx.size.toNat := Nat.le_of_not_lt short
    have room : rx.size.toNat ≤ (⟨env.tmp.bytes, []⟩ : OutBuffer).bytes.length :=
      env.tmp.sized.symm ▸ Nat.le_of_lt rx.size.isLt
    by_cases legal :
        legalSource (shownHeader env.aes parts.privacyKey rx.ivIndex rx.packet)
    · rcases @packetDecode_legal env.aes env.stale rx.packet rx.size rx.proxy
        ⟨env.tmp.bytes, []⟩ rx.ivIndex parts.encKey parts.privacyKey long room
        legal with ⟨plain, mic, _, micLength, decoded⟩
      have attempt : decodeAttempt env rx parts = _ := decoded
      have isMicSize : shownMicSize env.aes parts.privacyKey rx.ivIndex
          rx.packet = 4 ∨ shownMicSize env.aes parts.privacyKey rx.ivIndex
          rx.packet = 8 := netMicSize_cases _
      rw [attempt] at decodes ⊢
      have micZero : ∀ byte ∈ mic, byte = 0 := by simpa using decodes
      -- The MIC does not reach the byte that tells its size.
      have sameSize : netMicSize (((decodeBuffers rx.packet).writeAll
          (openedBuffer (privacyPad env.aes parts.privacyKey rx.ivIndex rx.packet)
            rx.packet rx.size ⟨env.tmp.bytes, []⟩) 0 plain).copy
          (rx.size.toNat - shownMicSize env.aes parts.privacyKey rx.ivIndex
            rx.packet) mic).bytes =
          shownMicSize env.aes parts.privacyKey rx.ivIndex rx.packet := by
        change _ = netMicSize
          (shownHeader env.aes parts.privacyKey rx.ivIndex rx.packet)
        apply netMicSize_congr
        rw [OutBuffer.copy, get_splice_outside (by omega),
          OutBuffer.bytes_writeAll, get_splice_outside (by omega),
          get_openedBuffer long room (by omega), shownHeader]
      constructor
      · exact long
      · intro index low high
        rw [sameSize] at low
        have sized : ((decodeBuffers rx.packet).writeAll
            (openedBuffer (privacyPad env.aes parts.privacyKey rx.ivIndex
              rx.packet) rx.packet rx.size ⟨env.tmp.bytes, []⟩) 0
            plain).bytes.length = 256 := by
          rw [OutBuffer.bytes_writeAll, length_splice, openedBuffer,
            OutBuffer.bytes_unhide, length_hidden, OutBuffer.copy, length_splice]
          exact env.tmp.sized
        have bound := rx.size.isLt
        rw [OutBuffer.copy, get_splice_inside (by omega) low (by omega),
          get_of_lt (by omega)]
        exact micZero _ (List.getElem_mem _)
    · have refused : decodeAttempt env rx parts = _ :=
        packetDecode_illegal long room legal
      rw [refused] at decodes
      cases decodes

/-- A decoded packet replaces the received one, as far as that goes. -/
theorem EndsInZeros.splice {out : List Byte} {size : Nat}
    (ends : EndsInZeros out size) (packet : List Byte) :
    EndsInZeros (Bytes.splice packet 0 (slice out 0 size)) size := by
  have long := ends.long
  have copied : ∀ index < size,
      get (Bytes.splice packet 0 (slice out 0 size)) index =
        if index < packet.length then get out index else 0 := by
    intro index inside
    split
    next inPacket =>
      rw [get_splice_inside inPacket (Nat.zero_le _) (by simpa using inside),
        Nat.sub_zero, get_slice inside, Nat.zero_add]
    next behind => exact get_of_le (by simpa using behind)
  constructor
  · exact long
  · intro index low high
    rw [copied index high]
    split
    next inPacket =>
      have isMicSize := netMicSize_cases
        (Bytes.splice packet 0 (slice out 0 size))
      have same : netMicSize (Bytes.splice packet 0 (slice out 0 size)) =
          netMicSize out := by
        apply netMicSize_congr
        rw [copied 1 (by omega), if_pos (by omega)]
      exact ends.zeros index (same ▸ low) high
    next => rfl

theorem netPacketDecode_endsInZeros {netKeys : List MeshNetKey}
    {netKey : MeshNetKey}
    (found : (netPacketDecode env netKeys rx).netKey = some netKey) :
    EndsInZeros (netPacketDecode env netKeys rx).packet rx.size.toNat := by
  rcases (@netPacketDecode_searched env netKeys rx).found with
    notFound | ⟨copy, _, _, decodes, _, packet⟩
  · rw [notFound] at found
    cases found
  · rw [packet]
    exact (decodeAttempt_endsInZeros decodes).splice _

end Decode

/-! ## The length of the transport PDU -/

section Transport

variable {msg : List Byte} {size : Byte}

/-- The network header and the MIC leave this much of a packet. -/
def transSize (msg : List Byte) (size : Byte) : Nat :=
  size.toNat - netMicSize msg - 9

theorem toNat_micSize (msg : List Byte) :
    (micSize (pktCtl msg)).toNat = netMicSize msg := by
  rw [netMicSize]
  change (micSize (packetCtl msg)).toNat = _
  cases packetCtl msg <;> rfl

theorem EndsInZeros.toNat_len (ends : EndsInZeros msg size.toNat) :
    (size - micSize (pktCtl msg)).toNat = size.toNat - netMicSize msg := by
  have long := ends.long
  have bound := size.isLt
  have isMicSize := netMicSize_cases msg
  rw [BitVec.toNat_sub, toNat_micSize]
  omega

theorem EndsInZeros.allFit_transLen (ends : EndsInZeros msg size.toNat) :
    AllFit (packetTransLen msg size).taken ↔
      9 ≤ size.toNat - netMicSize msg := by
  have long := ends.long
  have isMicSize := netMicSize_cases msg
  simp only [packetTransLen, allFit_cons, allFit_nil, and_true, toNat_micSize,
    ends.toNat_len]
  omega

theorem EndsInZeros.toNat_transLen (ends : EndsInZeros msg size.toNat)
    (room : 9 ≤ size.toNat - netMicSize msg) :
    (packetTransLen msg size).value.toNat = transSize msg size := by
  have bound := (size - micSize (pktCtl msg)).isLt
  have nine : (9 : U16).toNat = 9 := rfl
  have len := ends.toNat_len
  rw [packetTransLen, transSize]
  dsimp only
  rw [BitVec.toNat_sub, BitVec.toNat_setWidth, nine]
  omega

/-- A packet with anything in the first byte of its transport PDU has room for
it. -/
theorem EndsInZeros.room (ends : EndsInZeros msg size.toNat)
    (first : get msg 9 ≠ 0) : 10 ≤ size.toNat - netMicSize msg := by
  by_contra short
  have long := ends.long
  exact first (ends.zeros 9 (by omega) (by omega))

theorem first_of_segmented (segmented : pktSegmented msg = true) :
    get msg 9 ≠ 0 := by
  intro zero
  rw [pktSegmented, zero] at segmented
  exact absurd segmented (by decide)

theorem first_of_opcode (opcode : pktOpcode msg ≠ netOpSegAcknowledge) :
    get msg 9 ≠ 0 := by
  intro zero
  apply opcode
  rw [pktOpcode, zero]
  rfl

/-- A packet that is no control packet has room for one byte at least. -/
theorem EndsInZeros.room_access (ends : EndsInZeros msg size.toNat)
    (access : pktCtl msg = false) : 10 ≤ size.toNat - netMicSize msg := by
  have long := ends.long
  have isFour : netMicSize msg = 4 := by
    rw [netMicSize]
    exact if_neg (by change ¬pktCtl msg = true; simp [access])
  omega

end Transport

end Meshctl.Net
