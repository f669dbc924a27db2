import Meshctl.Net.Decode

/-! # Network packets survive encoding and decoding -/

namespace Meshctl.Net

open Bytes Crypto

/-- A receiver that is at most one IV index ahead finds the one that the first
octet of the packet names. -/
theorem rxIvIndex_eq {ivIndex receiverIv : U32} {msg : List Byte}
    (ivi : get msg 0 &&& 0x80 ≠ 0 ↔ ivIndex &&& 0x01 ≠ 0)
    (receiver : receiverIv = ivIndex ∨
      receiverIv.toNat = ivIndex.toNat + 1) :
    rxIvIndex receiverIv msg = some ivIndex := by
  have lowBit : ∀ index : U32, index &&& 0x01 ≠ 0 ↔ index.toNat % 2 = 1 := by
    intro index
    have masked : (index &&& 0x01).toNat = index.toNat % 2 := by
      rw [BitVec.toNat_and]
      exact Nat.and_one_is_mod _
    rw [← masked]
    constructor
    · intro set
      have positive : (index &&& 0x01).toNat ≠ 0 := fun zero =>
        set (BitVec.eq_of_toNat_eq zero)
      omega
    · intro isOne zero
      rw [zero] at isOne
      cases isOne
  have sameIvi : decide (get msg 0 &&& 0x80 ≠ 0) =
      decide (ivIndex &&& 0x01 ≠ 0) := decide_eq_decide.mpr ivi
  rw [rxIvIndex, sameIvi]
  rcases receiver with same | next
  · rw [same, if_neg fun differ => differ rfl]
  · have differ : decide (receiverIv &&& 0x01 ≠ 0) ≠
        decide (ivIndex &&& 0x01 ≠ 0) := by
      rw [ne_eq, decide_eq_decide, lowBit, lowBit]
      omega
    have isNext : receiverIv = ivIndex + 1 := by
      apply BitVec.eq_of_toNat_eq
      have bound := receiverIv.isLt
      rw [next, BitVec.toNat_add]
      have one : (1 : U32).toNat = 1 := rfl
      omega
    have positive : receiverIv ≠ 0 := by
      intro zero
      rw [zero] at next
      cases next
    rw [if_pos differ, if_pos positive, isNext, BitVec.add_sub_cancel]

/-- The receiver takes the IV index of the sender, and decoding gives the packet
back with zeros for its MIC. -/
theorem packet_survives (aes : Key → AesBlock → AesBlock) (stale stale' : AesBlock)
    (networkKey privacyKey : Key) {packet : List Byte}
    (long : 16 ≤ packet.length) (small : packet.length ≤ 29)
    (unicast : 0x0001 ≤ getBe16 packet 5 ∧ getBe16 packet 5 ≤ 0x7fff)
    {ivIndex receiverIv : U32}
    (ivi : get packet 0 &&& 0x80 ≠ 0 ↔ ivIndex &&& 0x01 ≠ 0)
    (receiver : receiverIv = ivIndex ∨ receiverIv.toNat = ivIndex.toNat + 1)
    {out : OutBuffer} (room : packet.length ≤ out.bytes.length) :
    let packetLen := BitVec.ofNat 8 packet.length
    let proxy := packetCtl packet && getBe16 packet 7 = 0
    let encoded := packetEncode aes stale packet packetLen networkKey ivIndex
      privacyKey
    let decoded := packetDecode aes stale' encoded.2 packetLen proxy out ivIndex
      networkKey privacyKey
    encoded.1 = true ∧ rxIvIndex receiverIv encoded.2 = some ivIndex ∧
      decoded.1 = true ∧
      slice decoded.2.bytes 0 packet.length =
        splice packet (packet.length - netMicSize packet)
          (List.replicate (netMicSize packet) 0) := by
  have legal : getBe16 packet 5 ≠ 0 ∧ getBe16 packet 5 < 0x8000 := by
    have low := unicast.1
    have high := unicast.2
    constructor
    · intro zero
      rw [zero] at low
      exact absurd low (by decide)
    · exact BitVec.lt_def.mpr
        (Nat.lt_of_le_of_lt (BitVec.le_def.mp high) (by decide))
  -- Both sides ask for the proxy nonce of the same packets.
  have sameNonce : networkNonce packet (getBe16 packet 7 = 0) ivIndex =
      networkNonce packet (packetCtl packet && getBe16 packet 7 = 0)
        ivIndex := by
    rw [networkNonce, networkNonce, ← Bool.and_assoc, Bool.and_self]
  have sameSealed : sealedPacket aes packet (getBe16 packet 7 = 0) networkKey
      ivIndex = sealedPacket aes packet
        (packetCtl packet && getBe16 packet 7 = 0) networkKey ivIndex := by
    rw [sealedPacket, sealedPacket, sameNonce]
  intro packetLen proxy encoded decoded
  have isEncoded : encoded = _ :=
    packetEncode_eq long (Nat.lt_of_le_of_lt small (by decide))
  have opened := @packetDecode_sealed aes stale' packet proxy networkKey ivIndex
    privacyKey long (Nat.lt_of_le_of_lt small (by decide)) out room legal
  dsimp only at isEncoded
  rw [sameSealed] at isEncoded
  have firstOctet : get encoded.2 0 = get packet 0 := by
    rw [isEncoded, get_hidden (by rw [length_sealedPacket]; omega),
      if_neg (by decide), get_sealedPacket_header (by decide)]
  have iviSent : get encoded.2 0 &&& 0x80 ≠ 0 ↔ ivIndex &&& 0x01 ≠ 0 := by
    rw [firstOctet]
    exact ivi
  have sent := congrArg Prod.snd isEncoded
  have isDecoded : decoded = _ := congrArg (fun sent => packetDecode aes stale'
    sent packetLen proxy out ivIndex networkKey privacyKey) sent
  rw [isDecoded]
  exact ⟨congrArg Prod.fst isEncoded, rxIvIndex_eq iviSent receiver, opened.1,
    opened.2⟩

/-! ### A proxy packet -/

/-- A control packet to the proxy, with room for its MIC. -/
def proxyPacket : List Byte :=
  [0xe8, 0x80, 0x00, 0x00, 0x01, 0x12, 0x34, 0x00, 0x00, 0x00, 0x01, 0x00, 0x00,
    0x00, 0x00, 0x00, 0x00, 0x00, 0x00]

theorem packet_survives_proxy :
    let encoded := packetEncode addKey .zero proxyPacket 19 1 5 2
    let decoded := packetDecode addKey .zero encoded.2 19 true
      ⟨List.replicate 29 0, []⟩ 5 1 2
    encoded.1 = true ∧ rxIvIndex 6 encoded.2 = some 5 ∧ decoded.1 = true ∧
      slice decoded.2.bytes 0 19 = splice proxyPacket 11 (List.replicate 8 0) :=
  @packet_survives addKey .zero .zero 1 2 proxyPacket (by decide) (by decide)
    (by decide) 5 6 (by decide) (Or.inr rfl) ⟨List.replicate 29 0, []⟩
    (by decide)

end Meshctl.Net
