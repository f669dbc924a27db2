import Meshctl.Net.Decode

/-! # The scratch buffer of the decoder

Every copy of a key that is tried fills the buffer with the whole packet, and
the length of a packet is only checked from below.
-/

namespace Meshctl.Net

open Bytes Crypto

/-- What decoding writes to `tmp` lies inside. -/
def ScratchInside (env : DecodeEnv) (netKeys : List MeshNetKey)
    (rx : RxPacket) : Prop :=
  ∀ index ∈ (netPacketDecode env netKeys rx).writes, index < tmpSize

/-- A packet that fits `tmp`, and that has room for the MIC its header asks for
under a key. -/
structure FitsScratch (env : DecodeEnv) (rx : RxPacket) (parts : NetKeyParts) :
    Prop where
  size : rx.size.toNat ≤ tmpSize
  room : ¬NoRoomForMic env.aes parts.privacyKey rx.ivIndex rx.packet rx.size

/-- The writes of one attempt. -/
theorem attempt_inside_iff (env : DecodeEnv) (rx : RxPacket)
    (parts : NetKeyParts) :
    (∀ index ∈ (decodeAttempt env rx parts).2.writes, index < tmpSize) ↔
      FitsScratch env rx parts := by
  by_cases short : rx.size.toNat < 14
  · have decoded : decodeAttempt env rx parts = (false, ⟨env.tmp.bytes, []⟩) :=
      packetDecode_short short
    rw [decoded]
    apply iff_of_true
    · exact fun _ absurd => (by cases absurd)
    · exact ⟨Nat.le_of_lt (Nat.lt_trans short (by decide)), fun noRoom =>
        absurd noRoom.1 (Nat.ne_of_lt short)⟩
  · have long : 14 ≤ rx.size.toNat := Nat.le_of_not_lt short
    have bound := rx.size.isLt
    have sized := env.tmp.sized
    have written := fun index => @mem_writes_packetDecode env.aes env.stale
      rx.packet rx.size rx.proxy ⟨env.tmp.bytes, []⟩ rx.ivIndex parts.encKey
      parts.privacyKey long (by dsimp only; omega) rfl index
    constructor
    · intro inside
      constructor
      · have last := inside (rx.size.toNat - 1)
          ((written _).mpr (Or.inl (by omega)))
        omega
      · intro noRoom
        have far := inside 100
          ((written _).mpr (Or.inr ⟨noRoom, by omega, by omega⟩))
        exact absurd far (by decide)
    · intro fits index member
      rcases (written index).mp member with inPacket | ⟨noRoom, _⟩
      · exact Nat.lt_of_lt_of_le inPacket fits.size
      · exact absurd noRoom fits.room

/-- The writes stay inside if and only if the packet fits for every copy of a
key it is tried with. -/
theorem scratch_inside_iff (env : DecodeEnv) (netKeys : List MeshNetKey)
    (ivIndex : U32) (msg : List Byte) (len : Byte) :
    (∀ rx ∈ rxPacket ivIndex msg len, ScratchInside env netKeys rx) ↔
      ∀ rx ∈ rxPacket ivIndex msg len, ∀ parts ∈ packetTries env netKeys rx,
        FitsScratch env rx parts := by
  have each : ∀ rx, ScratchInside env netKeys rx ↔
      ∀ parts ∈ packetTries env netKeys rx, FitsScratch env rx parts := by
    intro rx
    have searched := @netPacketDecode_searched env netKeys rx
    have written : (netPacketDecode env netKeys rx).writes =
        (packetTries env netKeys rx).flatMap
          fun parts => (decodeAttempt env rx parts).2.writes :=
      searched.writes
    rw [ScratchInside, written]
    constructor
    · intro inside parts member
      apply (attempt_inside_iff env rx parts).mp
      intro index written
      exact inside index (List.mem_flatMap.mpr ⟨parts, member, written⟩)
    · intro fits index member
      rcases List.mem_flatMap.mp member with ⟨parts, tried, written⟩
      exact (attempt_inside_iff env rx parts).mpr (fits parts tried) index written
  exact forall₂_congr fun rx _ => each rx

/-! ### A long packet -/

/-- A cipher that only adds the key, over an empty stack. -/
def emptyStack : DecodeEnv where
  aes := addKey
  stale := .zero
  tmp := .zero

def thisNetKey : MeshNetKey where
  idx := 0
  phase := 0
  current :=
    { nid := 1, encKey := 0, privacyKey := 0, netKey := 0, beaconKey := 0
      netId := 0 }
  new :=
    { nid := 0xff, encKey := 0, privacyKey := 0, netKey := 0, beaconKey := 0
      netId := 0 }

/-- A network PDU of 30 bytes under the identifier of the key. -/
def longPacket : RxPacket where
  proxy := false
  ivIndex := 0
  packet := 0x01 :: List.replicate 29 0x55
  size := 30

theorem scratch_not_always_inside :
    ¬∀ (env : DecodeEnv) (netKeys : List MeshNetKey) (ivIndex : U32)
      (msg : List Byte) (len : Byte), len.toNat ≤ 66 → len.toNat ≤ msg.length →
      ∀ rx ∈ rxPacket ivIndex msg len, ScratchInside env netKeys rx := by
  intro always
  have isRx : rxPacket 0 (0x00 :: longPacket.packet) 31 = some longPacket := by
    decide +kernel
  have inside := always emptyStack [thisNetKey] 0 (0x00 :: longPacket.packet) 31
    (by decide) (by decide) longPacket isRx
  have written : 29 ∈
      (netPacketDecode emptyStack [thisNetKey] longPacket).writes := by
    decide +kernel
  exact absurd (inside 29 written) (by decide)

end Meshctl.Net
