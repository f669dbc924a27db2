import Meshctl.Crypto.CcmInverse

/-! # Securing network packets

Encoding happens in place. Decoding writes to a buffer of the caller, with a
note of every byte that is written.
-/

namespace Meshctl.Crypto

open Bytes

/-! ## The output of the decoder -/

/-- A buffer and the indices that were written, oldest first. -/
structure OutBuffer where
  bytes : List Byte
  writes : List Nat

namespace OutBuffer

variable (out : OutBuffer)

def get (index : Nat) : Byte := Bytes.get out.bytes index

def put (index : Nat) (byte : Byte) : OutBuffer where
  bytes := Bytes.put out.bytes index byte
  writes := out.writes ++ [index]

def copy (offset : Nat) (source : List Byte) : OutBuffer where
  bytes := splice out.bytes offset source
  writes := out.writes ++ List.range' offset source.length

end OutBuffer

/-! ## Headers -/

def packetCtl (packet : List Byte) : Bool := get packet 1 &&& 0x80 ≠ 0

/-- The MIC of control packets has 64 bits. -/
def netMicSize (packet : List Byte) : Nat := if packetCtl packet then 8 else 4

/-- The destination is not part of the nonce. -/
def networkNonce (packet : List Byte) (proxy : Bool) (ivIndex : U32) :
    List Byte :=
  (if packetCtl packet && proxy then [0x03, 0x00]
    else [0x00, get packet 1]) ++
    slice packet 2 3 ++ slice packet 5 2 ++ [0x00, 0x00] ++ be32 ivIndex

/-- The bytes that hide the header, derived from the encrypted packet. -/
def privacyPad (aes : Key → AesBlock → AesBlock) (privacyKey : Key) (ivIndex : U32)
    (packet : List Byte) : AesBlock :=
  aes privacyKey (Buffer.read
    ([0x00, 0x00, 0x00, 0x00, 0x00] ++ be32 ivIndex ++ slice packet 7 7) 0)

/-! ## The functions -/

section Functions

variable (aes : Key → AesBlock → AesBlock) (stale : AesBlock)

/-- `mesh_crypto_packet_encode`: whether it succeeds, and the packet. -/
def packetEncode (packet : List Byte) (packetLen : Byte) (networkKey : Key)
    (ivIndex : U32) (privacyKey : Key) : Bool × List Byte :=
  let proxy := getBe16 packet 7 = 0
  let micSize := netMicSize packet
  let msgLen : U16 := packetLen.setWidth 16 - 7 - BitVec.ofNat 16 micSize
  let encrypted := aesCcmEncrypt (aes networkKey) (.inPlace 7) stale
    (networkNonce packet proxy ivIndex) (fun _ => 0) 0 msgLen micSize packet
  if !encrypted.result then
    (false, encrypted.memory)
  else
    let pad := privacyPad aes privacyKey ivIndex encrypted.memory
    (true, (List.range 6).foldl (fun packet i =>
      put packet (1 + i) (get packet (1 + i) ^^^ pad.get i)) encrypted.memory)

/-- Decrypt behind the header of a packet into the same place of the output. -/
def decodeBuffers (packet : List Byte) : CipherBuffers OutBuffer where
  read _ index := get packet (7 + index)
  write out index byte := out.put (7 + index) byte

/-- `mesh_crypto_packet_decode`: whether it succeeds, and its output. The MIC is
compared and stored as one integer. -/
def packetDecode (packet : List Byte) (packetLen : Byte) (proxy : Bool)
    (out : OutBuffer) (ivIndex : U32) (networkKey privacyKey : Key) :
    Bool × OutBuffer :=
  if packetLen.toNat < 14 then
    (false, out)
  else
    let pad := privacyPad aes privacyKey ivIndex packet
    let out := out.copy 0 (slice packet 0 packetLen.toNat)
    let out := (List.range 6).foldl (fun out i =>
      out.put (1 + i) (out.get (1 + i) ^^^ pad.get i)) out
    let src := getBe16 out.bytes 5
    if src = 0 ∨ 0x8000 ≤ src then
      (false, out)
    else
      let micSize := netMicSize out.bytes
      let decrypted := aesCcmDecrypt (aes networkKey) (decodeBuffers packet)
        stale (networkNonce out.bytes proxy ivIndex) (fun _ => 0) 0
        (packetLen.setWidth 16 - 7) true micSize out
      if !decrypted.result then
        (false, decrypted.memory)
      else
        let micAt := packetLen.toNat - micSize
        let mic := (List.range micSize).map fun i =>
          decrypted.mic.get i ^^^ decrypted.memory.get (micAt + i)
        (mic.all (· = 0), decrypted.memory.copy micAt mic)

end Functions

/-! ## Hiding the header -/

/-- The header bytes after the first are masked. -/
def hidden (pad : AesBlock) (packet : List Byte) : List Byte :=
  (List.range packet.length).map fun index =>
    if 1 ≤ index ∧ index < 7 then
      get packet index ^^^ pad.get (index - 1)
    else
      get packet index

section Hidden

variable {pad : AesBlock} {packet : List Byte}

@[simp] theorem length_hidden : (hidden pad packet).length = packet.length := by
  simp [hidden]

theorem get_hidden {index : Nat} (inside : index < packet.length) :
    get (hidden pad packet) index =
      if 1 ≤ index ∧ index < 7 then get packet index ^^^ pad.get (index - 1)
      else get packet index :=
  get_map_range inside

theorem foldl_put_eq_hidden (pad : AesBlock) (packet : List Byte) :
    (List.range 6).foldl (fun packet i =>
      put packet (1 + i) (get packet (1 + i) ^^^ pad.get i)) packet =
      hidden pad packet := by
  have loop := Execution.foldl_range_invariant
    (fun packet i => put packet (1 + i) (get packet (1 + i) ^^^ pad.get i))
    packet 6
    (fun count state => state.length = packet.length ∧
      ∀ index < packet.length, get state index =
        if 1 ≤ index ∧ index < 1 + count then
          get packet index ^^^ pad.get (index - 1)
        else get packet index)
    ⟨rfl, fun index _ => (if_neg (by omega)).symm⟩ (by
      intro count _ state ⟨length, same⟩
      constructor
      · rw [length_put, length]
      · intro index inside
        by_cases isNext : index = 1 + count
        · subst isNext
          rw [get_put_self (by omega), same _ inside, if_neg (by omega),
            if_pos (by omega)]
          congr 2
          omega
        · rw [get_put_ne (by omega), same _ inside]
          congr 1
          rw [eq_iff_iff]
          omega)
  apply ext_get
  · rw [loop.1, length_hidden]
  · intro index inside
    have inPacket : index < packet.length := by
      rw [← loop.1]
      exact inside
    rw [loop.2 index inPacket, get_hidden inPacket]

/-- Masking twice shows the header again. -/
theorem hidden_hidden (pad : AesBlock) (packet : List Byte) :
    hidden pad (hidden pad packet) = packet := by
  apply ext_get (by simp)
  intro index inside
  rw [length_hidden, length_hidden] at inside
  rw [get_hidden (by simpa using inside), get_hidden inside]
  split
  · rw [BitVec.xor_assoc, BitVec.xor_self, BitVec.xor_zero]
  · rfl

end Hidden

end Meshctl.Crypto
