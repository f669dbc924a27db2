import Meshctl.Crypto.PacketInverse

/-! # What decoding writes

Any packet, of any length: the header it shows, the indices that are written and
the bytes that a decoded packet ends in.
-/

namespace Meshctl.Crypto

open Bytes CounterMode Execution

/-! ## Decrypting any length -/

/-- The loops write as many bytes as the length of the message says, whether or
not it is what is left without the MIC. -/
theorem aesCcmDecrypt_memory {Memory : Type*} {cipher : AesBlock → AesBlock}
    {buffers : CipherBuffers Memory} {stale : AesBlock} {nonce : List Byte}
    {aad : Nat → Byte} {aadLen encMsgLen : U16} {outMic : Bool} {micSize : Nat}
    {memory : Memory} (streams : buffers.Streams) (long : 5 ≤ encMsgLen.toNat)
    (aadShort : aadLen.toNat < 0xff00) :
    ∃ plain : List Byte,
      plain.length = (encMsgLen - BitVec.ofNat 16 micSize).toNat ∧
      (aesCcmDecrypt cipher buffers stale nonce aad aadLen encMsgLen outMic
        micSize memory).memory = buffers.writeAll memory 0 plain := by
  generalize isLen : encMsgLen - BitVec.ofNat 16 micSize = msgLen
  have covers := blockCount_covers msgLen
  let text := (List.range msgLen.toNat).map (buffers.read memory)
  have length : text.length = msgLen.toNat := by simp [text]
  have loop := foldl_range_invariant
    (decryptBlock cipher buffers nonce (blockCount msgLen) (lastBlock msgLen))
    ⟨chainStart cipher nonce aad aadLen msgLen micSize, stale, memory⟩
    (blockCount msgLen)
    (CcmLoop cipher buffers nonce
      (chainStart cipher nonce aad aadLen msgLen micSize)
      (mask cipher (messageCounter nonce) text)
      (mask cipher (messageCounter nonce) text) (blockCount msgLen) memory)
    ⟨rfl, rfl, fun absurd => absurd.ne rfl |>.elim⟩
    (fun j inMessage state => decryptBlock_loop streams length (by
      intro i inside
      exact (get_map_range (length ▸ inside)).symm) inMessage)
  have written := loop.memory
  have maskLength : (mask cipher (messageCounter nonce) text).length =
      msgLen.toNat := (length_mask _ _ _).trans length
  rw [List.take_of_length_le (by omega)] at written
  refine ⟨_, maskLength, ?_⟩
  rw [aesCcmDecrypt, isLen, if_neg (by simp; omega)]
  exact written

/-! ## The header -/

/-- The first seven bytes of a packet, shown with a key. -/
def shownHeader (aes : Key → AesBlock → AesBlock) (privacyKey : Key) (ivIndex : U32)
    (packet : List Byte) : List Byte :=
  hidden (privacyPad aes privacyKey ivIndex packet) (slice packet 0 7)

def legalSource (header : List Byte) : Prop :=
  getBe16 header 5 ≠ 0 ∧ getBe16 header 5 < 0x8000

section Decode

variable {aes : Key → AesBlock → AesBlock} {stale : AesBlock} {packet : List Byte}
  {packetLen : Byte} {proxy : Bool} {out : OutBuffer} {ivIndex : U32}
  {networkKey privacyKey : Key}

/-- The output before anything is decrypted. -/
def openedBuffer (pad : AesBlock) (packet : List Byte) (packetLen : Byte)
    (out : OutBuffer) : OutBuffer :=
  (List.range 6).foldl
    (fun out i => out.put (1 + i) (out.get (1 + i) ^^^ pad.get i))
    (out.copy 0 (slice packet 0 packetLen.toNat))

theorem get_openedBuffer {pad : AesBlock} (long : 14 ≤ packetLen.toNat)
    (room : packetLen.toNat ≤ out.bytes.length) {index : Nat}
    (inHeader : index < 7) :
    get (openedBuffer pad packet packetLen out).bytes index =
      get (hidden pad (slice packet 0 7)) index := by
  rw [openedBuffer, OutBuffer.bytes_unhide, OutBuffer.copy,
    get_hidden (by simp; omega), get_hidden (by simp; omega),
    get_splice_inside (by omega) (by omega) (by simp; omega), Nat.sub_zero,
    get_slice (by omega), get_slice inHeader]

theorem writes_openedBuffer (pad : AesBlock) :
    (openedBuffer pad packet packetLen out).writes =
      out.writes ++ List.range packetLen.toNat ++ [1, 2, 3, 4, 5, 6] := by
  simp [openedBuffer, List.range_succ, OutBuffer.put, OutBuffer.copy,
    List.range_eq_range']

theorem packetDecode_short (short : packetLen.toNat < 14) :
    packetDecode aes stale packet packetLen proxy out ivIndex networkKey
      privacyKey = (false, out) := by
  rw [packetDecode, if_pos short]

theorem getBe16_openedBuffer {pad : AesBlock} (long : 14 ≤ packetLen.toNat)
    (room : packetLen.toNat ≤ out.bytes.length) :
    getBe16 (openedBuffer pad packet packetLen out).bytes 5 =
      getBe16 (hidden pad (slice packet 0 7)) 5 := by
  rw [getBe16, getBe16, get_openedBuffer long room (by omega),
    get_openedBuffer long room (by omega)]

theorem netMicSize_openedBuffer {pad : AesBlock} (long : 14 ≤ packetLen.toNat)
    (room : packetLen.toNat ≤ out.bytes.length) :
    netMicSize (openedBuffer pad packet packetLen out).bytes =
      netMicSize (hidden pad (slice packet 0 7)) := by
  rw [netMicSize, netMicSize, packetCtl, packetCtl,
    get_openedBuffer long room (by omega)]

/-- A packet with an illegal source is given up. -/
theorem packetDecode_illegal (long : 14 ≤ packetLen.toNat)
    (room : packetLen.toNat ≤ out.bytes.length)
    (illegal : ¬legalSource (shownHeader aes privacyKey ivIndex packet)) :
    packetDecode aes stale packet packetLen proxy out ivIndex networkKey
        privacyKey =
      (false, openedBuffer (privacyPad aes privacyKey ivIndex packet) packet
        packetLen out) := by
  have src := @getBe16_openedBuffer packet packetLen out
    (privacyPad aes privacyKey ivIndex packet) long room
  have refused : getBe16 (openedBuffer (privacyPad aes privacyKey ivIndex packet)
      packet packetLen out).bytes 5 = 0 ∨
      0x8000 ≤ getBe16 (openedBuffer (privacyPad aes privacyKey ivIndex packet)
        packet packetLen out).bytes 5 := by
    rw [src]
    by_contra legal
    rw [not_or, BitVec.not_le] at legal
    exact illegal legal
  rw [packetDecode, if_neg (by omega)]
  exact if_pos refused

/-- The size of the MIC that the header asks for. -/
def shownMicSize (aes : Key → AesBlock → AesBlock) (privacyKey : Key) (ivIndex : U32)
    (packet : List Byte) : Nat :=
  netMicSize (shownHeader aes privacyKey ivIndex packet)

/-- With a legal source the rest is decrypted, and the MIC is compared and
overwritten. -/
theorem packetDecode_legal (long : 14 ≤ packetLen.toNat)
    (room : packetLen.toNat ≤ out.bytes.length)
    (legal : legalSource (shownHeader aes privacyKey ivIndex packet)) :
    let micSize := shownMicSize aes privacyKey ivIndex packet
    ∃ plain mic : List Byte,
      plain.length =
        (packetLen.setWidth 16 - 7 - BitVec.ofNat 16 micSize : U16).toNat ∧
      mic.length = micSize ∧
      packetDecode aes stale packet packetLen proxy out ivIndex networkKey
          privacyKey =
        (mic.all (· = 0),
          ((decodeBuffers packet).writeAll (openedBuffer
            (privacyPad aes privacyKey ivIndex packet) packet packetLen out) 0
            plain).copy (packetLen.toNat - micSize) mic) := by
  have src := @getBe16_openedBuffer packet packetLen out
    (privacyPad aes privacyKey ivIndex packet) long room
  have isMicSize := @netMicSize_openedBuffer packet packetLen out
    (privacyPad aes privacyKey ivIndex packet) long room
  have accepted : ¬(getBe16 (openedBuffer
      (privacyPad aes privacyKey ivIndex packet) packet packetLen out).bytes 5 =
        0 ∨ 0x8000 ≤ getBe16 (openedBuffer
          (privacyPad aes privacyKey ivIndex packet) packet packetLen
          out).bytes 5) := by
    rw [src, not_or, BitVec.not_le]
    exact legal
  have seven : (7 : U16).toNat = 7 := rfl
  have encLong : 5 ≤ (packetLen.setWidth 16 - 7 : U16).toNat := by
    rw [BitVec.toNat_sub, BitVec.toNat_setWidth, seven]
    omega
  intro micSize
  have isSupported : micSize = 4 ∨ micSize = 8 := netMicSize_cases _
  generalize isOpened : openedBuffer (privacyPad aes privacyKey ivIndex packet)
    packet packetLen out = opened at *
  generalize isDecrypted : aesCcmDecrypt (aes networkKey) (decodeBuffers packet)
    stale (networkNonce opened.bytes proxy ivIndex) (fun _ => 0) 0
    (packetLen.setWidth 16 - 7) true micSize opened = decrypted
  have result : decrypted.result = true := by
    rw [← isDecrypted, aesCcmDecrypt, if_neg (by simp; omega)]
    rcases isSupported with isFour | isEight
    · simp [isFour]
    · simp [isEight]
  rcases @aesCcmDecrypt_memory _ (aes networkKey) (decodeBuffers packet) stale
    (networkNonce opened.bytes proxy ivIndex) (fun _ => 0) 0
    (packetLen.setWidth 16 - 7) true micSize opened
    (decodeBuffers_streams packet) encLong (by decide) with
    ⟨plain, length, memory⟩
  rw [isDecrypted] at memory
  refine ⟨plain, (List.range micSize).map fun i =>
    decrypted.mic.get i ^^^ decrypted.memory.get (packetLen.toNat - micSize + i),
    length, by simp, ?_⟩
  have unfolded : packetDecode aes stale packet packetLen proxy out ivIndex
      networkKey privacyKey = _ := if_neg (by omega)
  rw [unfolded]
  dsimp only
  have sameMicSize : netMicSize opened.bytes = micSize := isMicSize
  rw [← openedBuffer, isOpened, if_neg accepted, sameMicSize, isDecrypted,
    result, memory]
  rfl

/-! ## The indices that are written -/

theorem writes_writeAll (packet : List Byte) (out : OutBuffer) (index : Nat)
    (bytes : List Byte) :
    ((decodeBuffers packet).writeAll out index bytes).writes =
      out.writes ++ List.range' (7 + index) bytes.length := by
  induction bytes generalizing out index with
  | nil => simp [CipherBuffers.writeAll]
  | cons byte rest induction =>
      rw [CipherBuffers.writeAll, induction, List.length_cons, List.range'_succ]
      simp [decodeBuffers, OutBuffer.put, Nat.add_assoc]

/-- A control packet without room for its MIC. -/
def NoRoomForMic (aes : Key → AesBlock → AesBlock) (privacyKey : Key) (ivIndex : U32)
    (packet : List Byte) (packetLen : Byte) : Prop :=
  packetLen.toNat = 14 ∧
    legalSource (shownHeader aes privacyKey ivIndex packet) ∧
    packetCtl (shownHeader aes privacyKey ivIndex packet) = true

/-- The length of the message that is decrypted; below zero it wraps. -/
theorem msgLen_eq (long : 14 ≤ packetLen.toNat)
    {micSize : Nat} (isMicSize : micSize = 4 ∨ micSize = 8) :
    (packetLen.setWidth 16 - 7 - BitVec.ofNat 16 micSize : U16).toNat =
      if packetLen.toNat = 14 ∧ micSize = 8 then 65535
      else packetLen.toNat - 7 - micSize := by
  have seven : (7 : U16).toNat = 7 := rfl
  have small := packetLen.isLt
  simp only [BitVec.toNat_sub, BitVec.toNat_setWidth, BitVec.toNat_ofNat, seven]
  split
  · omega
  · omega

/-- Every byte up to the length of the packet is written. Without room for the
MIC, the whole range of a 16-bit length is. -/
theorem mem_writes_packetDecode (long : 14 ≤ packetLen.toNat)
    (room : packetLen.toNat ≤ out.bytes.length) (fresh : out.writes = [])
    (index : Nat) :
    index ∈ (packetDecode aes stale packet packetLen proxy out ivIndex networkKey
        privacyKey).2.writes ↔
      index < packetLen.toNat ∨
        NoRoomForMic aes privacyKey ivIndex packet packetLen ∧
          7 ≤ index ∧ index < 7 + 65535 := by
  have opened := @writes_openedBuffer packet packetLen out
    (privacyPad aes privacyKey ivIndex packet)
  rw [fresh, List.nil_append] at opened
  have inOpened : index ∈ (openedBuffer (privacyPad aes privacyKey ivIndex packet)
      packet packetLen out).writes ↔ index < packetLen.toNat := by
    rw [opened, List.mem_append, List.mem_range]
    simp only [List.mem_cons, List.not_mem_nil, or_false]
    omega
  by_cases legal : legalSource (shownHeader aes privacyKey ivIndex packet)
  · rcases @packetDecode_legal aes stale packet packetLen proxy out ivIndex
      networkKey privacyKey long room legal with
      ⟨plain, mic, plainLength, micLength, decoded⟩
    have isMicSize : shownMicSize aes privacyKey ivIndex packet = 4 ∨
        shownMicSize aes privacyKey ivIndex packet = 8 := netMicSize_cases _
    have ctl : packetCtl (shownHeader aes privacyKey ivIndex packet) = true ↔
        shownMicSize aes privacyKey ivIndex packet = 8 := by
      rw [shownMicSize, netMicSize]
      split
      next isCtl => exact iff_of_true isCtl rfl
      next notCtl => exact iff_of_false notCtl (by decide)
    rw [msgLen_eq long isMicSize] at plainLength
    rw [decoded, OutBuffer.copy]
    dsimp only
    rw [writes_writeAll, List.mem_append, List.mem_append, inOpened,
      List.mem_range'_1, List.mem_range'_1, NoRoomForMic, ctl, plainLength,
      micLength]
    simp only [legal, true_and]
    split
    next wraps => omega
    next fits => omega
  · rw [packetDecode_illegal long room legal, inOpened, NoRoomForMic]
    exact (or_iff_left fun absurd => legal absurd.1.2.1).symm

end Decode

end Meshctl.Crypto
