import Meshctl.Crypto.Application
import Meshctl.Crypto.PacketDecoding

/-! # What encoding writes

The encrypting functions over memory that notes every byte that is written.
-/

namespace Meshctl.Crypto

open Bytes CounterMode Execution

/-! ## Memory that is looked at in two ways -/

/-- A view of a memory that reads and writes alike. -/
structure MemoryView {Memory View : Type*} (buffers : CipherBuffers Memory)
    (viewed : CipherBuffers View) (view : Memory → View) : Prop where
  read : ∀ memory index, viewed.read (view memory) index =
    buffers.read memory index
  write : ∀ memory index byte, viewed.write (view memory) index byte =
    view (buffers.write memory index byte)

section View

variable {Memory View : Type*} {buffers : CipherBuffers Memory}
  {viewed : CipherBuffers View} {view : Memory → View}

theorem MemoryView.writeAll (same : MemoryView buffers viewed view)
    (memory : Memory) (index : Nat) (bytes : List Byte) :
    viewed.writeAll (view memory) index bytes =
      view (buffers.writeAll memory index bytes) := by
  induction bytes generalizing memory index with
  | nil => rfl
  | cons byte rest induction =>
      rw [CipherBuffers.writeAll, same.write, induction, CipherBuffers.writeAll]

variable {cipher : AesBlock → AesBlock} {nonce : List Byte} {blkCnt lastBlk : Nat}

/-- The state of the loops, with its memory seen through the view. -/
def CcmState.through (view : Memory → View) (state : CcmState Memory) :
    CcmState View where
  xn := state.xn
  mic := state.mic
  memory := view state.memory

theorem MemoryView.encryptBlock (same : MemoryView buffers viewed view)
    (state : CcmState Memory) (j : Nat) :
    encryptBlock cipher viewed nonce blkCnt lastBlk (state.through view) j =
      (encryptBlock cipher buffers nonce blkCnt lastBlk state j).through
        view := by
  have written : (List.range (blockBytes blkCnt lastBlk j)).foldl
      (fun memory i => viewed.write memory (j * 16 + i)
        (viewed.read memory (j * 16 + i) ^^^
          (cipher (counterBlock nonce (j + 1))).get i)) (view state.memory) =
      view ((List.range (blockBytes blkCnt lastBlk j)).foldl
        (fun memory i => buffers.write memory (j * 16 + i)
          (buffers.read memory (j * 16 + i) ^^^
            (cipher (counterBlock nonce (j + 1))).get i)) state.memory) := by
    apply List.foldl_hom view
    intro memory i
    rw [same.read, same.write]
  simp only [Crypto.encryptBlock, CcmState.through, same.read, written]

theorem MemoryView.aesCcmEncrypt (same : MemoryView buffers viewed view)
    {stale : AesBlock} {aad : Nat → Byte} {aadLen msgLen : U16} {micSize : Nat}
    (memory : Memory) :
    aesCcmEncrypt cipher viewed stale nonce aad aadLen msgLen micSize
        (view memory) =
      let done := aesCcmEncrypt cipher buffers stale nonce aad aadLen msgLen
        micSize memory
      { result := done.result, mic := done.mic, memory := view done.memory } := by
  have loops : ∀ state : CcmState Memory,
      (List.range (blockCount msgLen)).foldl (Crypto.encryptBlock cipher viewed
        nonce (blockCount msgLen) (lastBlock msgLen)) (state.through view) =
      ((List.range (blockCount msgLen)).foldl (Crypto.encryptBlock cipher buffers
        nonce (blockCount msgLen) (lastBlock msgLen)) state).through view :=
    fun state => List.foldl_hom (CcmState.through view)
      fun state j => same.encryptBlock state j
  simp only [Crypto.aesCcmEncrypt]
  split
  · rfl
  · have looped := loops { xn := chainStart cipher nonce aad aadLen msgLen micSize
                           mic := stale, memory }
    rw [CcmState.through] at looped
    rw [looped, CcmState.through]
    dsimp only
    rw [same.writeAll]

end View

/-! ## How much is encrypted -/

/-- What is written for a message; for an empty one only what was left on the
stack. -/
def ccmWritten (cipher : AesBlock → AesBlock) (stale : AesBlock)
    (nonce : List Byte) (aad : Nat → Byte) (aadLen : U16) (micSize : Nat)
    (message : List Byte) : List Byte :=
  if message = [] then stale.bytes.take micSize
  else ccmSealed cipher nonce aad aadLen micSize message

theorem length_ccmWritten {cipher : AesBlock → AesBlock} {stale : AesBlock}
    {nonce : List Byte} {aad : Nat → Byte} {aadLen : U16} {micSize : Nat}
    (short : micSize ≤ 16) (message : List Byte) :
    (ccmWritten cipher stale nonce aad aadLen micSize message).length =
      message.length + micSize := by
  rw [ccmWritten]
  split
  next isEmpty =>
    rw [isEmpty, List.length_take, stale.sized, List.length_nil]
    omega
  next => exact length_ccmSealed short message

/-- A message of any length and its MIC are written, one byte after the other. -/
theorem aesCcmEncrypt_written {Memory : Type*} {cipher : AesBlock → AesBlock}
    {buffers : CipherBuffers Memory} {stale : AesBlock} {nonce : List Byte}
    {aad : Nat → Byte} {aadLen msgLen : U16} {micSize : Nat} {memory : Memory}
    (streams : buffers.Streams) {message : List Byte}
    (reads : ∀ i < message.length, buffers.read memory i = get message i)
    (length : message.length = msgLen.toNat)
    (aadShort : aadLen.toNat < 0xff00) :
    (aesCcmEncrypt cipher buffers stale nonce aad aadLen msgLen micSize
        memory).result = true ∧
      (aesCcmEncrypt cipher buffers stale nonce aad aadLen msgLen micSize
        memory).memory = buffers.writeAll memory 0
          (ccmWritten cipher stale nonce aad aadLen micSize message) := by
  by_cases isEmpty : message = []
  · have noLength : msgLen.toNat = 0 := by
      rw [← length, isEmpty, List.length_nil]
    have noBlocks : blockCount msgLen = 0 := by
      rw [blockCount]
      omega
    rw [aesCcmEncrypt, if_neg (by omega)]
    dsimp only
    rw [noBlocks, List.range_zero, List.foldl_nil, noLength, ccmWritten,
      if_pos isEmpty]
    exact ⟨rfl, rfl⟩
  · have isLen : msgLen = BitVec.ofNat 16 message.length := by
      rw [length, BitVec.ofNat_toNat, BitVec.setWidth_eq]
    have bound := msgLen.isLt
    have nonempty := List.length_pos_of_ne_nil isEmpty
    rw [isLen, aesCcmEncrypt_eq streams reads nonempty (by omega) aadShort,
      ccmWritten, if_neg isEmpty]
    exact ⟨rfl, rfl⟩

/-! ## Noting what is written -/

/-- Read and write the same bytes, from `start` on, with a note. -/
def CipherBuffers.notedInPlace (start : Nat) : CipherBuffers OutBuffer where
  read out index := out.get (start + index)
  write out index byte := out.put (start + index) byte

/-- Read from a message, write to a buffer with a note. -/
def CipherBuffers.notedApart (message : List Byte) (outAt : Nat) :
    CipherBuffers OutBuffer where
  read _ index := get message index
  write out index byte := out.put (outAt + index) byte

theorem notedInPlace_view (start : Nat) :
    MemoryView (.notedInPlace start) (.inPlace start) OutBuffer.bytes :=
  ⟨fun _ _ => rfl, fun _ _ _ => rfl⟩

theorem notedApart_view (message : List Byte) (outAt : Nat) :
    MemoryView (.notedApart message outAt) (.apart message outAt)
      OutBuffer.bytes :=
  ⟨fun _ _ => rfl, fun _ _ _ => rfl⟩

/-- A write appends its index to the notes. -/
theorem writes_writeAll_noted {buffers : CipherBuffers OutBuffer} {start : Nat}
    (notes : ∀ out index byte, (buffers.write out index byte).writes =
      out.writes ++ [start + index]) (out : OutBuffer) (index : Nat)
    (bytes : List Byte) :
    (buffers.writeAll out index bytes).writes =
      out.writes ++ List.range' (start + index) bytes.length := by
  induction bytes generalizing out index with
  | nil => simp [CipherBuffers.writeAll]
  | cons byte rest induction =>
      rw [CipherBuffers.writeAll, induction, notes, List.length_cons,
        List.range'_succ, List.append_assoc, List.singleton_append,
        Nat.add_assoc]

theorem notedInPlace_streams (start : Nat) :
    (CipherBuffers.notedInPlace start).Streams := by
  intro out index byte later before
  exact get_put_ne (by omega)

theorem notedApart_streams (message : List Byte) (outAt : Nat) :
    (CipherBuffers.notedApart message outAt).Streams := fun _ _ _ _ _ => rfl

section Functions

variable (aes : Key → AesBlock → AesBlock) (stale : AesBlock)

/-- `mesh_crypto_application_encrypt`, as it writes to the data of a record. -/
def applicationEncryptNoted (keyId : Byte) (seq : U32) (src dst : U16)
    (ivIndex : U32) (appKey : Key) (aad : Option Key) (msg : List Byte)
    (msgLen : Byte) (out : OutBuffer) : OutBuffer :=
  (aesCcmEncrypt (aes appKey) (.notedApart msg 0) stale
    (messageNonce keyId seq src dst ivIndex false) (labelByte aad)
    (labelLen aad) (msgLen.setWidth 16) 4 out).memory

/-- `mesh_crypto_packet_encode`, as it writes to a packet. -/
def packetEncodeNoted (packet : OutBuffer) (packetLen : Byte) (networkKey : Key)
    (ivIndex : U32) (privacyKey : Key) : Bool × OutBuffer :=
  let proxy := getBe16 packet.bytes 7 = 0
  let micSize := netMicSize packet.bytes
  let msgLen : U16 := packetLen.setWidth 16 - 7 - BitVec.ofNat 16 micSize
  let encrypted := aesCcmEncrypt (aes networkKey) (.notedInPlace 7) stale
    (networkNonce packet.bytes proxy ivIndex) (fun _ => 0) 0 msgLen micSize packet
  if !encrypted.result then
    (false, encrypted.memory)
  else
    let pad := privacyPad aes privacyKey ivIndex encrypted.memory.bytes
    (true, (List.range 6).foldl (fun packet i =>
      packet.put (1 + i) (packet.get (1 + i) ^^^ pad.get i)) encrypted.memory)

end Functions

section Writes

variable {aes : Key → AesBlock → AesBlock} {stale : AesBlock} {ivIndex : U32}

/-- The notes change nothing about the packet. -/
theorem bytes_packetEncodeNoted (packet : OutBuffer) (packetLen : Byte)
    (networkKey privacyKey : Key) :
    packetEncode aes stale packet.bytes packetLen networkKey ivIndex privacyKey =
      ((packetEncodeNoted aes stale packet packetLen networkKey ivIndex
          privacyKey).1,
        (packetEncodeNoted aes stale packet packetLen networkKey ivIndex
          privacyKey).2.bytes) := by
  rw [packetEncode, packetEncodeNoted]
  dsimp only
  rw [(notedInPlace_view 7).aesCcmEncrypt]
  dsimp only
  split
  · rfl
  · rw [foldl_put_eq_hidden]
    exact congrArg (Prod.mk true) (OutBuffer.bytes_unhide _ _).symm

/-- A packet with room for its MIC is overwritten from its second byte on. -/
theorem writes_packetEncodeNoted {packet : OutBuffer} {packetLen : Byte}
    {networkKey privacyKey : Key}
    (room : 7 + netMicSize packet.bytes ≤ packetLen.toNat) :
    (packetEncodeNoted aes stale packet packetLen networkKey ivIndex
        privacyKey).2.writes =
      packet.writes ++ List.range' 7 (packetLen.toNat - 7) ++
        [1, 2, 3, 4, 5, 6] := by
  have isMicSize := netMicSize_cases packet.bytes
  have seven : (7 : U16).toNat = 7 := rfl
  have small := packetLen.isLt
  have msgLen : (packetLen.setWidth 16 - 7 -
      BitVec.ofNat 16 (netMicSize packet.bytes) : U16).toNat =
      packetLen.toNat - 7 - netMicSize packet.bytes := by
    simp only [BitVec.toNat_sub, BitVec.toNat_setWidth, BitVec.toNat_ofNat, seven]
    omega
  generalize isMessage : (List.range (packetLen.toNat - 7 -
    netMicSize packet.bytes)).map (fun i => packet.get (7 + i)) = message
  have length : message.length =
      packetLen.toNat - 7 - netMicSize packet.bytes := by simp [← isMessage]
  rcases @aesCcmEncrypt_written _ (aes networkKey) (.notedInPlace 7) stale
    (networkNonce packet.bytes (getBe16 packet.bytes 7 = 0) ivIndex) (fun _ => 0)
    0 (packetLen.setWidth 16 - 7 - BitVec.ofNat 16 (netMicSize packet.bytes))
    (netMicSize packet.bytes) packet (notedInPlace_streams 7) message
    (fun i inside => by
      rw [← isMessage, get_map_range (by omega)]
      rfl)
    (length.trans msgLen.symm) (by decide) with ⟨result, memory⟩
  rw [packetEncodeNoted]
  dsimp only
  rw [result, memory]
  have masked : ∀ (pad : AesBlock) (out : OutBuffer), ((List.range 6).foldl
      (fun packet i => packet.put (1 + i) (packet.get (1 + i) ^^^ pad.get i))
        out).writes = out.writes ++ [1, 2, 3, 4, 5, 6] := by
    intro pad out
    simp [List.range_succ, OutBuffer.put]
  have written := @writes_writeAll_noted (.notedInPlace 7) 7 (fun _ _ _ => rfl)
    packet 0
  have all : message.length + netMicSize packet.bytes = packetLen.toNat - 7 := by
    omega
  rw [if_neg (by decide), masked, written, length_ccmWritten (by omega), all]

/-- What encryption writes to the data of a record is the message and its MIC. -/
theorem applicationEncryptNoted_spec (keyId : Byte) (seq : U32) (src dst : U16)
    (appKey : Key) (aad : Option Key) (msg : List Byte) (msgLen : Byte)
    (data : List Byte) :
    let done := applicationEncryptNoted aes stale keyId seq src dst ivIndex appKey
      aad msg msgLen ⟨data, []⟩
    done.writes = List.range (msgLen.toNat + 4) ∧
      done.bytes = splice data 0 (applicationEncrypt aes stale keyId seq src dst
        ivIndex appKey aad msg msgLen) := by
  have aadShort := labelLen_short aad
  have msgSize : (msgLen.setWidth 16 : U16).toNat = msgLen.toNat := by
    rw [BitVec.toNat_setWidth]
    omega
  have length : (slice msg 0 msgLen.toNat).length =
      (msgLen.setWidth 16 : U16).toNat := by
    rw [length_slice, msgSize]
  have reads : ∀ i < (slice msg 0 msgLen.toNat).length,
      get msg i = get (slice msg 0 msgLen.toNat) i := by
    intro i inside
    rw [length_slice] at inside
    rw [get_slice inside, Nat.zero_add]
  generalize isNonce : messageNonce keyId seq src dst ivIndex false = nonce
  have writtenLength := @length_ccmWritten (aes appKey) stale nonce (labelByte aad)
    (labelLen aad) 4 (by decide) (slice msg 0 msgLen.toNat)
  rw [length_slice] at writtenLength
  have plain : applicationEncrypt aes stale keyId seq src dst ivIndex appKey aad
      msg msgLen = ccmWritten (aes appKey) stale nonce (labelByte aad)
        (labelLen aad) 4 (slice msg 0 msgLen.toNat) := by
    rw [applicationEncrypt, isNonce, (aesCcmEncrypt_written
      (CipherBuffers.apart_streams msg 0) reads length aadShort).2,
      CipherBuffers.writeAll_apart, splice_all (by
        rw [writtenLength, List.length_replicate])]
  have noted := (@aesCcmEncrypt_written _ (aes appKey) (.notedApart msg 0) stale
    nonce (labelByte aad) (labelLen aad) (msgLen.setWidth 16) 4 ⟨data, []⟩
    (notedApart_streams msg 0) _ reads length aadShort).2
  dsimp only
  rw [applicationEncryptNoted, isNonce, noted, plain]
  constructor
  · rw [writes_writeAll_noted (fun _ _ _ => rfl), writtenLength,
      List.range_eq_range']
    rfl
  · rw [← (notedApart_view msg 0).writeAll, CipherBuffers.writeAll_apart]

end Writes

end Meshctl.Crypto
