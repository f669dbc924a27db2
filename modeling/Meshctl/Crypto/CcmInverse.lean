import Meshctl.Crypto.Ccm
import Meshctl.Foundation.Execution

/-! # Decryption inverts encryption

Both loops mask with the same key stream and chain the same plaintext blocks.
-/

namespace Meshctl.Crypto

open Bytes CounterMode Execution

/-! ## Writing behind the reader -/

/-- A write never changes what is read behind it. -/
def CipherBuffers.Streams {Memory : Type*} (buffers : CipherBuffers Memory) :
    Prop :=
  ∀ memory index byte later, index < later →
    buffers.read (buffers.write memory index byte) later =
      buffers.read memory later

namespace CipherBuffers

theorem apart_streams (message : List Byte) (outAt : Nat) :
    (apart message outAt).Streams := fun _ _ _ _ _ => rfl

theorem inPlace_streams (start : Nat) : (inPlace start).Streams := by
  intro memory index byte later before
  exact get_put_ne (by omega)

section WriteAll

variable {Memory : Type*} {buffers : CipherBuffers Memory}

theorem writeAll_append (memory : Memory) (index : Nat)
    (first second : List Byte) :
    buffers.writeAll memory index (first ++ second) =
      buffers.writeAll (buffers.writeAll memory index first)
        (index + first.length) second := by
  induction first generalizing memory index with
  | nil => rfl
  | cons byte rest induction =>
      rw [List.cons_append, writeAll, writeAll, induction, List.length_cons]
      congr 1
      omega

theorem read_writeAll (streams : buffers.Streams) (memory : Memory)
    {index later : Nat} {bytes : List Byte}
    (behind : index + bytes.length ≤ later) :
    buffers.read (buffers.writeAll memory index bytes) later =
      buffers.read memory later := by
  induction bytes generalizing memory index with
  | nil => rfl
  | cons byte rest induction =>
      rw [List.length_cons] at behind
      rw [writeAll, induction _ (by omega), streams _ _ _ _ (by omega)]

/-- A loop that masks byte after byte writes the masked bytes. -/
theorem foldl_write (streams : buffers.Streams) (memory : Memory)
    (start : Nat) (mask : Nat → Byte) (size : Nat) :
    (List.range size).foldl (fun memory i => buffers.write memory (start + i)
        (buffers.read memory (start + i) ^^^ mask i)) memory =
      buffers.writeAll memory start ((List.range size).map fun i =>
        buffers.read memory (start + i) ^^^ mask i) := by
  induction size with
  | zero => rfl
  | succ size induction =>
      rw [List.range_succ, List.foldl_append, induction, List.map_append,
        writeAll_append]
      have unchanged := @read_writeAll _ _ streams memory start (start + size)
        ((List.range size).map fun i =>
          buffers.read memory (start + i) ^^^ mask i) (by simp)
      simp only [List.foldl_cons, List.foldl_nil, List.map_cons, List.map_nil,
        List.length_map, List.length_range, writeAll, unchanged]

end WriteAll

/-- Separate buffers: the output is copied to its place. -/
theorem writeAll_apart (message out : List Byte) (outAt index : Nat)
    (bytes : List Byte) :
    (apart message outAt).writeAll out index bytes =
      splice out (outAt + index) bytes := by
  induction bytes generalizing out index with
  | nil => rw [splice_nil, writeAll]
  | cons byte rest induction =>
      rw [writeAll, induction, splice_cons]
      rfl

theorem writeAll_inPlace (start : Nat) (buffer : List Byte) (index : Nat)
    (bytes : List Byte) :
    (inPlace start).writeAll buffer index bytes =
      splice buffer (start + index) bytes := by
  induction bytes generalizing buffer index with
  | nil => rw [splice_nil, writeAll]
  | cons byte rest induction =>
      rw [writeAll, induction, splice_cons]
      rfl

end CipherBuffers

/-! ## Blocks of a message -/

section Blocks

variable {cipher : AesBlock → AesBlock} {nonce message : List Byte} {msgLen : U16}
  {j : Nat}

/-- The counters that the message is masked with. -/
def messageCounter (nonce : List Byte) (block : Nat) : AesBlock :=
  counterBlock nonce (block + 1)

theorem blockBytes_add (inMessage : j < blockCount msgLen) :
    16 * j + blockBytes (blockCount msgLen) (lastBlock msgLen) j =
      min (16 * (j + 1)) msgLen.toNat := by
  rw [blockCount] at inMessage
  by_cases last : j + 1 = blockCount msgLen
  · rw [blockBytes, if_pos last, lastBlock]
    rw [blockCount] at last
    split <;> omega
  · rw [blockBytes, if_neg last]
    rw [blockCount] at last
    omega

/-- What is masked before a block and the masked block. -/
theorem take_mask_succ (length : message.length = msgLen.toNat)
    (inMessage : j < blockCount msgLen) :
    (mask cipher (messageCounter nonce) message).take (16 * (j + 1)) =
      (mask cipher (messageCounter nonce) message).take (16 * j) ++
      (List.range (blockBytes (blockCount msgLen) (lastBlock msgLen) j)).map
        fun i => get message (16 * j + i) ^^^
          (cipher (counterBlock nonce (j + 1))).get i := by
  have sizes := blockBytes_add inMessage
  generalize blockBytes (blockCount msgLen) (lastBlock msgLen) j = size at *
  apply ext_get
  · simp
    omega
  · intro index inside
    rw [List.length_take, length_mask] at inside
    rw [get_take (by omega)]
    by_cases before : index < 16 * j
    · rw [get_append_left (by simp; omega), get_take before]
    · have start : ((mask cipher (messageCounter nonce) message).take
          (16 * j)).length = 16 * j := by
        simp
        omega
      obtain ⟨i, isIndex⟩ := Nat.exists_eq_add_of_le (Nat.le_of_not_lt before)
      subst isIndex
      rw [get_append_right (by omega), start, get_mask (by omega),
        stream_block (by omega), Nat.add_sub_cancel_left,
        get_map_range (by omega), messageCounter]

/-- A block that is filled up with zeros extends the chain. -/
theorem chain_block {start : AesBlock} (length : message.length = msgLen.toNat)
    (inMessage : j < blockCount msgLen) {byte : Nat → Byte}
    (bytes : ∀ i < blockBytes (blockCount msgLen) (lastBlock msgLen) j,
      byte i = get message (16 * j + i)) :
    cipher (Buffer.ofFn fun i =>
        if i < blockBytes (blockCount msgLen) (lastBlock msgLen) j then
          (chain cipher start message j).get i ^^^ byte i
        else
          (chain cipher start message j).get i ^^^ 0x00) =
      chain cipher start message (j + 1) := by
  have sizes := blockBytes_add inMessage
  rw [chain]
  congr 1
  apply Buffer.ofFn_congr
  intro i inBlock
  split
  next inside => rw [bytes i inside]
  next outside => rw [get_of_le (by omega)]

end Blocks

/-! ## The loops -/

/-- The authentication code of a message. -/
def ccmTag (cipher : AesBlock → AesBlock) (nonce : List Byte) (aad : Nat → Byte)
    (aadLen : U16) (micSize : Nat) (message : List Byte) : AesBlock :=
  (cipher (counterBlock nonce 0)).xor (chain cipher
    (chainStart cipher nonce aad aadLen (BitVec.ofNat 16 message.length) micSize)
    message (blockCount (BitVec.ofNat 16 message.length)))

/-- The loops after some blocks of the message: `masked` is written. -/
structure CcmLoop {Memory : Type*} (cipher : AesBlock → AesBlock)
    (buffers : CipherBuffers Memory) (nonce : List Byte) (start : AesBlock)
    (message masked : List Byte) (blkCnt : Nat) (memory : Memory) (j : Nat)
    (state : CcmState Memory) : Prop where
  xn : state.xn = chain cipher start message j
  memory : state.memory = buffers.writeAll memory 0 (masked.take (16 * j))
  mic : 0 < j → j = blkCnt →
    state.mic = (cipher (counterBlock nonce 0)).xor state.xn

section Loops

variable {Memory : Type*} {cipher : AesBlock → AesBlock}
  {buffers : CipherBuffers Memory} {nonce message : List Byte} {start : AesBlock}
  {msgLen : U16} {memory : Memory}

/-- What is behind the written blocks can still be read. -/
theorem CcmLoop.read {masked : List Byte} {blkCnt j : Nat}
    {state : CcmState Memory} (streams : buffers.Streams)
    (loop : CcmLoop cipher buffers nonce start message masked blkCnt memory j
      state) {index : Nat} (behind : 16 * j ≤ index) :
    buffers.read state.memory index = buffers.read memory index := by
  rw [loop.memory, CipherBuffers.read_writeAll streams]
  rw [List.length_take]
  omega

theorem encryptBlock_loop (streams : buffers.Streams)
    (length : message.length = msgLen.toNat)
    (reads : ∀ i < message.length, buffers.read memory i = get message i)
    {j : Nat} (inMessage : j < blockCount msgLen) {state : CcmState Memory}
    (loop : CcmLoop cipher buffers nonce start message
      (mask cipher (messageCounter nonce) message) (blockCount msgLen) memory j
      state) :
    CcmLoop cipher buffers nonce start message
      (mask cipher (messageCounter nonce) message) (blockCount msgLen) memory
      (j + 1) (encryptBlock cipher buffers nonce (blockCount msgLen)
        (lastBlock msgLen) state j) := by
  have sizes := blockBytes_add inMessage
  have block : ∀ i < blockBytes (blockCount msgLen) (lastBlock msgLen) j,
      buffers.read state.memory (j * 16 + i) = get message (16 * j + i) := by
    intro i inside
    rw [Nat.mul_comm, loop.read streams (by omega), reads _ (by omega)]
  have written := CipherBuffers.foldl_write streams state.memory (j * 16)
    (cipher (counterBlock nonce (j + 1))).get
    (blockBytes (blockCount msgLen) (lastBlock msgLen) j)
  have xn := @chain_block cipher message msgLen j start length inMessage _ block
  rw [← loop.xn] at xn
  refine ⟨xn, ?_, ?_⟩
  · rw [encryptBlock]
    dsimp only
    rw [written, take_mask_succ length inMessage, CipherBuffers.writeAll_append,
      ← loop.memory, List.length_take, length_mask]
    have before : 0 + min (16 * j) message.length = j * 16 := by omega
    rw [before]
    congr 1
    apply List.map_congr_left
    intro i inside
    rw [block i (List.mem_range.mp inside)]
  · intro _ last
    rw [encryptBlock]
    exact if_pos last

theorem decryptBlock_loop {text : List Byte} (streams : buffers.Streams)
    (length : text.length = msgLen.toNat)
    (reads : ∀ i < text.length, buffers.read memory i = get text i)
    {j : Nat} (inMessage : j < blockCount msgLen) {state : CcmState Memory}
    (loop : CcmLoop cipher buffers nonce start
      (mask cipher (messageCounter nonce) text)
      (mask cipher (messageCounter nonce) text) (blockCount msgLen) memory j
      state) :
    CcmLoop cipher buffers nonce start
      (mask cipher (messageCounter nonce) text)
      (mask cipher (messageCounter nonce) text) (blockCount msgLen) memory
      (j + 1) (decryptBlock cipher buffers nonce (blockCount msgLen)
        (lastBlock msgLen) state j) := by
  have sizes := blockBytes_add inMessage
  have msg : (List.range (blockBytes (blockCount msgLen) (lastBlock msgLen)
      j)).map (fun i => buffers.read state.memory (j * 16 + i) ^^^
        (cipher (counterBlock nonce (j + 1))).get i) =
      (List.range (blockBytes (blockCount msgLen) (lastBlock msgLen) j)).map
        (fun i => get text (16 * j + i) ^^^
          (cipher (counterBlock nonce (j + 1))).get i) := by
    apply List.map_congr_left
    intro i inside
    have inBlock := List.mem_range.mp inside
    rw [Nat.mul_comm, loop.read streams (by omega), reads _ (by omega)]
  have plain : ∀ i < blockBytes (blockCount msgLen) (lastBlock msgLen) j,
      get ((List.range (blockBytes (blockCount msgLen) (lastBlock msgLen)
        j)).map (fun i => get text (16 * j + i) ^^^
          (cipher (counterBlock nonce (j + 1))).get i)) i =
        get (mask cipher (messageCounter nonce) text) (16 * j + i) := by
    intro i inside
    rw [get_map_range inside, get_mask (by omega), stream_block (by omega),
      messageCounter]
  have xn := @chain_block cipher _ msgLen j start
    ((length_mask _ _ _).trans length) inMessage _ plain
  rw [← loop.xn] at xn
  refine ⟨?_, ?_, ?_⟩
  · rw [decryptBlock]
    dsimp only
    rw [msg]
    exact xn
  · rw [decryptBlock]
    dsimp only
    rw [msg, take_mask_succ length inMessage, CipherBuffers.writeAll_append,
      ← loop.memory, List.length_take, length_mask]
    have before : 0 + min (16 * j) text.length = j * 16 := by omega
    rw [before]
  · intro _ last
    rw [decryptBlock]
    exact if_pos last

end Loops

/-! ## The functions -/

/-- The tag of a message as it is sent. -/
def sentTag (cipher : AesBlock → AesBlock) (nonce : List Byte) (aad : Nat → Byte)
    (aadLen : U16) (micSize : Nat) (message : List Byte) : List Byte :=
  (ccmTag cipher nonce aad aadLen micSize message).bytes.take micSize

/-- A message as `mesh_crypto_aes_ccm_encrypt` writes it. -/
def ccmSealed (cipher : AesBlock → AesBlock) (nonce : List Byte) (aad : Nat → Byte)
    (aadLen : U16) (micSize : Nat) : List Byte → List Byte :=
  sealed cipher (messageCounter nonce)
    (sentTag cipher nonce aad aadLen micSize)

/-- A string without its tag, unmasked. -/
def ccmPlain (cipher : AesBlock → AesBlock) (nonce : List Byte) (micSize : Nat)
    (whole : List Byte) : List Byte :=
  mask cipher (messageCounter nonce) (whole.take (whole.length - micSize))

section Functions

variable {Memory : Type*} {cipher : AesBlock → AesBlock}
  {buffers : CipherBuffers Memory} {stale : AesBlock} {nonce : List Byte}
  {aad : Nat → Byte} {aadLen : U16} {micSize : Nat} {memory : Memory}

theorem blockCount_covers (msgLen : U16) :
    msgLen.toNat ≤ 16 * blockCount msgLen := by
  rw [blockCount]
  omega

theorem aesCcmEncrypt_eq (streams : buffers.Streams) {message : List Byte}
    (reads : ∀ i < message.length, buffers.read memory i = get message i)
    (nonempty : 0 < message.length) (small : message.length < 2 ^ 16)
    (aadShort : aadLen.toNat < 0xff00) :
    aesCcmEncrypt cipher buffers stale nonce aad aadLen
        (BitVec.ofNat 16 message.length) micSize memory =
      { result := true
        mic := ccmTag cipher nonce aad aadLen micSize message
        memory := buffers.writeAll memory 0
          (ccmSealed cipher nonce aad aadLen micSize message) } := by
  generalize isLen : BitVec.ofNat 16 message.length = msgLen
  have length : message.length = msgLen.toNat := by
    rw [← isLen, BitVec.toNat_ofNat, Nat.mod_eq_of_lt small]
  have covers := blockCount_covers msgLen
  have loop := foldl_range_invariant
    (encryptBlock cipher buffers nonce (blockCount msgLen) (lastBlock msgLen))
    ⟨chainStart cipher nonce aad aadLen msgLen micSize, stale, memory⟩
    (blockCount msgLen)
    (CcmLoop cipher buffers nonce
      (chainStart cipher nonce aad aadLen msgLen micSize) message
      (mask cipher (messageCounter nonce) message) (blockCount msgLen) memory)
    ⟨rfl, rfl, fun absurd => absurd.ne rfl |>.elim⟩
    (fun j inMessage state => encryptBlock_loop streams length reads inMessage)
  have mic := loop.mic (by omega) rfl
  rw [loop.xn] at mic
  have tag : ccmTag cipher nonce aad aadLen micSize message =
      (cipher (counterBlock nonce 0)).xor (chain cipher
        (chainStart cipher nonce aad aadLen msgLen micSize) message
        (blockCount msgLen)) := by
    rw [ccmTag, isLen]
  rw [aesCcmEncrypt, if_neg (by omega)]
  dsimp only
  rw [mic, loop.memory, List.take_of_length_le (by simp; omega), tag, ccmSealed,
    sealed, CipherBuffers.writeAll_append, sentTag, tag, length_mask, length,
    Nat.zero_add]

/-- The bytes behind the message are compared with the tag. -/
theorem sameTag_eq (streams : buffers.Streams) {whole : List Byte}
    (reads : ∀ i < whole.length, buffers.read memory i = get whole i)
    {plain : List Byte} {tag : AesBlock} (short : micSize ≤ 16)
    (length : plain.length + micSize = whole.length) :
    ((List.range micSize).all fun i =>
        buffers.read (buffers.writeAll memory 0 plain)
          (whole.length - micSize + i) = tag.get i) =
      decide (whole.drop (whole.length - micSize) =
        tag.bytes.take micSize) := by
  have behind : ∀ i < micSize,
      buffers.read (buffers.writeAll memory 0 plain)
        (whole.length - micSize + i) =
      get (whole.drop (whole.length - micSize)) i := by
    intro i inTag
    rw [CipherBuffers.read_writeAll streams _ (by omega), reads _ (by omega),
      get_drop]
  rw [Bool.eq_iff_iff, List.all_eq_true, decide_eq_true_eq]
  constructor
  · intro same
    have tagSize := tag.sized
    apply ext_get (by simp; omega)
    intro i inside
    have inTag : i < micSize := by
      rw [List.length_drop] at inside
      omega
    rw [get_take inTag, ← behind i inTag]
    exact of_decide_eq_true (same i (List.mem_range.mpr inTag))
  · intro equal i member
    have inTag := List.mem_range.mp member
    rw [decide_eq_true_eq, behind i inTag, equal, get_take inTag, Buffer.get]

theorem aesCcmDecrypt_eq (streams : buffers.Streams) {whole : List Byte}
    (reads : ∀ i < whole.length, buffers.read memory i = get whole i)
    (isMicSize : micSize = 4 ∨ micSize = 8)
    (nonempty : micSize < whole.length) (small : whole.length < 2 ^ 16)
    (aadShort : aadLen.toNat < 0xff00) (outMic : Bool) :
    aesCcmDecrypt cipher buffers stale nonce aad aadLen
        (BitVec.ofNat 16 whole.length) outMic micSize memory =
      { result := outMic || decide (whole.drop (whole.length - micSize) =
          sentTag cipher nonce aad aadLen micSize
            (ccmPlain cipher nonce micSize whole))
        mic := ccmTag cipher nonce aad aadLen micSize
          (ccmPlain cipher nonce micSize whole)
        memory := buffers.writeAll memory 0
          (ccmPlain cipher nonce micSize whole) } := by
  have total : (BitVec.ofNat 16 whole.length).toNat = whole.length := by
    rw [BitVec.toNat_ofNat, Nat.mod_eq_of_lt small]
  generalize isLen : BitVec.ofNat 16 whole.length - BitVec.ofNat 16 micSize =
    msgLen
  have msgSize : msgLen.toNat = whole.length - micSize := by
    rw [← isLen, BitVec.toNat_sub, total, BitVec.toNat_ofNat]
    omega
  have length : (whole.take (whole.length - micSize)).length = msgLen.toNat := by
    rw [List.length_take]
    omega
  have plainLen : BitVec.ofNat 16 (ccmPlain cipher nonce micSize whole).length =
      msgLen := by
    rw [ccmPlain, length_mask, length, BitVec.ofNat_toNat, BitVec.setWidth_eq]
  have covers := blockCount_covers msgLen
  have loop := foldl_range_invariant
    (decryptBlock cipher buffers nonce (blockCount msgLen) (lastBlock msgLen))
    ⟨chainStart cipher nonce aad aadLen msgLen micSize, stale, memory⟩
    (blockCount msgLen)
    (CcmLoop cipher buffers nonce
      (chainStart cipher nonce aad aadLen msgLen micSize)
      (ccmPlain cipher nonce micSize whole)
      (ccmPlain cipher nonce micSize whole) (blockCount msgLen) memory)
    ⟨rfl, rfl, fun absurd => absurd.ne rfl |>.elim⟩
    (fun j inMessage state => decryptBlock_loop streams length (by
      intro i inside
      rw [get_take (by simpa using inside), reads i (by omega)]) inMessage)
  have mic := loop.mic (by omega) rfl
  have written := loop.memory
  have tag : ccmTag cipher nonce aad aadLen micSize
      (ccmPlain cipher nonce micSize whole) =
      (cipher (counterBlock nonce 0)).xor (chain cipher
        (chainStart cipher nonce aad aadLen msgLen micSize)
        (ccmPlain cipher nonce micSize whole) (blockCount msgLen)) := by
    rw [ccmTag, plainLen]
  have plainSize : (ccmPlain cipher nonce micSize whole).length =
      msgLen.toNat := (length_mask _ _ _).trans length
  rw [List.take_of_length_le (by omega)] at written
  rw [loop.xn, ← tag] at mic
  have isSupported : (micSize = 4 || micSize = 8) = true := by
    rcases isMicSize with isFour | isEight
    · simp [isFour]
    · simp [isEight]
  have sameMic := @sameTag_eq _ buffers micSize memory streams whole reads
    (ccmPlain cipher nonce micSize whole)
    (ccmTag cipher nonce aad aadLen micSize
      (ccmPlain cipher nonce micSize whole)) (by omega) (by omega)
  rw [aesCcmDecrypt, isLen, total, if_neg (by simp; omega)]
  dsimp only
  rw [written, mic, isSupported, sameMic, Bool.true_and, sentTag]

end Functions

/-! ## Round trips -/

section RoundTrip

variable (cipher : AesBlock → AesBlock) (stale : AesBlock) (nonce : List Byte)
  (aad : Nat → Byte) (aadLen : U16) (micSize : Nat)

/-- Encrypt a buffer into another one. -/
def encrypted (message out : List Byte) : CcmResult (List Byte) :=
  aesCcmEncrypt cipher (.apart message 0) stale nonce aad aadLen
    (BitVec.ofNat 16 message.length) micSize out

/-- Decrypt a buffer into another one, with the tag behind the message. -/
def decrypted (whole out : List Byte) : CcmResult (List Byte) :=
  aesCcmDecrypt cipher (.apart whole 0) stale nonce aad aadLen
    (BitVec.ofNat 16 whole.length) false micSize out

variable {cipher stale nonce aad aadLen micSize}

theorem length_sentTag (short : micSize ≤ 16) (message : List Byte) :
    (sentTag cipher nonce aad aadLen micSize message).length = micSize := by
  rw [sentTag, List.length_take, Buffer.sized]
  omega

theorem length_ccmSealed (short : micSize ≤ 16) (message : List Byte) :
    (ccmSealed cipher nonce aad aadLen micSize message).length =
      message.length + micSize := by
  rw [ccmSealed, sealed, List.length_append, length_mask, length_sentTag short]

theorem length_ccmPlain (whole : List Byte) :
    (ccmPlain cipher nonce micSize whole).length = whole.length - micSize := by
  rw [ccmPlain, length_mask, List.length_take]
  omega

theorem encrypted_eq {message out : List Byte} (short : micSize ≤ 16)
    (nonempty : 0 < message.length) (small : message.length < 2 ^ 16)
    (aadShort : aadLen.toNat < 0xff00)
    (room : out.length = message.length + micSize) :
    encrypted cipher stale nonce aad aadLen micSize message out =
      ⟨true, ccmTag cipher nonce aad aadLen micSize message,
        ccmSealed cipher nonce aad aadLen micSize message⟩ := by
  rw [encrypted, aesCcmEncrypt_eq (CipherBuffers.apart_streams _ _)
    (fun _ _ => rfl) nonempty small aadShort, CipherBuffers.writeAll_apart,
    splice_all ((length_ccmSealed short _).trans room.symm)]

theorem decrypted_eq {whole out : List Byte}
    (isMicSize : micSize = 4 ∨ micSize = 8) (nonempty : micSize < whole.length)
    (small : whole.length < 2 ^ 16) (aadShort : aadLen.toNat < 0xff00)
    (room : out.length = whole.length - micSize) :
    decrypted cipher stale nonce aad aadLen micSize whole out =
      ⟨decide (whole.drop (whole.length - micSize) =
          sentTag cipher nonce aad aadLen micSize
            (ccmPlain cipher nonce micSize whole)),
        ccmTag cipher nonce aad aadLen micSize
          (ccmPlain cipher nonce micSize whole),
        ccmPlain cipher nonce micSize whole⟩ := by
  rw [decrypted, aesCcmDecrypt_eq (CipherBuffers.apart_streams _ _)
    (fun _ _ => rfl) isMicSize nonempty small aadShort,
    CipherBuffers.writeAll_apart,
    splice_all ((length_ccmPlain _).trans room.symm), Bool.false_or]

/-- Unsealing a sealed message. -/
theorem ccmPlain_ccmSealed (short : micSize ≤ 16) (message : List Byte) :
    ccmPlain cipher nonce micSize
      (ccmSealed cipher nonce aad aadLen micSize message) = message := by
  rw [ccmPlain, length_ccmSealed short, Nat.add_sub_cancel, ccmSealed,
    mask_take_sealed]

end RoundTrip

/-- Decryption accepts what encryption writes and gives the message back; and
whatever it accepts is what encryption writes for its output. -/
theorem decrypt_inverts_encrypt (aes : Key → AesBlock → AesBlock) (key : Key)
    (nonce : List Byte) (aad : Nat → Byte) {aadLen : U16}
    (aadShort : aadLen.toNat < 0xff00) {micSize : Nat}
    (isMicSize : micSize = 4 ∨ micSize = 8) :
    (∀ message : List Byte, 1 ≤ message.length →
      message.length + micSize ≤ 65535 →
      ∀ (stale stale' : AesBlock) (out out' : List Byte),
      out.length = message.length + micSize → out'.length = message.length →
      let sent := encrypted (aes key) stale nonce aad aadLen micSize message out
      let received :=
        decrypted (aes key) stale' nonce aad aadLen micSize sent.memory out'
      sent.result = true ∧ received.result = true ∧
        received.memory = message) ∧
    (∀ whole : List Byte, micSize + 1 ≤ whole.length → whole.length ≤ 65535 →
      ∀ (stale stale' : AesBlock) (out out' : List Byte),
      out.length = whole.length - micSize → out'.length = whole.length →
      let received :=
        decrypted (aes key) stale nonce aad aadLen micSize whole out
      received.result = true →
      (encrypted (aes key) stale' nonce aad aadLen micSize received.memory
        out').memory = whole) := by
  have short : micSize ≤ 16 := by omega
  constructor
  · intro message nonempty small stale stale' out out' room room'
    dsimp only
    have length := @length_ccmSealed (aes key) nonce aad aadLen micSize short
      message
    rw [encrypted_eq short (by omega) (by omega) aadShort room]
    dsimp only
    rw [decrypted_eq isMicSize (by omega) (by omega) aadShort (by omega),
      ccmPlain_ccmSealed short]
    have tag : (ccmSealed (aes key) nonce aad aadLen micSize message).drop
        ((ccmSealed (aes key) nonce aad aadLen micSize message).length -
          micSize) = sentTag (aes key) nonce aad aadLen micSize message := by
      rw [length, Nat.add_sub_cancel, ccmSealed, drop_sealed]
    exact ⟨rfl, decide_eq_true tag, rfl⟩
  · intro whole nonempty small stale stale' out out' room room'
    dsimp only
    rw [decrypted_eq isMicSize (by omega) (by omega) aadShort room]
    intro accepted
    have tag := of_decide_eq_true accepted
    have length := @length_ccmPlain (aes key) nonce micSize whole
    dsimp only
    rw [encrypted_eq short (by omega) (by omega) aadShort (by omega)]
    exact sealed_eq_of_tag tag

/-! ### Three bytes -/

/-- Three bytes under a cipher that only adds the key to every byte. -/
def addKey (key : Key) (block : AesBlock) : AesBlock :=
  Buffer.ofFn fun index => block.get index + key.setWidth 8

theorem decrypt_inverts_encrypt_three_bytes :
    let sent := encrypted (addKey 7) .zero [] (fun _ => 0) 0 4 [1, 2, 3]
      (List.replicate 7 0)
    let received := decrypted (addKey 7) .zero [] (fun _ => 0) 0 4 sent.memory
      (List.replicate 3 0)
    (sent.result = true ∧ received.result = true ∧
      received.memory = [1, 2, 3]) ∧
    (encrypted (addKey 7) .zero [] (fun _ => 0) 0 4 received.memory
      (List.replicate 7 0)).memory = sent.memory := by
  have both := @decrypt_inverts_encrypt addKey 7 [] (fun _ => 0) 0 (by decide) 4
    (Or.inl rfl)
  have sent := both.1 [1, 2, 3] (by decide) (by decide) .zero .zero
    (List.replicate 7 0) (List.replicate 3 0) rfl rfl
  have length : (encrypted (addKey 7) .zero [] (fun _ => 0) 0 4 [1, 2, 3]
      (List.replicate 7 0)).memory.length = 7 := by decide +kernel
  exact ⟨sent, both.2 _ (by omega) (by omega) .zero .zero (List.replicate 3 0)
    (List.replicate 7 0) (by rw [length]; rfl) length.symm sent.2.1⟩

end Meshctl.Crypto
