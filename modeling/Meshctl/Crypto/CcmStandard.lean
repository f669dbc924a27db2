import Meshctl.Crypto.CcmInverse

/-! # Encryption against the definition of CCM

The definition with a length field of two bytes: the tag is the end of a CBC-MAC
over a header block, the additional data behind their length and the message,
each filled up with zeros to whole blocks; message and tag are masked in counter
mode.
-/

namespace Meshctl.Crypto

open Bytes CounterMode

/-! ## The definition -/

section Standard

/-- `B_0` -/
def standardHeader (nonce : List Byte) (aad : List Byte) (micSize msgLen : Nat) :
    AesBlock :=
  let adata := if aad = [] then 0 else 1
  let flags := 64 * adata + 8 * ((micSize - 2) / 2) + (2 - 1)
  Buffer.read ([BitVec.ofNat 8 flags] ++ slice nonce 0 13 ++
    be16 (BitVec.ofNat 16 msgLen)) 0

/-- Zeros up to the next multiple of sixteen bytes. -/
def padded (bytes : List Byte) : List Byte :=
  bytes ++ List.replicate (16 * ((bytes.length + 15) / 16) - bytes.length) 0

/-- Additional data of fewer than `0xff00` bytes behind their length. -/
def encodedAad (aad : List Byte) : List Byte :=
  if aad = [] then [] else be16 (BitVec.ofNat 16 aad.length) ++ aad

/-- The blocks `B_1`, `B_2`, … -/
def authenticated (aad message : List Byte) : List Byte :=
  padded (encodedAad aad) ++ padded message

variable (cipher : AesBlock → AesBlock) (nonce aad : List Byte) (micSize : Nat)

/-- `T` before it is cut to its size. -/
def standardMac (message : List Byte) : AesBlock :=
  chain cipher (cipher (standardHeader nonce aad micSize message.length))
    (authenticated aad message) ((authenticated aad message).length / 16)

/-- `U`: the tag masked with the block of counter 0. -/
def standardTag (message : List Byte) : List Byte :=
  (List.range micSize).map fun i =>
    (standardMac cipher nonce aad micSize message).get i ^^^
      (cipher (counterBlock nonce 0)).get i

/-- The masked message and the tag. -/
def standardCcm (message : List Byte) : List Byte :=
  mask cipher (fun block => counterBlock nonce (block + 1)) message ++
    standardTag cipher nonce aad micSize message

end Standard

/-! ## What the code reads and writes -/

/-- The offsets of the additional data that `chainAad` reads, in their order. -/
def chainAadReads (index next remaining : Nat) : List Nat :=
  if 16 < remaining then
    List.range' next (16 - index) ++
      chainAadReads 0 (next + 16 - index) (remaining - 16)
  else
    List.range' next remaining
termination_by remaining

def aadReads (aadLen : U16) : List Nat :=
  if aadLen ≠ 0 then chainAadReads 2 0 (aadLen.toNat + 2) else []

/-- The bytes of the additional data. -/
def aadBytes (aad : Nat → Byte) (aadLen : U16) : List Byte :=
  (List.range aadLen.toNat).map aad

/-- A message is encrypted as CCM defines it, from its additional data alone: the
bytes written to the output, and the tag that is handed out as an integer. -/
structure EncryptsStandard {Memory : Type*} (cipher : AesBlock → AesBlock)
    (buffers : CipherBuffers Memory) (nonce : List Byte) (aad : Nat → Byte)
    (aadLen : U16) (micSize : Nat) (message : List Byte) (memory : Memory)
    (done : CcmResult Memory) : Prop where
  result : done.result = true
  written : done.memory = buffers.writeAll memory 0
    (standardCcm cipher nonce (aadBytes aad aadLen) micSize message)
  tag : done.mic.bytes.take micSize =
    standardTag cipher nonce (aadBytes aad aadLen) micSize message
  read : aadReads aadLen = List.range aadLen.toNat

/-! ## The reads -/

/-- A block that the loop fills with additional data from `index` on. -/
def filledBlock (aad : Nat → Byte) (index next : Nat) (pmsg xn : AesBlock) :
    AesBlock :=
  Buffer.ofFn fun i =>
    if index ≤ i then xn.get i ^^^ aad (next + i - index) else pmsg.get i

theorem chainAad_long {cipher : AesBlock → AesBlock} {aad : Nat → Byte}
    {index next remaining : Nat} {pmsg xn : AesBlock} (long : 16 < remaining) :
    chainAad cipher aad index next remaining pmsg xn =
      chainAad cipher aad 0 (next + 16 - index) (remaining - 16)
        (filledBlock aad index next pmsg xn)
        (cipher (filledBlock aad index next pmsg xn)) := by
  rw [chainAad, if_pos long]
  rfl

theorem chainAad_short {cipher : AesBlock → AesBlock} {aad : Nat → Byte}
    {index next remaining : Nat} {pmsg xn : AesBlock} (short : ¬16 < remaining) :
    chainAad cipher aad index next remaining pmsg xn =
      cipher (Buffer.ofFn fun i =>
        if i < remaining then xn.get i ^^^ aad (next + i) else xn.get i) := by
  rw [chainAad, if_neg short]

/-- Bytes that are not read do not matter. -/
theorem chainAad_congr (cipher : AesBlock → AesBlock) {aad other : Nat → Byte}
    {index next remaining : Nat} (pmsg xn : AesBlock) (small : index ≤ 16)
    (same : ∀ offset ∈ chainAadReads index next remaining,
      aad offset = other offset) :
    chainAad cipher aad index next remaining pmsg xn =
      chainAad cipher other index next remaining pmsg xn := by
  induction remaining using Nat.strong_induction_on
    generalizing index next pmsg xn with
  | _ remaining induction =>
      rw [chainAadReads] at same
      by_cases long : 16 < remaining
      · rw [if_pos long] at same
        have sameBlock : filledBlock aad index next pmsg xn =
            filledBlock other index next pmsg xn := by
          apply Buffer.ofFn_congr
          intro i inside
          split
          next behind =>
            rw [same (next + i - index) (List.mem_append_left _
              (List.mem_range'_1.mpr (by omega)))]
          next => rfl
        rw [chainAad_long long, chainAad_long long, sameBlock]
        exact induction _ (by omega) _ _ (by omega) fun offset read =>
          same offset (List.mem_append_right _ read)
      · rw [if_neg long] at same
        rw [chainAad_short long, chainAad_short long]
        congr 1
        apply Buffer.ofFn_congr
        intro i _
        split
        next inside =>
          rw [same (next + i) (List.mem_range'_1.mpr (by omega))]
        next => rfl

theorem chainAadReads_zero (next remaining : Nat) :
    chainAadReads 0 next remaining = List.range' next remaining := by
  induction remaining using Nat.strong_induction_on generalizing next with
  | _ remaining induction =>
      rw [chainAadReads]
      split
      next long =>
        rw [induction _ (by omega)]
        have total : remaining = 16 + (remaining - 16) := by omega
        conv_rhs => rw [total]
        exact List.range'_append_1
      next => rfl

/-- A short header is overwritten by two bytes too many. -/
theorem aadReads_eq_iff {aadLen : U16} :
    aadReads aadLen = List.range aadLen.toNat ↔ aadLen = 0 ∨ 15 ≤ aadLen := by
  by_cases isEmpty : aadLen = 0
  · subst isEmpty
    exact iff_of_true rfl (Or.inl rfl)
  · have isFifteen : (15 : U16).toNat = 15 := rfl
    rw [aadReads, if_pos isEmpty, chainAadReads, or_iff_right isEmpty,
      BitVec.le_def, isFifteen]
    have notZero : aadLen.toNat ≠ 0 := fun isZero =>
      isEmpty (BitVec.eq_of_toNat_eq isZero)
    split
    next long =>
      apply iff_of_true _ (by omega)
      rw [chainAadReads_zero, List.range_eq_range']
      have total : aadLen.toNat = 14 + (aadLen.toNat + 2 - 16) := by omega
      conv_rhs => rw [total]
      exact List.range'_append_1
    next short =>
      apply iff_of_false _ (by omega)
      intro same
      have length := congrArg List.length same
      simp at length

/-! ## The chain through the additional data -/

section Chain

variable {cipher : AesBlock → AesBlock} {aad : Nat → Byte}

/-- Behind the first block the loop is the chain through what is left. -/
theorem chainAad_eq_chain (next : Nat) {remaining : Nat}
    (positive : 0 < remaining) (pmsg xn : AesBlock) :
    chainAad cipher aad 0 next remaining pmsg xn =
      chain cipher xn ((List.range remaining).map fun i => aad (next + i))
        ((remaining + 15) / 16) := by
  induction remaining using Nat.strong_induction_on
    generalizing next pmsg xn with
  | _ remaining induction =>
      by_cases long : 16 < remaining
      · have blocks : (remaining + 15) / 16 = 1 + (remaining - 16 + 15) / 16 := by
          omega
        have first : chain cipher xn
            ((List.range remaining).map fun i => aad (next + i)) 1 =
            cipher (filledBlock aad 0 next pmsg xn) := by
          rw [chain, chain]
          congr 1
          apply Buffer.ofFn_congr
          intro i inside
          rw [get_map_range (by omega), if_pos (Nat.zero_le _), Nat.mul_zero,
            Nat.zero_add, Nat.sub_zero]
        have rest : ((List.range remaining).map fun i =>
            aad (next + i)).drop (16 * 1) =
            (List.range (remaining - 16)).map fun i =>
              aad (next + 16 - 0 + i) := by
          apply ext_get (by simp)
          intro index inside
          have inRest : index < remaining - 16 := by simpa using inside
          rw [get_drop, get_map_range (by omega), get_map_range inRest]
          congr 1
          omega
        rw [chainAad_long long, induction _ (by omega) _ (by omega), blocks,
          chain_add, first, rest]
      · have blocks : (remaining + 15) / 16 = 1 := by omega
        rw [chainAad_short long, blocks, chain, chain]
        congr 1
        apply Buffer.ofFn_congr
        intro i _
        rw [Nat.mul_zero, Nat.zero_add]
        split
        next inside => rw [get_map_range inside]
        next outside =>
          rw [get_of_le (by simpa using outside)]
          exact BitVec.xor_zero.symm

theorem aadBytes_eq_nil_iff {aadLen : U16} :
    aadBytes aad aadLen = [] ↔ aadLen = 0 := by
  rw [← List.length_eq_zero_iff, aadBytes, List.length_map, List.length_range,
    ← BitVec.toNat_inj]
  rfl

/-- What the loop chains when it is entered: the length and the data. -/
theorem chainStart_long {nonce : List Byte} {aadLen msgLen : U16} {micSize : Nat}
    (long : 15 ≤ aadLen.toNat) (noWrap : aadLen.toNat + 2 < 2 ^ 16) :
    chainStart cipher nonce aad aadLen msgLen micSize =
      chain cipher (cipher (headerBlock nonce aadLen msgLen micSize))
        (be16 aadLen ++ aadBytes aad aadLen) ((aadLen.toNat + 17) / 16) := by
  have notEmpty : aadLen ≠ 0 := by
    intro isZero
    rw [isZero] at long
    exact absurd long (by decide)
  have blocks : (aadLen.toNat + 17) / 16 = 1 + (aadLen.toNat - 14 + 15) / 16 := by
    omega
  generalize isHeader : headerBlock nonce aadLen msgLen micSize = header
  have first : chain cipher (cipher header) (be16 aadLen ++ aadBytes aad aadLen)
      1 = cipher (filledBlock aad 2 0 (Buffer.ofFn fun i =>
        if i < 2 then (cipher header).get i ^^^
          (header.copy 0 (be16 aadLen)).get i
        else (header.copy 0 (be16 aadLen)).get i) (cipher header)) := by
    rw [chain, chain]
    congr 1
    apply Buffer.ofFn_congr
    intro i inside
    rw [Nat.mul_zero, Nat.zero_add]
    split
    next behind =>
      rw [get_append_right (by simpa using behind), aadBytes,
        get_map_range (by simp; omega)]
      congr 2
    next inLength =>
      rw [Buffer.get_ofFn inside, if_pos (by omega),
        get_append_left (by simp; omega)]
      congr 1
      rw [Buffer.get, Buffer.copy,
        get_splice_inside (by rw [header.sized]; omega) (by omega)
          (by simp; omega), Nat.sub_zero]
  have rest : (be16 aadLen ++ aadBytes aad aadLen).drop (16 * 1) =
      (List.range (aadLen.toNat - 14)).map fun i => aad (14 + i) := by
    apply ext_get (by simp [aadBytes]; omega)
    intro index inside
    have inRest : index < aadLen.toNat - 14 := by
      simp [aadBytes] at inside
      omega
    rw [get_drop, get_append_right (by simp; omega), aadBytes,
      get_map_range (by simp; omega), get_map_range inRest]
    congr 1
    simp
    omega
  rw [chainStart]
  dsimp only
  rw [isHeader, if_pos notEmpty, chainAad_long (by omega), blocks, chain_add,
    first, rest]
  exact chainAad_eq_chain 14 (by omega) _ _

end Chain

/-! ## Which lengths are encrypted as defined -/

section Lengths

variable {cipher : AesBlock → AesBlock} {nonce : List Byte} {aad : Nat → Byte}
  {aadLen : U16} {micSize : Nat} {message : List Byte}

theorem length_padded (bytes : List Byte) :
    (padded bytes).length = 16 * ((bytes.length + 15) / 16) := by
  rw [padded, List.length_append, List.length_replicate]
  omega

/-- Padding changes no byte that is read. -/
theorem chain_padded (start : AesBlock) (bytes : List Byte) (blocks : Nat) :
    chain cipher start (padded bytes) blocks =
      chain cipher start bytes blocks := by
  apply chain_congr
  intro index _
  rw [padded]
  by_cases inside : index < bytes.length
  · rw [get_append_left inside]
  · rw [get_append_right (by omega), get_replicate_zero, get_of_le (by omega)]

theorem headerBlock_eq (isMicSize : micSize = 4 ∨ micSize = 8) :
    headerBlock nonce aadLen (BitVec.ofNat 16 message.length) micSize =
      standardHeader nonce (aadBytes aad aadLen) micSize message.length := by
  have flags : (if micSize = 8 then (0x19 : Byte) else 0x09) |||
      (if aadLen ≠ 0 then 0x40 else 0x00) =
      BitVec.ofNat 8 (64 * (if aadLen = 0 then 0 else 1) +
        8 * ((micSize - 2) / 2) + (2 - 1)) := by
    rcases isMicSize with isFour | isEight
    · subst isFour
      split_ifs <;> first | rfl | contradiction
    · subst isEight
      split_ifs <;> first | rfl | contradiction
  simp only [headerBlock, standardHeader, aadBytes_eq_nil_iff, flags]

/-- The chain of the definition: through the additional data, then through the
message. -/
theorem standardMac_eq (small : message.length < 2 ^ 16) :
    standardMac cipher nonce (aadBytes aad aadLen) micSize message =
      chain cipher
        (chain cipher (cipher (standardHeader nonce (aadBytes aad aadLen) micSize
            message.length))
          (encodedAad (aadBytes aad aadLen))
          (((encodedAad (aadBytes aad aadLen)).length + 15) / 16))
        message (blockCount (BitVec.ofNat 16 message.length)) := by
  have size : (BitVec.ofNat 16 message.length).toNat = message.length := by
    rw [BitVec.toNat_ofNat, Nat.mod_eq_of_lt small]
  have blocks : (authenticated (aadBytes aad aadLen) message).length / 16 =
      ((encodedAad (aadBytes aad aadLen)).length + 15) / 16 +
        blockCount (BitVec.ofNat 16 message.length) := by
    rw [authenticated, List.length_append, length_padded, length_padded,
      blockCount, size]
    omega
  rw [standardMac, blocks, authenticated, chain_append cipher _ (length_padded _),
    chain_padded, chain_padded]

theorem length_aadBytes : (aadBytes aad aadLen).length = aadLen.toNat := by
  rw [aadBytes, List.length_map, List.length_range]

theorem encodedAad_aadBytes (notEmpty : aadLen ≠ 0) :
    encodedAad (aadBytes aad aadLen) = be16 aadLen ++ aadBytes aad aadLen := by
  rw [encodedAad, if_neg (fun isEmpty => notEmpty (aadBytes_eq_nil_iff.mp isEmpty)),
    length_aadBytes, BitVec.ofNat_toNat, BitVec.setWidth_eq]

/-- Without additional data, or with enough of it, the chain starts as
defined. -/
theorem chainStart_eq (isMicSize : micSize = 4 ∨ micSize = 8)
    (aadShort : aadLen.toNat < 0xff00) (exact : aadLen = 0 ∨ 15 ≤ aadLen) :
    chainStart cipher nonce aad aadLen (BitVec.ofNat 16 message.length) micSize =
      chain cipher (cipher (standardHeader nonce (aadBytes aad aadLen) micSize
          message.length))
        (encodedAad (aadBytes aad aadLen))
        (((encodedAad (aadBytes aad aadLen)).length + 15) / 16) := by
  rw [← headerBlock_eq isMicSize]
  by_cases isEmpty : aadLen = 0
  · have noData : aadBytes aad aadLen = [] := aadBytes_eq_nil_iff.mpr isEmpty
    rw [noData, encodedAad, if_pos rfl, chainStart, if_neg (not_not.mpr isEmpty)]
    rfl
  · have long : 15 ≤ aadLen.toNat := by
      have isFifteen : (15 : U16).toNat = 15 := rfl
      have le := exact.resolve_left isEmpty
      rwa [BitVec.le_def, isFifteen] at le
    rw [chainStart_long long (by omega), encodedAad_aadBytes isEmpty,
      List.length_append, length_be16, length_aadBytes]
    congr 1
    omega

/-- The tag of the code is the tag of the definition, if its chain starts as
defined. -/
theorem sentTag_eq (short : micSize ≤ 16) (small : message.length < 2 ^ 16)
    (start : chainStart cipher nonce aad aadLen
        (BitVec.ofNat 16 message.length) micSize =
      chain cipher (cipher (standardHeader nonce (aadBytes aad aadLen) micSize
          message.length))
        (encodedAad (aadBytes aad aadLen))
        (((encodedAad (aadBytes aad aadLen)).length + 15) / 16)) :
    sentTag cipher nonce aad aadLen micSize message =
      standardTag cipher nonce (aadBytes aad aadLen) micSize message := by
  apply ext_get
  · rw [length_sentTag short, standardTag, List.length_map, List.length_range]
  · intro index inside
    rw [length_sentTag short] at inside
    rw [sentTag, get_take inside, standardTag, get_map_range inside,
      standardMac_eq small, ← start, ccmTag]
    change Buffer.get (Buffer.xor _ _) index = _
    rw [Buffer.xor, Buffer.get_ofFn (by omega), BitVec.xor_comm]

/-! ### Short additional data -/

/-- Under a cipher that changes nothing, a chain that starts with another byte
ends with another byte. -/
theorem get_chain_id (start : AesBlock) (data : List Byte) (blocks : Nat)
    {index : Nat} (inside : index < 16) :
    (chain id start data blocks).get index =
      start.get index ^^^ (chain id (Buffer.zero : AesBlock) data blocks).get
        index := by
  induction blocks with
  | zero =>
      have zero : (Buffer.zero : AesBlock).get index = 0 :=
        get_replicate_zero 16 index
      rw [chain, chain, zero]
      exact BitVec.xor_zero.symm
  | succ blocks induction =>
      rw [chain, chain, id, id, Buffer.get_ofFn inside, Buffer.get_ofFn inside,
        induction, BitVec.xor_assoc]

section Short

variable (notEmpty : aadLen ≠ 0) (shortAad : aadLen.toNat < 15)
include notEmpty shortAad

theorem chainStart_short (msgLen : U16) :
    (chainStart cipher nonce aad aadLen msgLen micSize) =
      cipher (Buffer.ofFn fun i =>
        if i < aadLen.toNat + 2 then
          (cipher (headerBlock nonce aadLen msgLen micSize)).get i ^^^ aad i
        else (cipher (headerBlock nonce aadLen msgLen micSize)).get i) := by
  rw [chainStart]
  dsimp only
  rw [if_pos notEmpty, chainAad_short (by omega)]
  simp only [Nat.zero_add]

/-- The definition has the upper half of the length in the first byte. -/
theorem standardStart_short (start : AesBlock) :
    (chain id start (encodedAad (aadBytes aad aadLen))
      (((encodedAad (aadBytes aad aadLen)).length + 15) / 16)).get 0 =
      start.get 0 := by
  have oneBlock : ((be16 aadLen ++ aadBytes aad aadLen).length + 15) / 16 = 1 := by
    rw [List.length_append, length_be16, length_aadBytes]
    omega
  have upper : get (be16 aadLen ++ aadBytes aad aadLen) 0 = 0 := by
    rw [get_append_left (by simp)]
    apply BitVec.eq_of_toNat_eq
    change (aadLen.extractLsb' 8 8).toNat = 0
    rw [BitVec.extractLsb'_toNat, Nat.shiftRight_eq_div_pow]
    omega
  rw [encodedAad_aadBytes notEmpty, oneBlock, chain, chain, id,
    Buffer.get_ofFn (by omega), Nat.mul_zero, Nat.zero_add, upper]
  exact BitVec.xor_zero

end Short

/-- The first byte of the data is chained where the definition has the length. -/
theorem written_not_standard (notEmpty : aadLen ≠ 0)
    (shortAad : aadLen.toNat < 15) (stale : AesBlock)
    (isMicSize : micSize = 4 ∨ micSize = 8) {message out : List Byte}
    (nonempty : 0 < message.length) (small : message.length < 2 ^ 16)
    (room : out.length = message.length + micSize) :
    (encrypted id stale nonce (fun _ => 1) aadLen micSize message out).memory ≠
      standardCcm id nonce (aadBytes (fun _ => 1) aadLen) micSize message := by
  have short : micSize ≤ 16 := by omega
  intro same
  rw [encrypted_eq short nonempty small (by omega) room] at same
  have sameTag := List.append_cancel_left same
  have sameMac : (chain id (chainStart id nonce (fun _ => 1) aadLen
      (BitVec.ofNat 16 message.length) micSize) message
        (blockCount (BitVec.ofNat 16 message.length))).get 0 =
      (standardMac id nonce (aadBytes (fun _ => 1) aadLen) micSize message).get
        0 := by
    have first : get (sentTag id nonce (fun _ => 1) aadLen micSize message) 0 =
        get (standardTag id nonce (aadBytes (fun _ => 1) aadLen) micSize
          message) 0 := congrArg (get · 0) sameTag
    rw [sentTag, get_take (by omega), standardTag, get_map_range (by omega),
      ccmTag] at first
    change Buffer.get (Buffer.xor _ _) 0 = _ at first
    rw [Buffer.xor, Buffer.get_ofFn (by omega), BitVec.xor_comm] at first
    exact (BitVec.xor_left_inj _).mp first
  rw [standardMac_eq small, get_chain_id _ message _ (by omega),
    get_chain_id (chain id _ _ _) message _ (by omega)] at sameMac
  have sameStart := (BitVec.xor_left_inj _).mp sameMac
  rw [chainStart_short notEmpty shortAad, standardStart_short notEmpty shortAad,
    ← headerBlock_eq isMicSize, id, Buffer.get_ofFn (by omega),
    if_pos (by omega)] at sameStart
  have zero : (1 : Byte) = 0 :=
    (BitVec.xor_right_inj _).mp (sameStart.trans BitVec.xor_zero.symm)
  exact absurd zero (by decide)

end Lengths

/-- Encryption is as defined, and reads the additional data alone, exactly when
there is none of it or its first block is full. Between the two it reads two
bytes behind the data and writes another tag. -/
theorem encrypts_standard_iff (aes : Key → AesBlock → AesBlock) (key : Key)
    (stale : AesBlock) (nonce : List Byte) (aad : Nat → Byte) {aadLen : U16}
    (aadShort : aadLen.toNat < 0xff00) {micSize : Nat}
    (isMicSize : micSize = 4 ∨ micSize = 8) {message : List Byte}
    (nonempty : 1 ≤ message.length) (small : message.length ≤ 65535 - micSize) :
    (∀ {Memory : Type} {buffers : CipherBuffers Memory} (memory : Memory),
      buffers.Streams →
      (∀ i < message.length, buffers.read memory i = get message i) →
      (EncryptsStandard (aes key) buffers nonce aad aadLen micSize message memory
          (aesCcmEncrypt (aes key) buffers stale nonce aad aadLen
            (BitVec.ofNat 16 message.length) micSize memory) ↔
        aadLen = 0 ∨ 15 ≤ aadLen)) ∧
    (¬(aadLen = 0 ∨ 15 ≤ aadLen) → ∃ (block : AesBlock → AesBlock)
      (data : Nat → Byte), ∀ out : List Byte,
        out.length = message.length + micSize →
        (encrypted block stale nonce data aadLen micSize message out).memory ≠
          standardCcm block nonce (aadBytes data aadLen) micSize message) := by
  have short : micSize ≤ 16 := by omega
  constructor
  · intro Memory buffers memory streams reads
    constructor
    · intro encrypts
      exact aadReads_eq_iff.mp encrypts.read
    · intro exact
      have tag := @sentTag_eq (aes key) nonce aad aadLen micSize message short
        (by omega) (chainStart_eq isMicSize aadShort exact)
      rw [aesCcmEncrypt_eq streams reads (by omega) (by omega) aadShort]
      refine ⟨rfl, ?_, tag, aadReads_eq_iff.mpr exact⟩
      dsimp only
      rw [ccmSealed, sealed, tag]
      rfl
  · intro inexact
    rw [not_or, BitVec.not_le, BitVec.lt_def] at inexact
    exact ⟨id, fun _ => 1, fun out room => written_not_standard inexact.1
      inexact.2 stale isMicSize (by omega) (by omega) room⟩

/-! ### One byte of additional data -/

theorem encryption_not_always_standard :
    ¬∀ (cipher : AesBlock → AesBlock) (stale : AesBlock) (nonce : List Byte)
      (aad : Nat → Byte) (aadLen : U16), aadLen.toNat < 0xff00 →
      ∀ micSize : Nat, micSize = 4 ∨ micSize = 8 →
      ∀ message : List Byte, 1 ≤ message.length →
      message.length ≤ 65535 - micSize →
      ∀ out : List Byte, out.length = message.length + micSize →
      EncryptsStandard cipher (.apart message 0) nonce aad aadLen micSize message
        out (encrypted cipher stale nonce aad aadLen micSize message out) := by
  intro always
  have encrypts := always id .zero [] (fun _ => 1) 1 (by decide) 4 (Or.inl rfl)
    [1] (by decide) (by decide) (List.replicate 5 0) rfl
  have written := encrypts.written
  rw [CipherBuffers.writeAll_apart, splice_all (by decide +kernel)] at written
  exact written_not_standard (by decide) (by decide) .zero (Or.inl rfl)
    (by decide) (by decide) rfl written

theorem encrypts_standard_iff_label :
    (∀ {Memory : Type} {buffers : CipherBuffers Memory} (memory : Memory),
      buffers.Streams →
      (∀ i < [(1 : Byte)].length, buffers.read memory i = get [1] i) →
      (EncryptsStandard (addKey 7) buffers [] (fun _ => 1) 16 4 [1] memory
          (aesCcmEncrypt (addKey 7) buffers .zero [] (fun _ => 1) 16
            (BitVec.ofNat 16 [(1 : Byte)].length) 4 memory) ↔
        (16 : U16) = 0 ∨ (15 : U16) ≤ 16)) ∧
    (¬((16 : U16) = 0 ∨ (15 : U16) ≤ 16) → ∃ (block : AesBlock → AesBlock)
      (data : Nat → Byte), ∀ out : List Byte,
        out.length = [(1 : Byte)].length + 4 →
        (encrypted block .zero [] data 16 4 [1] out).memory ≠
          standardCcm block [] (aadBytes data 16) 4 [1]) :=
  encrypts_standard_iff addKey 7 .zero [] (fun _ => 1) (by decide) (Or.inl rfl)
    (by decide) (by decide)

end Meshctl.Crypto
