import Meshctl.Foundation.CounterMode

/-! # Authenticated encryption

The two CCM functions of `crypto.c` over any block cipher. The sockets that
carry the cipher never fail here.
-/

namespace Meshctl.Crypto

open Bytes

abbrev AesBlock := Buffer 16

/-- Where a cipher reads its message and writes its result: in two buffers, or
in one. -/
structure CipherBuffers (Memory : Type*) where
  read : Memory → Nat → Byte
  write : Memory → Nat → Byte → Memory

namespace CipherBuffers

/-- Read from one buffer, write to another one from `outAt` on. -/
def apart (message : List Byte) (outAt : Nat) : CipherBuffers (List Byte) where
  read _ index := get message index
  write out index byte := put out (outAt + index) byte

/-- Read and write the same bytes, from `at` on. -/
def inPlace (start : Nat) : CipherBuffers (List Byte) where
  read buffer index := get buffer (start + index)
  write buffer index byte := put buffer (start + index) byte

variable {Memory : Type*} (buffers : CipherBuffers Memory)

/-- `memcpy` to the output. -/
def writeAll (memory : Memory) (index : Nat) : List Byte → Memory
  | [] => memory
  | byte :: rest => writeAll (buffers.write memory index byte) (index + 1) rest

end CipherBuffers

/-! ## Blocks -/

/-- The block that is enciphered for the mask of block `counter`. -/
def counterBlock (nonce : List Byte) (counter : Nat) : AesBlock :=
  Buffer.read ([0x01] ++ slice nonce 0 13 ++ be16 (BitVec.ofNat 16 counter)) 0

def headerBlock (nonce : List Byte) (aadLen msgLen : U16) (micSize : Nat) :
    AesBlock :=
  let flags : Byte := if micSize = 8 then 0x19 else 0x09
  let flags := flags ||| if aadLen ≠ 0 then 0x40 else 0x00
  Buffer.read ([flags] ++ slice nonce 0 13 ++ be16 msgLen) 0

section Cipher

variable (cipher : AesBlock → AesBlock)

/-- The loop over the additional data. The first block has two bytes for the
length, but they are lost when it is also the last one: then it reads on behind
the additional data. -/
def chainAad (aad : Nat → Byte) (index next remaining : Nat)
    (pmsg xn : AesBlock) : AesBlock :=
  if 16 < remaining then
    let pmsg : AesBlock := Buffer.ofFn fun i =>
      if index ≤ i then xn.get i ^^^ aad (next + i - index) else pmsg.get i
    chainAad aad 0 (next + 16 - index) (remaining - 16) pmsg (cipher pmsg)
  else
    cipher (Buffer.ofFn fun i =>
      if i < remaining then xn.get i ^^^ aad (next + i) else xn.get i)
termination_by remaining

/-- The chain before the first block of the message. -/
def chainStart (nonce : List Byte) (aad : Nat → Byte) (aadLen msgLen : U16)
    (micSize : Nat) : AesBlock :=
  let pmsg := headerBlock nonce aadLen msgLen micSize
  let xn := cipher pmsg
  if aadLen ≠ 0 then
    let pmsg := pmsg.copy 0 (be16 aadLen)
    let pmsg : AesBlock := Buffer.ofFn fun i =>
      if i < 2 then xn.get i ^^^ pmsg.get i else pmsg.get i
    chainAad cipher aad 2 0 (aadLen.toNat + 2) pmsg xn
  else
    xn

/-- What the loops over the blocks of the message change. -/
structure CcmState (Memory : Type*) where
  xn : AesBlock
  mic : AesBlock
  memory : Memory

/-- What a CCM function returns and leaves: `mic` is what it stores through
`out_mic`. -/
structure CcmResult (Memory : Type*) where
  result : Bool
  mic : AesBlock
  memory : Memory

section Loops

variable {Memory : Type*} (buffers : CipherBuffers Memory) (nonce : List Byte)
  (blkCnt lastBlk : Nat)

/-- The bytes of block `j` that are part of the message. -/
def blockBytes (j : Nat) : Nat := if j + 1 = blkCnt then lastBlk else 16

def encryptBlock (state : CcmState Memory) (j : Nat) : CcmState Memory :=
  let size := blockBytes blkCnt lastBlk j
  let pmsg : AesBlock := Buffer.ofFn fun i =>
    if i < size then
      state.xn.get i ^^^ buffers.read state.memory (j * 16 + i)
    else
      state.xn.get i ^^^ 0x00
  let xn := cipher pmsg
  let mic :=
    if j + 1 = blkCnt then (cipher (counterBlock nonce 0)).xor xn
    else state.mic
  let cmsg := cipher (counterBlock nonce (j + 1))
  let memory := (List.range size).foldl
    (fun memory i => buffers.write memory (j * 16 + i)
      (buffers.read memory (j * 16 + i) ^^^ cmsg.get i)) state.memory
  { xn, mic, memory }

def decryptBlock (state : CcmState Memory) (j : Nat) : CcmState Memory :=
  let size := blockBytes blkCnt lastBlk j
  let cmsg := cipher (counterBlock nonce (j + 1))
  let msg := (List.range size).map fun i =>
    buffers.read state.memory (j * 16 + i) ^^^ cmsg.get i
  let memory := buffers.writeAll state.memory (j * 16) msg
  let pmsg : AesBlock := Buffer.ofFn fun i =>
    if i < size then state.xn.get i ^^^ get msg i else state.xn.get i ^^^ 0x00
  let xn := cipher pmsg
  let mic :=
    if j + 1 = blkCnt then (cipher (counterBlock nonce 0)).xor xn
    else state.mic
  { xn, mic, memory }

end Loops

section Functions

variable {Memory : Type*} (buffers : CipherBuffers Memory) (stale : AesBlock)
  (nonce : List Byte) (aad : Nat → Byte) (aadLen : U16)

def lastBlock (msgLen : U16) : Nat :=
  if msgLen.toNat % 16 = 0 then 16 else msgLen.toNat % 16

def blockCount (msgLen : U16) : Nat := (msgLen.toNat + 15) / 16

/-- `mesh_crypto_aes_ccm_encrypt`. Before the loop `mic` holds what was left on
the stack. -/
def aesCcmEncrypt (msgLen : U16) (micSize : Nat) (memory : Memory) :
    CcmResult Memory :=
  if 0xff00 ≤ aadLen.toNat then
    { result := false, mic := stale, memory }
  else
    let blkCnt := blockCount msgLen
    let state := (List.range blkCnt).foldl
      (encryptBlock cipher buffers nonce blkCnt (lastBlock msgLen))
      { xn := chainStart cipher nonce aad aadLen msgLen micSize, mic := stale
        memory }
    { result := true, mic := state.mic
      memory := buffers.writeAll state.memory msgLen.toNat
        (state.mic.bytes.take micSize) }

/-- `mesh_crypto_aes_ccm_decrypt`. Without `out_mic` the tag is compared with
the one behind the message. -/
def aesCcmDecrypt (encMsgLen : U16) (outMic : Bool) (micSize : Nat)
    (memory : Memory) : CcmResult Memory :=
  let msgLen : U16 := encMsgLen - BitVec.ofNat 16 micSize
  if encMsgLen.toNat < 5 || 0xff00 ≤ aadLen.toNat then
    { result := false, mic := stale, memory }
  else
    let blkCnt := blockCount msgLen
    let state := (List.range blkCnt).foldl
      (decryptBlock cipher buffers nonce blkCnt (lastBlock msgLen))
      { xn := chainStart cipher nonce aad aadLen msgLen micSize, mic := stale
        memory }
    let sameMic := (List.range micSize).all fun i =>
      buffers.read state.memory (encMsgLen.toNat - micSize + i) =
        state.mic.get i
    let result := (micSize = 4 || micSize = 8) && (outMic || sameMic)
    { result, mic := state.mic, memory := state.memory }

end Functions

end Cipher

end Meshctl.Crypto
