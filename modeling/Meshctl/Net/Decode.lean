import Meshctl.Crypto.PacketDecoding
import Meshctl.Net.Types

/-! # Finding the network key of a received packet -/

namespace Meshctl.Net

open Bytes Crypto

/-- The IV index of a received packet, from its first octet: the local one or
the one before. -/
def rxIvIndex (ivIndex : U32) (msg : List Byte) : Option U32 :=
  let ivi : Bool := get msg 0 &&& 0x80 ≠ 0
  if decide (ivIndex &&& 0x01 ≠ 0) ≠ ivi then
    if ivIndex ≠ 0 then some (ivIndex - 1) else none
  else
    some ivIndex

/-- A packet of a received message, as it is decoded. -/
structure RxPacket where
  proxy : Bool
  ivIndex : U32
  packet : List Byte
  size : Byte
deriving DecidableEq

/-- The packet behind the type of a message, if it is one that is decoded. The
message may be followed by anything. -/
def rxPacket (ivIndex : U32) (msg : List Byte) (len : Byte) : Option RxPacket :=
  let type := get msg 0
  if len.toNat < 10 ∨ type = proxyMeshBeacon ∨ proxyConfigPdu < type then
    none
  else
    (rxIvIndex ivIndex (msg.drop 1)).map fun ivIndex =>
      { proxy := type = proxyConfigPdu, ivIndex, packet := msg.drop 1
        size := len - 1 }

/-- The size of `tmp` in `try_decode`. -/
def tmpSize : Nat := 29

/-- What a call of `mesh_crypto_packet_decode` is made with, but for its
arguments: the cipher, and what is left on the stack where `mic` and `tmp` are
put. The stack goes on behind `tmp`. -/
structure DecodeEnv where
  aes : Key → AesBlock → AesBlock
  stale : AesBlock
  tmp : Buffer 256

structure DecodeParams where
  netKey : Option MeshNetKey
  packet : List Byte
  ivIndex : U32
  size : Byte
  proxy : Bool
  /-- The indices of `tmp` that were written, and the keys that were tried. -/
  writes : List Nat
  tried : List NetKeyParts

/-- The parameters of a packet before any key is tried. -/
def DecodeParams.untried (rx : RxPacket) : DecodeParams where
  netKey := none
  packet := rx.packet
  ivIndex := rx.ivIndex
  size := rx.size
  proxy := rx.proxy
  writes := []
  tried := []

section Decode

variable (env : DecodeEnv)

namespace DecodeParams

variable (decode : DecodeParams)

def nid : Byte := get decode.packet 0 &&& 0x7f

/-- Decode with one copy of a key: whether it succeeds, and `tmp`. -/
def attempt (parts : NetKeyParts) : Bool × OutBuffer :=
  packetDecode env.aes env.stale decode.packet decode.size decode.proxy
    ⟨env.tmp.bytes, []⟩ decode.ivIndex parts.encKey parts.privacyKey

/-- Try one copy of a key, unless the packet is decoded or the copy has another
identifier. A decoded packet replaces the received one. -/
def tryPart (netKey : MeshNetKey) (parts : NetKeyParts) : DecodeParams :=
  if decode.netKey.isNone ∧ parts.nid = decode.nid then
    let answer := decode.attempt env parts
    let tried :=
      { decode with
        writes := decode.writes ++ answer.2.writes
        tried := decode.tried ++ [parts] }
    if answer.1 then
      { tried with
        netKey := some netKey
        packet := splice decode.packet 0
          (slice answer.2.bytes 0 decode.size.toNat) }
    else
      tried
  else
    decode

end DecodeParams

def tryDecode (decode : DecodeParams) (netKey : MeshNetKey) : DecodeParams :=
  (decode.tryPart env netKey netKey.current).tryPart env netKey netKey.new

def netPacketDecode (netKeys : List MeshNetKey) (rx : RxPacket) :
    DecodeParams :=
  netKeys.foldl (tryDecode env) (.untried rx)

end Decode

/-! ## Which keys are tried -/

/-- Both copies of every key, in the order they are looked at. -/
def keyCopies (netKeys : List MeshNetKey) : List (MeshNetKey × NetKeyParts) :=
  netKeys.flatMap fun netKey => [(netKey, netKey.current), (netKey, netKey.new)]

/-- The copies with the identifier of the packet, up to the first one that
decodes it. -/
def triedParts (decodes : NetKeyParts → Bool) (nid : Byte) :
    List (MeshNetKey × NetKeyParts) → List NetKeyParts
  | [] => []
  | (_, parts) :: rest =>
      if parts.nid = nid then
        if decodes parts then [parts]
        else parts :: triedParts decodes nid rest
      else
        triedParts decodes nid rest

section Tried

variable {env : DecodeEnv}

/-- The outcome of a search through some copies of keys. -/
structure Searched (env : DecodeEnv) (decode result : DecodeParams)
    (copies : List (MeshNetKey × NetKeyParts)) (tries : List NetKeyParts) :
    Prop where
  tried : result.tried = decode.tried ++ tries
  writes : result.writes = decode.writes ++
    tries.flatMap fun parts => (decode.attempt env parts).2.writes
  found : result.netKey = none ∨ ∃ copy ∈ copies,
    copy.2 ∈ tries ∧ (decode.attempt env copy.2).1 = true ∧
      result.netKey = some copy.1 ∧
      result.packet = splice decode.packet 0
        (slice (decode.attempt env copy.2).2.bytes 0 decode.size.toNat)

/-- Nothing is tried once the packet is decoded. -/
theorem foldl_tryPart_decoded {decode : DecodeParams}
    (decoded : decode.netKey ≠ none)
    (copies : List (MeshNetKey × NetKeyParts)) :
    copies.foldl (fun decode copy => decode.tryPart env copy.1 copy.2) decode =
      decode := by
  induction copies with
  | nil => rfl
  | cons copy rest induction =>
      have skipped : decode.tryPart env copy.1 copy.2 = decode := by
        apply if_neg
        rintro ⟨isNone, _⟩
        exact decoded (Option.isNone_iff_eq_none.mp isNone)
      rw [List.foldl_cons, skipped, induction]

theorem tryPart_decodes {decode : DecodeParams} {netKey : MeshNetKey}
    {parts : NetKeyParts}
    (tries : decode.netKey.isNone ∧ parts.nid = decode.nid)
    (decodes : (decode.attempt env parts).1 = true) :
    decode.tryPart env netKey parts =
      { decode with
        writes := decode.writes ++ (decode.attempt env parts).2.writes
        tried := decode.tried ++ [parts]
        netKey := some netKey
        packet := splice decode.packet 0
          (slice (decode.attempt env parts).2.bytes 0 decode.size.toNat) } := by
  rw [DecodeParams.tryPart, if_pos tries]
  exact if_pos decodes

theorem tryPart_fails {decode : DecodeParams} {netKey : MeshNetKey}
    {parts : NetKeyParts}
    (tries : decode.netKey.isNone ∧ parts.nid = decode.nid)
    (fails : ¬(decode.attempt env parts).1 = true) :
    decode.tryPart env netKey parts =
      { decode with
        writes := decode.writes ++ (decode.attempt env parts).2.writes
        tried := decode.tried ++ [parts] } := by
  rw [DecodeParams.tryPart, if_pos tries]
  exact if_neg fails

theorem foldl_tryPart {decode : DecodeParams} (undecoded : decode.netKey = none)
    (copies : List (MeshNetKey × NetKeyParts)) :
    Searched env decode
      (copies.foldl (fun decode copy => decode.tryPart env copy.1 copy.2) decode)
      copies
      (triedParts (fun parts => (decode.attempt env parts).1) decode.nid
        copies) := by
  induction copies generalizing decode with
  | nil => exact ⟨(List.append_nil _).symm, (List.append_nil _).symm, Or.inl undecoded⟩
  | cons copy rest induction =>
      rcases copy with ⟨netKey, parts⟩
      rw [List.foldl_cons, triedParts]
      by_cases isNid : parts.nid = decode.nid
      · have tries : decode.netKey.isNone ∧ parts.nid = decode.nid :=
          ⟨Option.isNone_iff_eq_none.mpr undecoded, isNid⟩
        rw [if_pos isNid]
        by_cases decodes : (decode.attempt env parts).1 = true
        · have tried := @tryPart_decodes env decode netKey parts tries decodes
          rw [if_pos decodes, foldl_tryPart_decoded (by rw [tried]; simp), tried]
          refine ⟨rfl, ?_, Or.inr ⟨(netKey, parts), List.mem_cons_self,
            List.mem_cons_self, decodes, rfl, rfl⟩⟩
          rw [List.flatMap_cons, List.flatMap_nil, List.append_nil]
        · have tried := @tryPart_fails env decode netKey parts tries decodes
          have later := @induction (decode.tryPart env netKey parts)
            (by rw [tried]; exact undecoded)
          rw [tried] at later ⊢
          rw [if_neg decodes]
          refine ⟨?_, ?_, ?_⟩
          · exact later.tried.trans (List.append_assoc _ _ _)
          · exact later.writes.trans (List.append_assoc _ _ _)
          · rcases later.found with none | ⟨copy, member, isTried, found⟩
            · exact Or.inl none
            · exact Or.inr ⟨copy, List.mem_cons_of_mem _ member,
                List.mem_cons_of_mem _ isTried, found⟩
      · have skipped : decode.tryPart env netKey parts = decode :=
          if_neg fun tries => isNid tries.2
        have later := induction undecoded
        rw [skipped, if_neg isNid]
        refine ⟨later.tried, later.writes, ?_⟩
        rcases later.found with none | ⟨copy, member, found⟩
        · exact Or.inl none
        · exact Or.inr ⟨copy, List.mem_cons_of_mem _ member, found⟩

/-- What `mesh_crypto_packet_decode` answers for a copy of a key. -/
def decodeAttempt (env : DecodeEnv) (rx : RxPacket) :
    NetKeyParts → Bool × OutBuffer :=
  (DecodeParams.untried rx).attempt env

/-- The copies of keys that a packet is tried with. -/
def packetTries (env : DecodeEnv) (netKeys : List MeshNetKey) (rx : RxPacket) :
    List NetKeyParts :=
  triedParts (fun parts => (decodeAttempt env rx parts).1)
    (get rx.packet 0 &&& 0x7f) (keyCopies netKeys)

theorem netPacketDecode_searched (netKeys : List MeshNetKey) (rx : RxPacket) :
    Searched env (.untried rx) (netPacketDecode env netKeys rx)
      (keyCopies netKeys) (packetTries env netKeys rx) := by
  have isFold : netPacketDecode env netKeys rx =
      (keyCopies netKeys).foldl
        (fun decode copy => decode.tryPart env copy.1 copy.2) (.untried rx) := by
    rw [keyCopies, List.foldl_flatMap]
    rfl
  rw [isFold]
  exact foldl_tryPart rfl (keyCopies netKeys)

end Tried

end Meshctl.Net
