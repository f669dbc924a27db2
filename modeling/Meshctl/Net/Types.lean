import Meshctl.Net.Protocol
import Meshctl.Node.NodeTable

/-! # Records of the network layer -/

namespace Meshctl.Net

/-! ## Keys -/

structure NetKeyParts where
  nid : Byte
  encKey : Key
  privacyKey : Key
  netKey : Key
  beaconKey : Key
  netId : U64

structure MeshNetKey where
  idx : U16
  phase : Byte
  current : NetKeyParts
  new : NetKeyParts

structure AppKeyParts where
  key : Key
  akfAid : Byte

structure MeshAppKey where
  idx : U16
  netIdx : U16
  current : AppKeyParts
  new : AppKeyParts

structure MeshVirtAddr where
  va16 : U16
  va32 : U32
  va128 : Key

/-! ## Messages -/

/-- A segmented message in progress, incoming or outgoing. A timer field tells
whether the timer is running. The data is open ended: twelve bytes for every
segment behind the first. -/
structure MeshSarMsg where
  ackTo : Bool
  msgTo : Bool
  ivIndex : U32
  seqAuth : U32
  ack : U32
  dst : U32
  src : U16
  netIdx : U16
  len : U16
  akfAid : Byte
  ttl : Byte
  segN : Byte
  activityCnt : Byte
  ctl : Bool
  segmented : Bool
  szmic : Bool
  proxy : Bool
  data : List Byte
  sized : data.length = 20 + 12 * segN.toNat
deriving DecidableEq

/-- A record fresh from `g_malloc0`. -/
def MeshSarMsg.zero (segN : Byte) : MeshSarMsg where
  ackTo := false
  msgTo := false
  ivIndex := 0
  seqAuth := 0
  ack := 0
  dst := 0
  src := 0
  netIdx := 0
  len := 0
  akfAid := 0
  ttl := 0
  segN := segN
  activityCnt := 0
  ctl := false
  segmented := false
  szmic := false
  proxy := false
  data := List.replicate (20 + 12 * segN.toNat) 0
  sized := List.length_replicate

/-- `memcpy` into the data of a record. -/
def MeshSarMsg.copyData (sar : MeshSarMsg) (offset : Nat)
    (source : List Byte) : MeshSarMsg :=
  { sar with
    data := Bytes.splice sar.data offset source
    sized := (Bytes.length_splice _ _ _).trans sar.sized }

/-- The mask of all segments of a message. A shift by a negative count, for
`segN` above 31, is taken modulo 32. -/
def fullAck (segN : Byte) : U32 :=
  (0xffffffff : U32) >>> ((31 - (segN.toNat : Int)) % 32).toNat

theorem getLsbD_fullAck {segN : Byte} (small : segN.toNat ≤ 31) (index : Nat) :
    (fullAck segN).getLsbD index = decide (index ≤ segN.toNat) := by
  have ones : (0xffffffff : U32) = BitVec.allOnes 32 := rfl
  have shift : ((31 - (segN.toNat : Int)) % 32).toNat = 31 - segN.toNat := by
    omega
  rw [fullAck, shift, ones, BitVec.getLsbD_ushiftRight, BitVec.getLsbD_allOnes]
  exact decide_eq_decide.mpr (by omega)

/-- The bit of a segment. -/
theorem getLsbD_one_shiftLeft (seg : Nat) {index : Nat} (inMask : index < 32) :
    ((1 : U32) <<< seg).getLsbD index = decide (index = seg) := by
  have one : (1 : U32) = 1#32 := rfl
  rw [one, BitVec.getLsbD_shiftLeft, BitVec.getLsbD_one, Bool.eq_iff_iff]
  simp only [inMask, decide_true, Bool.true_and, Bool.and_eq_true,
    Bool.not_eq_true', decide_eq_false_iff_not, decide_eq_true_eq]
  omega

/-- A packet in the transmit queue. Packets are told apart by the order in
which they were built. -/
structure MeshPkt where
  ref : Nat
  data : List Byte
  len : Byte

structure MeshDestination where
  cnt : U16
  dst : U16

end Meshctl.Net
