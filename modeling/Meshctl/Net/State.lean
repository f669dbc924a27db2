import Meshctl.Foundation.KeyedList
import Meshctl.Net.Segment

/-! # The state of the network layer

The static variables of `net.c`, the node table, and a history of the packets
that were built. The history is not read by any modelled function.
-/

namespace Meshctl.Net

/-- Segmented messages that wait for acknowledgements: at most one for a
destination, which stands for the record. -/
abbrev SarQueue := KeyedList MeshSarMsg.dst

/-- Segmented messages that are being received: at most one from a source. -/
abbrev SarInbox := KeyedList MeshSarMsg.src

/-- What the local database keeps across restarts. -/
structure StoredLocal where
  ivIndex : U32
  ivUpdate : Bool
  sequenceNumber : U32

/-- A packet built by `send_seg`: the record and segment it was cut from, the
sequence number it was given and its plaintext. `restartedAt` is the transmit
IV index that was in force when the sequence counter last restarted. -/
structure BuiltPkt where
  sar : MeshSarMsg
  seg : Byte
  nid : Byte
  seq : U32
  restartedAt : U32

namespace BuiltPkt

def plain (pkt : BuiltPkt) : List Byte :=
  (segmentPdu pkt.sar pkt.seg pkt.nid pkt.seq).1

/-- The length of the plaintext and the network MIC. -/
def len (pkt : BuiltPkt) : Byte :=
  (segmentPdu pkt.sar pkt.seg pkt.nid pkt.seq).2 + micSize pkt.sar.ctl

end BuiltPkt

structure NetState where
  ivIndex : U32
  seqNum : U32
  seqNumReserved : U32
  ivUpdState : Byte
  defaultTtl : Byte
  ivUpdate : Bool
  provisioner : Bool
  blacklist : Bool
  proxyIn : Option Nat
  dest : List MeshDestination
  sarIn : SarInbox
  msgOut : SarQueue
  pktOut : List MeshPkt
  openCb : Option Nat
  netKeys : List MeshNetKey
  appKeys : List MeshAppKey
  virtAddrs : List MeshVirtAddr
  nodes : Node.NodeTable
  stored : StoredLocal
  /-- Packets built, oldest first. -/
  built : List BuiltPkt
  /-- Packets passed to `mesh_gatt_write`, oldest first. -/
  written : List Nat
  /-- Packets whose write waits for the reply to `AcquireWrite`. -/
  acquiring : List Nat
  restartedAt : U32

namespace NetState

/-- The state before anything is loaded or sent. -/
def zero : NetState where
  ivIndex := 0
  seqNum := 0
  seqNumReserved := 0
  ivUpdState := 0
  defaultTtl := 0
  ivUpdate := false
  provisioner := false
  blacklist := false
  proxyIn := none
  dest := []
  sarIn := KeyedList.empty
  msgOut := KeyedList.empty
  pktOut := []
  openCb := none
  netKeys := []
  appKeys := []
  virtAddrs := []
  nodes := { nodes := KeyedList.empty, localNode := none }
  stored := { ivIndex := 0, ivUpdate := false, sequenceNumber := 0 }
  built := []
  written := []
  acquiring := []
  restartedAt := 0

variable (st : NetState)

/-- The IV index that new messages are sent with. -/
def transmitIv : U32 := st.ivIndex - if st.ivUpdate then 1 else 0

/-! ## Looking things up -/

def findNetKeyByIdx (netIdx : U16) : Option MeshNetKey :=
  st.netKeys.find? (·.idx = netIdx)

def findAppKeyByIdx (appIdx : U16) : Option MeshAppKey :=
  st.appKeys.find? (·.idx = appIdx)

def findVirtByDst (dst : U32) : Option MeshVirtAddr :=
  st.virtAddrs.find? fun virt =>
    dst.toNat < 0x10000 && dst = virt.va16.setWidth 32 || dst = virt.va32

def matchNetId (netId : U64) (netKey : MeshNetKey) : Bool :=
  netKey.current.nid ≠ 0xff && netKey.current.netId = netId ||
    netKey.new.nid ≠ 0xff && netKey.new.netId = netId

def findNetKeyById (netId : U64) : Option MeshNetKey :=
  st.netKeys.find? (matchNetId netId)

def findSarOutByDst (dst : U16) : Option MeshSarMsg :=
  st.msgOut.find (dst.setWidth 32)

/-! ## Outgoing messages -/

def flushSarOut (dst : U32) : NetState :=
  { st with msgOut := st.msgOut.remove dst }

def setSarOut (sar : MeshSarMsg) : NetState :=
  { st with msgOut := st.msgOut.set sar }

end NetState

end Meshctl.Net
