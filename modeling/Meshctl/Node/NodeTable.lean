import Meshctl.Foundation.KeyedList
import Meshctl.Net.Protocol

/-! # The table of known nodes

The nodes of a mesh network as the client keeps them. Nodes are referred to by
pointer; a pointer is a number that no two entries of the table share.
-/

namespace Meshctl.Node

open Net

/-! ## Nodes -/

abbrev NodeRef := Nat

/-- A receive function together with the user data it was registered with. -/
abbrev RecvRef := Nat

structure MeshModel where
  id : U32
  bindings : List U16
  recv : Option RecvRef

structure MeshElement where
  index : Byte
  models : List MeshModel

structure MeshNode where
  ref : NodeRef
  ivIndex : U32
  seqNumber : U32
  primaryNetIdx : U16
  primary : U16
  devKey : Key
  numEle : Byte
  provisioner : Bool
  elements : List MeshElement

structure NodeTable where
  nodes : KeyedList MeshNode.ref
  localNode : Option NodeRef

def matchNodeUnicast (node : MeshNode) (dst : U16) : Bool :=
  node.primary ≤ dst &&
    (dst.toNat : Int) ≤ (node.primary.toNat : Int) + node.numEle.toNat - 1

namespace NodeTable

def nodeFindByAddr (table : NodeTable) (addr : U16) : Option MeshNode :=
  if isUnicast addr then
    table.nodes.records.find? (matchNodeUnicast · addr)
  else
    none

def localRecord (table : NodeTable) : Option MeshNode :=
  table.localNode.bind table.nodes.find

/-- A pointer that no node of the table has. -/
def freshRef (table : NodeTable) : NodeRef :=
  (table.nodes.records.map MeshNode.ref).sum + 1

/-- Overwrite the replay pair of one node. -/
def setIvSeq (table : NodeTable) (ref : NodeRef) (ivIndex seqNumber : U32) :
    NodeTable :=
  { table with
    nodes := table.nodes.update ref
      (fun node => { node with ivIndex, seqNumber }) (fun _ isRef => isRef) }

theorem nodeFindByAddr_mem {table : NodeTable} {addr : U16} {node : MeshNode}
    (found : table.nodeFindByAddr addr = some node) :
    node ∈ table.nodes.records := by
  rw [nodeFindByAddr] at found
  split at found
  · exact List.mem_of_find?_eq_some found
  · cases found

end NodeTable

end Meshctl.Node
