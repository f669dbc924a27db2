import Meshctl.Foundation.Bytes

/-! # Constants of the mesh network protocol

Address ranges, message sizes and PDU types, named as in `mesh-net.h`.
-/

namespace Meshctl.Net

/-! ## Addresses -/

section Addresses

variable {width : Nat} (address : BitVec width)

def unassignedAddress : U16 := 0x0000

def isUnassigned : Bool := address.toNat = 0x0000

def isUnicast : Bool := 0x0000 < address.toNat && address.toNat < 0x8000

def isVirtual : Bool := 0x8000 ≤ address.toNat && address.toNat ≤ 0xbfff

def isGroup : Bool := 0xc000 ≤ address.toNat && address.toNat ≤ 0xff00

def isAllNodes : Bool := address.toNat = 0xffff

end Addresses

/-! ## Message sizes -/

def maxUnsegLen : Nat := 15

def maxSegLen : Nat := 12

/-- The index of the last segment of a message of `len` bytes. -/
def segMax (len : Nat) : Nat :=
  if len ≤ maxUnsegLen then 0 else (len - 1) / maxSegLen

/-! ## PDU types and opcodes -/

def proxyNetworkPdu : Byte := 0x00

def proxyMeshBeacon : Byte := 0x01

def proxyConfigPdu : Byte := 0x02

def netOpSegAcknowledge : Byte := 0x00

def netOpHeartbeat : Byte := 0x0a

def appIdxDev : U16 := 0x7fff

end Meshctl.Net
