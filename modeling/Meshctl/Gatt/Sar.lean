import Meshctl.Foundation.Buffer
import Meshctl.Foundation.Execution

/-! # Segmentation on the GATT bearer

A message is written to the pipe in fragments of a header byte and a body. The
reassembler keeps the message in progress in static variables.
-/

namespace Meshctl.Gatt

open Bytes Execution

/-! ## Headers -/

inductive SarKind where
  | complete
  | first
  | continuation
  | last
deriving DecidableEq

def SarKind.bits : SarKind → Byte
  | .complete => 0x00
  | .first => 0x40
  | .continuation => 0x80
  | .last => 0xc0

def sarKind (gattHdr : Byte) : SarKind :=
  if gattHdr &&& 0xc0 = SarKind.first.bits then
    .first
  else if gattHdr &&& 0xc0 = SarKind.continuation.bits then
    .continuation
  else if gattHdr &&& 0xc0 = SarKind.last.bits then
    .last
  else
    .complete

def sarType (gattHdr : Byte) : Byte := gattHdr &&& 0x3f

theorem sarKind_or_bits (type : Byte) (kind : SarKind) :
    sarKind (sarType type ||| kind.bits) = kind := by
  revert type
  cases kind <;> decide +kernel

theorem sarType_or_bits (type : Byte) (kind : SarKind) :
    sarType (sarType type ||| kind.bits) = sarType type := by
  revert type
  cases kind <;> decide +kernel

theorem sarType_sarType (gattHdr : Byte) :
    sarType (sarType gattHdr) = sarType gattHdr := by
  revert gattHdr
  decide +kernel

/-- No header has the invalid type. -/
theorem sarType_valid (gattHdr : Byte) : sarType gattHdr ≠ 0xff := by
  revert gattHdr
  decide +kernel

/-! ## Receiving -/

def maxGattSize : Nat := 66

def gattTypeInvalid : Byte := 0xff

/-- What `mesh_gatt_sar` is called with: a pointer and the size of the value. -/
structure Fragment where
  data : List Byte
  size : U16

namespace Fragment

variable (fragment : Fragment)

def kind : SarKind := sarKind (get fragment.data 0)

def type : Byte := sarType (get fragment.data 0)

def body : List Byte := slice fragment.data 1 (fragment.size.toNat - 1)

end Fragment

/-- The static variables of `mesh_gatt_sar`. -/
structure GattSar where
  gattSize : Byte
  gattPkt : Buffer 67

namespace GattSar

/-- At program start. -/
def zero : GattSar where
  gattSize := 0
  gattPkt := .zero

variable (sar : GattSar)

def invalidate : GattSar :=
  { sar with gattPkt := sar.gattPkt.copy 0 [gattTypeInvalid] }

/-- A new message begins with its type. -/
def start (type : Byte) : GattSar where
  gattSize := 1
  gattPkt := sar.gattPkt.copy 0 [type]

/-- The fragment belongs to the message in progress and fits. -/
def Accepts (type : Byte) (size : Nat) : Prop :=
  sar.gattPkt.get 0 = type ∧ sar.gattSize.toNat + size ≤ maxGattSize

instance (type : Byte) (size : Nat) : Decidable (sar.Accepts type size) :=
  inferInstanceAs (Decidable (_ ∧ _))

def append (body : List Byte) : GattSar where
  gattSize := sar.gattSize + BitVec.ofNat 8 body.length
  gattPkt := sar.gattPkt.copy sar.gattSize.toNat body

/-- The message that was received. -/
def packet (length : U16) : List Byte :=
  slice sar.gattPkt.bytes 0 length.toNat

end GattSar

/-- The common tail of two cases: the new size, if the fragment is accepted. -/
def sarTail (fragment : Fragment) (sar : GattSar) : Option Byte × GattSar :=
  if sar.Accepts fragment.type fragment.body.length then
    let sar := sar.append fragment.body
    (some sar.gattSize, sar)
  else
    (none, sar.invalidate)

/-- A complete or last fragment ends a message; its length is returned. -/
def sarEnd (fragment : Fragment) (sar : GattSar) : StepResult GattSar U16 :=
  let (gattSize, sar) := sarTail fragment sar
  ⟨sar, (gattSize.getD 0).setWidth 16⟩

def meshGattSar (sar : GattSar) (fragment : Fragment) :
    StepResult GattSar U16 :=
  if fragment.size.toNat < 1 then
    ⟨sar.invalidate, 0⟩
  else
    match fragment.kind with
    | .first => ⟨(sarTail fragment (sar.start fragment.type)).2, 0⟩
    | .continuation => ⟨(sarTail fragment sar).2, 0⟩
    | .complete => sarEnd fragment (sar.start fragment.type)
    | .last => sarEnd fragment sar

def sarModel : Model GattSar Fragment U16 where
  step := meshGattSar

/-! ## Sending -/

def gattMtu : U16 := 23

/-- The bytes of a fragment behind its header. It is kept in a byte. -/
def pipeMaxLen (writeMtu : U16) : Byte :=
  ((if writeMtu ≠ 0 then writeMtu else gattMtu) - 3 - 1).setWidth 8

/-- The header and body of the next fragment, and how much is left to send. -/
structure PipeState where
  sar : Byte
  base : Nat
  len : Nat
  gattLen : Byte

section Pipe

variable (gattData : List Byte) (maxLen : Byte)

/-- Cut off a fragment from `base` on, which depends on whether there is more to
send than fits. -/
def pipeCut (type : Byte) (more done : SarKind) (base : Nat) (gattLen : Byte) :
    PipeState :=
  if maxLen < gattLen then
    { sar := type ||| more.bits, base, len := maxLen.toNat, gattLen }
  else
    { sar := type ||| done.bits, base, len := gattLen.toNat, gattLen }

/-- The first fragment. A complete one has no bits in its header. -/
def pipeStart (gattLen : Byte) : PipeState :=
  pipeCut maxLen (sarType (get gattData 0)) .first .complete 1 (gattLen - 1)

/-- After a fragment was sent; nothing after the last one. -/
def pipeNext (pipe : PipeState) : Option PipeState :=
  if sarKind pipe.sar = .first ∨ sarKind pipe.sar = .continuation then
    some (pipeCut maxLen (sarType pipe.sar) .continuation .last
      (pipe.base + maxLen.toNat) (pipe.gattLen - maxLen))
  else
    none

def PipeState.fragment (pipe : PipeState) : Fragment where
  data := pipe.sar :: slice gattData pipe.base pipe.len
  size := BitVec.ofNat 16 (pipe.len + 1)

/-- The fragments that were sent, and whether the completion handler was
called. -/
structure PipeResult where
  fragments : List Fragment
  completed : Bool

/-- The loop, as long as the fuel lasts; `io` tells which calls of `io_send`
succeed. A failed one ends the write without a completion. -/
def pipeLoop (io : Nat → Bool) : Nat → Nat → PipeState → PipeResult
  | 0, _, _ => ⟨[], false⟩
  | fuel + 1, round, pipe =>
      if io round then
        match pipeNext maxLen pipe with
        | none => ⟨[pipe.fragment gattData], true⟩
        | some next =>
            let rest := pipeLoop io fuel (round + 1) next
            ⟨pipe.fragment gattData :: rest.fragments, rest.completed⟩
      else
        ⟨[], false⟩

/-- `pipe_write`. What is left to send fits a byte. -/
def pipeWrite (io : Nat → Bool) (gattLen : Byte) : PipeResult :=
  pipeLoop gattData maxLen io 256 0 (pipeStart gattData maxLen gattLen)

end Pipe

end Meshctl.Gatt
