import Meshctl.Foundation.Execution
import Meshctl.Net.Send

/-! # Secure network beacons

A beacon tells the IV index of the network and whether an update of it is under
way. The machine at the end runs the network layer: beacons, sends,
acknowledgements, timers, write replies and sessions in any order.
-/

namespace Meshctl.Net

open Bytes Execution

variable (env : NetEnv)

/-! ## The proxy whitelist -/

def filterSetup : Byte := 0x00

def filterAdd : Byte := 0x01

def whitelistFilter : Byte := 0x00

def sendWhite (white : List Byte) (st : NetState) : NetState :=
  (netCtlMsgSend env 0 0 0 white (BitVec.ofNat 16 white.length) st).2

/-- Collect the destinations in messages of at most twelve bytes; the last one
is left over. -/
def whitefilterAdd : List MeshDestination → List Byte → NetState →
    List Byte × NetState
  | [], white, st => (white, st)
  | dest :: rest, white, st =>
      let white := if white.isEmpty then [filterAdd] else white
      let white := white ++ be16 dest.dst
      if 12 - 2 < white.length then
        whitefilterAdd rest [] (sendWhite env white st)
      else
        whitefilterAdd rest white st

def setupWhitelist (st : NetState) : NetState :=
  let st := sendWhite env [filterSetup, whitelistFilter] st
  let (white, st) := whitefilterAdd env st.dest [] st
  if white.isEmpty then st else sendWhite env white st

/-! ## Taking over the IV state -/

/-- Enforcement of the time windows of an IV update. Nothing is left of a beacon
that comes too soon. -/
def enforceWindows (first ivUpdate : Bool) (ivIndex : U32) (st : NetState) :
    Option NetState :=
  if ivUpdate && !st.ivUpdate then
    some { st with ivUpdState := ivUpdUpdating }
  else if first then
    some { st with
      ivUpdState := if ivUpdate then ivUpdUpdating else ivUpdNormal }
  else if ivUpdate && ivIndex ≠ st.ivIndex then
    none
  else
    some st

/-- Whether the sequence counter restarts: "Don't reset our seq_num unless we
start using new iv_index". -/
def restartsSeq (ivUpdate : Bool) (ivIndex : U32) (st : NetState) : Bool :=
  (st.ivIndex < ivIndex || ivUpdate != st.ivUpdate) &&
    !(ivUpdate && st.ivIndex + 1 = ivIndex)

def restartSeq (ivUpdate : Bool) (ivIndex : U32) (st : NetState) : NetState :=
  if restartsSeq ivUpdate ivIndex st then
    { st with
      seqNum := 0
      seqNumReserved := 100
      restartedAt := ivIndex - if ivUpdate then 1 else 0 }
  else
    st

def storeIvState (ivUpdate : Bool) (ivIndex : U32) (st : NetState) :
    NetState :=
  if st.seqNum = 0 || st.ivIndex ≠ ivIndex || st.ivUpdate ≠ ivUpdate then
    let reserved :=
      if st.seqNumReserved ≤ st.seqNum then st.seqNum + 100
      else st.seqNumReserved
    { st with
      seqNumReserved := reserved
      stored := { ivIndex, ivUpdate, sequenceNumber := reserved } }
  else
    st

def takeOver (ivUpdate : Bool) (ivIndex : U32) (st : NetState) : NetState :=
  let st := restartSeq ivUpdate ivIndex st
  let st := storeIvState ivUpdate ivIndex st
  { st with ivIndex, ivUpdate }

/-- The result is the callback that is told about an opened session. -/
def beaconUpdate (first ivUpdate : Bool) (ivIndex : U32) (st : NetState) :
    Option Nat × NetState :=
  match enforceWindows first ivUpdate ivIndex st with
  | none => (none, st)
  | some st =>
      let st := takeOver ivUpdate ivIndex st
      if first then
        (st.openCb, setupWhitelist env st)
      else
        (none, st)

/-! ## Processing a beacon -/

def beaconKeyRefresh (data : List Byte) : Bool := get data 1 &&& 0x01 = 0x01

def beaconIvUpdate (data : List Byte) : Bool := get data 1 &&& 0x02 = 0x02

def beaconNetId (data : List Byte) : U64 := getBe64 data 2

def beaconIvIndex (data : List Byte) : U32 := getBe32 data 10

def beaconCmacField (data : List Byte) : U64 := getBe64 data 14

/-- The copy of a network key that beacons are authenticated with. -/
def MeshNetKey.beaconPart (netKey : MeshNetKey) : NetKeyParts :=
  if netKey.phase ≠ 2 then netKey.current else netKey.new

/-- The checks that a beacon passes before it changes anything. -/
def acceptsBeacon (data : List Byte) (st : NetState) : Bool :=
  match st.findNetKeyById (beaconNetId data) with
  | none => false
  | some netKey =>
      let part := netKey.beaconPart
      if beaconKeyRefresh data ≠ (netKey.phase = 2 : Bool) then
        false
      else if part.netId ≠ beaconNetId data then
        false
      else if st.ivIndex + 42 < beaconIvIndex data ||
          beaconIvIndex data < st.ivIndex then
        false
      else
        match env.beaconCmac part.beaconKey part.netId (beaconIvIndex data)
          (netKey.phase = 2) (beaconIvUpdate data) with
        | none => false
        | some cmac => cmac = beaconCmacField data

structure BeaconResult where
  accepted : Bool
  opened : Option Nat
  nextState : NetState

/-- "Inhibit recognizing iv_update true-->false if we have outbound SAR messages
in flight". -/
def recognizedIvUpdate (data : List Byte) (st : NetState) : Bool :=
  beaconIvUpdate data || !st.msgOut.records.isEmpty && st.ivUpdate

def processBeacon (data : List Byte) (size : Byte) (st : NetState) :
    BeaconResult :=
  if size ≠ 22 then
    ⟨false, none, st⟩
  else
    let ivIndex := beaconIvIndex data
    let ivUpdate := recognizedIvUpdate data st
    if ivIndex = st.ivIndex && ivUpdate = st.ivUpdate &&
        st.ivUpdState ≠ ivUpdInit then
      ⟨true, none, st⟩
    else if !acceptsBeacon env data st then
      ⟨false, none, st⟩
    else if ivUpdate && ivUpdUpdating < st.ivUpdState then
      ⟨true, none, st⟩
    else
      let (opened, st) :=
        beaconUpdate env (st.ivUpdState = ivUpdInit) ivUpdate ivIndex st
      ⟨true, opened, st⟩

/-! ## The machine -/

inductive NetInput where
  | beacon (data : List Byte) (size : Byte)
  | accessSend (ttl : Byte) (src : U16) (dst : U32) (appIdx : U16)
      (buf : List Byte) (len : U16)
  | ctlSend (ttl : Byte) (src dst : U16) (buf : List Byte) (len : U16)
  | ack (src dst : U16) (obo : Bool) (seq0 : U16) (ackFlags : U32)
  | ackTimeout (dst : U32)
  | msgTimeout (dst : U32)
  | writeReply (index : Nat) (success : Bool)
  | sessionOpen (dataIn : Nat) (provisioner : Bool) (cb : Option Nat)
  | sessionClose (dataIn : Nat)

/-- What a function returned, and the callback it called. -/
structure NetObservation where
  result : Bool
  opened : Option Nat

def netStep (st : NetState) : NetInput → StepResult NetState NetObservation
  | .beacon data size =>
      let result := processBeacon env data size st
      ⟨result.nextState, ⟨result.accepted, result.opened⟩⟩
  | .accessSend ttl src dst appIdx buf len =>
      let (result, st) := netAccessLayerSend env ttl src dst appIdx buf len st
      ⟨st, ⟨result, none⟩⟩
  | .ctlSend ttl src dst buf len =>
      let (result, st) := netCtlMsgSend env ttl src dst buf len st
      ⟨st, ⟨result, none⟩⟩
  | .ack src dst obo seq0 ackFlags =>
      let (result, st) := ackRxed env src dst obo seq0 ackFlags st
      ⟨st, ⟨result, none⟩⟩
  | .ackTimeout dst => ⟨sarOutAckTimeout env dst st, ⟨true, none⟩⟩
  | .msgTimeout dst => ⟨sarOutMsgTimeout dst st, ⟨false, none⟩⟩
  | .writeReply index success =>
      ⟨acquireWriteReply env index success st, ⟨success, none⟩⟩
  | .sessionOpen dataIn provisioner cb =>
      let (result, st) := netSessionOpen dataIn provisioner cb st
      ⟨st, ⟨result, none⟩⟩
  | .sessionClose dataIn => ⟨netSessionClose dataIn st, ⟨true, none⟩⟩

def netModel : Model NetState NetInput NetObservation where
  step := netStep env

/-! ## A plain node -/

/-- An environment that encrypts nothing and whose writes complete at once. -/
def plainEnv : NetEnv where
  packetEncode data _ _ _ _ := data
  applicationEncrypt _ _ _ _ _ _ _ msg len :=
    slice msg 0 len.toNat ++ [0, 0, 0, 0]
  beaconCmac _ _ _ _ _ := some 0
  gatt _ := .sent

def onlyNetKey : MeshNetKey where
  idx := 0
  phase := 0
  current :=
    { nid := 1, encKey := 0, privacyKey := 0, netKey := 0, beaconKey := 0
      netId := 0 }
  new :=
    { nid := 0xff, encKey := 0, privacyKey := 0, netKey := 0, beaconKey := 0
      netId := 0 }

/-- The node at address 1 in an open session, at IV index 5. -/
def openNode : NetState :=
  { NetState.zero with
    ivIndex := 5
    ivUpdState := ivUpdNormal
    netKeys := [onlyNetKey]
    nodes :=
      { nodes := KeyedList.empty.append
          { ref := 0, ivIndex := 0, seqNumber := 0, primaryNetIdx := 0
            primary := 1, devKey := 0, numEle := 1, provisioner := true
            elements := [] }
        localNode := some 0 } }

end Meshctl.Net
