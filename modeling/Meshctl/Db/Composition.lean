import Meshctl.Db.Store

/-! # Composition data

A Composition Data Status says which models a node has. It is put into the node
and into the database by two functions that each go through the payload on their
own, with their own count of what is left of it. Bytes behind the end of the
payload are whatever the memory holds there.
-/

namespace Meshctl.Db

open Net

/-! ## Going through a payload -/

/-- `get_le16` -/
def getLe16 (data : Nat → Byte) (offset : Nat) : U16 :=
  (data offset).setWidth 16 ||| (data (offset + 1)).setWidth 16 <<< 8

/-- A model of the Bluetooth SIG has the upper half of its id set. -/
def sigModelId (data : Nat → Byte) (offset : Nat) : U32 :=
  (getLe16 data offset).setWidth 32 ||| 0xffff0000

def vendorModelId (data : Nat → Byte) (offset : Nat) : U32 :=
  (getLe16 data (offset + 2)).setWidth 32 |||
    (getLe16 data offset).setWidth 32 <<< 16

/-- Where a function is in the payload, and how much it takes to be left. -/
structure Cursor where
  offset : Nat
  len : U16

def Cursor.skip (cursor : Cursor) (bytes : Nat) : Cursor where
  offset := cursor.offset + bytes
  len := cursor.len - BitVec.ofNat 16 bytes

/-- The loops `while (len >= size && count--)` over models of one size. -/
def walkModels {State : Type} (size : Nat) (take : State → Nat → Option State) :
    Nat → State → Cursor → Option (State × Cursor)
  | 0, state, cursor => some (state, cursor)
  | count + 1, state, cursor =>
      if cursor.len.toNat < size then some (state, cursor)
      else do
        let state ← take state cursor.offset
        walkModels size take count state (cursor.skip size)

/-- Behind the location of an element, which has been read: the numbers of models,
and the models. What is counted for the location and the numbers is up to the
caller. -/
def walkElement {State : Type} (counted : Nat) (data : Nat → Byte)
    (takeSig takeVendor : State → Nat → Option State) (state : State)
    (cursor : Cursor) : Option (State × Cursor) := do
  let m := data (cursor.offset + 2)
  let v := data (cursor.offset + 3)
  let cursor :=
    { offset := cursor.offset + 4, len := cursor.len - BitVec.ofNat 16 counted }
  let (state, cursor) ← walkModels 2 takeSig m.toNat state cursor
  walkModels 4 takeVendor v.toNat state cursor

/-- Behind the features, with eleven bytes of the payload read. -/
def elementsStart (len : U16) : Cursor where
  offset := 11
  len := len - 11

/-! ## Into the node -/

def featureRelay : U16 := 1

def featureProxy : U16 := 2

def featureFriend : U16 := 4

def featureLpn : U16 := 8

/-- The part of the payload in front of the elements. -/
def parseCompositionHeader (data : Nat → Byte) : MeshNodeComposition :=
  let features := getLe16 data 9
  { cid := getLe16 data 1
    pid := getLe16 data 3
    vid := getLe16 data 5
    crpl := getLe16 data 7
    relay := features &&& featureRelay ≠ 0
    proxy := features &&& featureProxy ≠ 0
    friend := features &&& featureFriend ≠ 0
    lpn := features &&& featureLpn ≠ 0 }

/-- Two bytes are counted for the four in front of an element's models. -/
def parseElement (data : Nat → Byte) (state : MeshNode × Cursor)
    (index : Nat) : Option (MeshNode × Cursor) :=
  let (node, cursor) := state
  let element :=
    { index := BitVec.ofNat 8 index
      loc := getLe16 data cursor.offset
      models := [] }
  walkElement 2 data
    (fun node offset => node.setModel element.index (sigModelId data offset))
    (fun node offset => node.setModel element.index (vendorModelId data offset))
    { node with elements := node.elements ++ [element] } cursor

def nodeParseComposition (node : MeshNode) (data : Nat → Byte) (len : U16) :
    Option MeshNode := do
  let (node, _) ← (List.range node.numEle.toNat).foldlM (parseElement data)
    (node, elementsStart len)
  some { node with comp := some (parseCompositionHeader data) }

/-! ## Into the database -/

def featureRecord (comp : MeshNodeComposition) : Json :=
  .object [("relay", .boolean comp.relay), ("proxy", .boolean comp.proxy),
    ("friend", .boolean comp.friend), ("lpn", .boolean comp.lpn)]

def compositionRecord (comp : MeshNodeComposition) (elements : List Json) :
    Json :=
  .object [("cid", Json.hex16 comp.cid.toNat), ("pid", Json.hex16 comp.pid.toNat),
    ("vid", Json.hex16 comp.vid.toNat), ("crpl", Json.hex16 comp.crpl.toNat),
    ("features", featureRecord comp), ("elements", .array elements)]

def sigModelEntry (data : Nat → Byte) (offset : Nat) : Json :=
  Json.hex16 (getLe16 data offset).toNat

def vendorModelEntry (data : Nat → Byte) (offset : Nat) : Json :=
  Json.hex32 (vendorModelId data offset).toNat

def elementRecord (index : Nat) (loc : U16) (models : List Json) : Json :=
  .object [("elementIndex", .int index), ("location", Json.hex16 loc.toNat),
    ("models", .array models)]

/-- Here all four bytes in front of the models are counted. -/
def addElementRecord (data : Nat → Byte) (state : List Json × Cursor)
    (index : Nat) : Option (List Json × Cursor) := do
  let (elements, cursor) := state
  let (models, next) ← walkElement 4 data
    (fun models offset => some (models ++ [sigModelEntry data offset]))
    (fun models offset => some (models ++ [vendorModelEntry data offset]))
    [] cursor
  let element := elementRecord index (getLe16 data cursor.offset) models
  some (elements ++ [element], next)

def provDbAddNodeComposition (file : Json) (node : MeshNode)
    (data : Nat → Byte) (len : U16) : Option Json := do
  let comp ← node.comp
  let index ← findNodeByPrimary file node.primary
  let (elements, _) ← (List.range node.numEle.toNat).foldlM
    (addElementRecord data) ([], elementsStart len)
  some (changeRecord file index fun record =>
    record.add "composition" (compositionRecord comp elements))

end Meshctl.Db
