import Meshctl.Db.Load

/-! # Writing the database

The functions of `prov-db.c` that change a stored record. Each reads the file,
changes it and writes it back; `none` is a call that writes nothing.
-/

namespace Meshctl.Db

open Text Net

/-! ## Finding a record -/

/-- The address in front of a record's elements. -/
def recordPrimary (record : Json) : Option U16 := do
  let config ← record.get "configuration"
  let elements ← config.get "elements"
  let element ← elements.getIdx 0
  readHex16 (element.get "unicastAddress")

/-- The search ends at a record without an address. -/
def findRecord (primary : U16) : List Json → Option Nat
  | [] => none
  | record :: records =>
      match recordPrimary record with
      | none => none
      | some addr =>
          if addr = primary then some 0
          else (findRecord primary records).map (· + 1)

/-- The records of the node list. -/
def nodeRecords (main : Json) : Option (List Json) :=
  (main.get "nodes").bind Json.items

def findNodeByPrimary (main : Json) (primary : U16) : Option Nat :=
  (nodeRecords main).bind (findRecord primary)

/-- Change a record of the node list in place. -/
def changeRecord (main : Json) (index : Nat) (change : Json → Json) : Json :=
  main.changeField "nodes" (Json.changeIdx index change)

/-! ## Keys -/

/-- `put_uint16_list` keeps the low half of each entry. -/
def putUint16List (idxs : List U32) : Json :=
  .array (idxs.map fun idx => Json.hex16 (idx.setWidth 16).toNat)

/-- Replace a list of keys in a configuration; an empty list is not stored. -/
def setNodeKeys (idxs : List U32) (desc : String) (config : Json) : Json :=
  if idxs.isEmpty then config.del desc
  else (config.del desc).add desc (putUint16List idxs)

/-- The file is the one of the local node for the local node, and the
provisioning database for any other. -/
def provDbNodeKeys (file : Json) (node : MeshNode) (idxs : List U32)
    (desc : String) : Option Json := do
  let index ← findNodeByPrimary file node.primary
  some (changeRecord file index
    (Json.changeField "configuration" (setNodeKeys idxs desc)))

/-! ## A new node -/

def newElementRecord (primary : U16) (index : Nat) : Json :=
  .object [("elementIndex", .int index),
    ("unicastAddress", Json.hex16 (primary + BitVec.ofNat 16 index).toNat)]

def newConfiguration (node : MeshNode) : Json :=
  .object [
    ("netKeys", putUint16List (node.netKeys.map (·.setWidth 32))),
    ("elements", .array ((List.range node.numEle.toNat).map
      (newElementRecord node.primary)))]

def newNodeRecord (node : MeshNode) : Json :=
  .object [("deviceKey", keyText node.devKey),
    ("configuration", newConfiguration node)]

def provDbAddNewNode (file : Json) (node : MeshNode) : Option Json :=
  if node.numEle = 0 then none
  else if node.primary = 0 then none
  else
    match file.get "nodes" with
    | none => some (file.add "nodes" (.array [newNodeRecord node]))
    | some _ =>
        some (file.changeField "nodes" (Json.push · (newNodeRecord node)))

/-! ## Configuration of models -/

def findConfiguredModel (targetId : U32) : List Json → Option Nat
  | [] => none
  | model :: models =>
      match readModelId (model.get "modelId") with
      | none => none
      | some modelId =>
          if modelId = targetId then some 0
          else (findConfiguredModel targetId models).map (· + 1)

def newModelRecord (modelId : U32) : Json :=
  .object [("modelId",
    if modelId &&& 0xffff0000 = 0xffff0000 then
      Json.hex16 (modelId.setWidth 16).toNat
    else Json.hex32 modelId.toNat)]

/-- Change the entry of a model, which is made if there is none. -/
def changeModelRecords (modelId : U32) (change : Json → Json)
    (models : List Json) : List Json :=
  match findConfiguredModel modelId models with
  | some index => models.modify index change
  | none => models ++ [change (newModelRecord modelId)]

def changeElementRecord (modelId : U32) (change : Json → Json)
    (element : Json) : Json :=
  match element.get "models" with
  | none => element.add "models" (.array (changeModelRecords modelId change []))
  | some (.array models) =>
      element.add "models" (.array (changeModelRecords modelId change models))
  | some _ => element

/-- `get_jmodel_obj` for a remote node, and what the caller does with the
entry. The element is taken by its place in the array. -/
def changeModelObj (file : Json) (node : MeshNode) (eleIdx : Byte)
    (modelId : U32) (change : Json → Json) : Option Json := do
  let index ← findNodeByPrimary file node.primary
  let nodes ← file.get "nodes"
  let record ← nodes.getIdx index
  let config ← record.get "configuration"
  let elements ← config.get "elements"
  let element ← elements.getIdx eleIdx.toNat
  let _ ← (element.get "models").elim (some []) Json.items
  some (changeRecord file index
    (Json.changeField "configuration"
      (Json.changeField "elements"
        (Json.changeIdx eleIdx.toNat (changeElementRecord modelId change)))))

/-- Add an entry to a list of a model's record. -/
def pushEntry (key : String) (entry : Json) (model : Json) : Json :=
  match model.get key with
  | none => model.add key (.array [entry])
  | some _ => model.changeField key (Json.push · entry)

def provDbAddBinding (file : Json) (node : MeshNode) (eleIdx : Byte)
    (modelId : U32) (appIdx : U16) : Option Json :=
  changeModelObj file node eleIdx modelId
    (pushEntry "bind" (.int appIdx.toNat))

def provDbAddSubscription (file : Json) (node : MeshNode) (eleIdx : Byte)
    (modelId : U32) (addr : U16) : Option Json :=
  changeModelObj file node eleIdx modelId
    (pushEntry "subscribe" (Json.hex16 addr.toNat))

def pubRecord (pub : MeshPublication) : Json :=
  .object [("address", Json.hex16 pub.addr16.toNat),
    ("index", Json.hex16 pub.appIdx.toNat), ("ttl", .int pub.ttl.toNat)]

def provDbNodeSetModelPub (file : Json) (node : MeshNode) (eleIdx : Byte)
    (modelId : U32) (pub : Option MeshPublication) : Option Json :=
  changeModelObj file node eleIdx modelId fun model =>
    match pub with
    | none => model.del "publish"
    | some pub => (model.del "publish").add "publish" (pubRecord pub)

end Meshctl.Db
