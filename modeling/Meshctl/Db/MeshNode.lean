import Meshctl.Net.KeyStore

/-! # Configured nodes

What the client keeps of a node's configuration. A function that returns false
and leaves the node as it was is `none`.
-/

namespace Meshctl.Db

open Net

structure MeshPublication where
  appIdx : U16
  addr16 : U16
  ttl : Byte
  period : Byte
  retransmit : Byte
deriving DecidableEq

structure MeshModel where
  id : U32
  bindings : List U16
  subscriptions : List U16
  pub : Option MeshPublication
deriving DecidableEq

structure MeshElement where
  index : Byte
  loc : U16
  models : List MeshModel
deriving DecidableEq

structure MeshNodeComposition where
  relay : Bool
  proxy : Bool
  lpn : Bool
  friend : Bool
  cid : U16
  pid : U16
  vid : U16
  crpl : U16
deriving DecidableEq

structure MeshNode where
  netKeys : List U16
  appKeys : List U32
  elements : List MeshElement
  ivIndex : U32
  seqNumber : U32
  primary : U16
  devKey : Key
  numEle : Byte
  ttl : Byte
  comp : Option MeshNodeComposition
deriving DecidableEq

/-- `node_new` -/
def MeshNode.new : MeshNode where
  netKeys := []
  appKeys := []
  elements := []
  ivIndex := 0
  seqNumber := 0
  primary := 0
  devKey := 0
  numEle := 0
  ttl := 0
  comp := none

def MeshModel.new (id : U32) : MeshModel where
  id := id
  bindings := []
  subscriptions := []
  pub := none

/-- Change the first entry that a search finds. -/
def changeFirst {α : Type*} (found : α → Bool) (change : α → α) :
    List α → List α
  | [] => []
  | entry :: rest =>
      if found entry then change entry :: rest
      else entry :: changeFirst found change rest

namespace MeshNode

variable (node : MeshNode)

/-! ## Keys -/

/-- An entry of `app_keys`: the index of the key and that of its network
key. -/
def packAppKey (netIdx appIdx : U16) : U32 :=
  (netIdx.setWidth 32 <<< 16) + appIdx.setWidth 32

def netKeyAdd (index : U16) : Option MeshNode :=
  if node.netKeys.contains index then none
  else some { node with netKeys := node.netKeys ++ [index] }

/-- The key has to be known to the program, and its network key to the node. -/
def appKeyAdd (appKeys : List MeshAppKey) (idx : U16) : Option MeshNode :=
  let netIdx := keysAppKeyGetBound idx appKeys
  if netIdx = netIdxInvalid then none
  else if !node.netKeys.contains netIdx then none
  else if node.appKeys.contains (packAppKey netIdx idx) then none
  else some { node with appKeys := node.appKeys ++ [packAppKey netIdx idx] }

/-! ## Elements and models -/

def findElement (eleIdx : Byte) : Option MeshElement :=
  node.elements.find? fun element => element.index = eleIdx

def changeElement (eleIdx : Byte) (change : MeshElement → MeshElement) :
    MeshNode :=
  { node with
    elements := changeFirst (fun element => element.index = eleIdx) change
      node.elements }

end MeshNode

namespace MeshElement

variable (element : MeshElement)

def findModel (id : U32) : Option MeshModel :=
  element.models.find? fun model => model.id = id

def changeModel (id : U32) (change : MeshModel → MeshModel) : MeshElement :=
  { element with
    models := changeFirst (fun model => model.id = id) change element.models }

/-- A model that is there already is left as it is. -/
def setModel (id : U32) : MeshElement :=
  if (element.findModel id).isSome then element
  else { element with models := element.models ++ [MeshModel.new id] }

end MeshElement

namespace MeshNode

variable (node : MeshNode)

def getModel (eleIdx : Byte) (modelId : U32) : Option MeshModel :=
  (node.findElement eleIdx).bind fun element => element.findModel modelId

def changeModel (eleIdx : Byte) (modelId : U32)
    (change : MeshModel → MeshModel) : MeshNode :=
  node.changeElement eleIdx fun element => element.changeModel modelId change

def setElement (eleIdx : Byte) : Option MeshNode :=
  if (node.findElement eleIdx).isSome then none
  else
    some { node with
      elements := node.elements ++ [{ index := eleIdx, loc := 0, models := [] }] }

def setModel (eleIdx : Byte) (id : U32) : Option MeshNode :=
  if (node.findElement eleIdx).isNone then none
  else some (node.changeElement eleIdx fun element => element.setModel id)

def setComposition (comp : MeshNodeComposition) : Option MeshNode :=
  if node.comp.isSome then none else some { node with comp := some comp }

/-! ## Configuration of models -/

def addBinding (eleIdx : Byte) (modelId : U32) (appIdx : U16) :
    Option MeshNode :=
  match node.getModel eleIdx modelId with
  | none => none
  | some model =>
      if model.bindings.contains appIdx then none
      else
        some (node.changeModel eleIdx modelId fun model =>
          { model with bindings := model.bindings ++ [appIdx] })

def addSubscription (eleIdx : Byte) (modelId : U32) (addr : U16) :
    Option MeshNode :=
  match node.getModel eleIdx modelId with
  | none => none
  | some model =>
      if model.subscriptions.contains addr then none
      else
        some (node.changeModel eleIdx modelId fun model =>
          { model with subscriptions := model.subscriptions ++ [addr] })

def modelPubSet (eleIdx : Byte) (modelId : U32) (pub : MeshPublication) :
    Option MeshNode :=
  if (node.getModel eleIdx modelId).isNone then none
  else
    some (node.changeModel eleIdx modelId fun model =>
      { model with pub := some pub })

end MeshNode

/-! ## What stays the same -/

namespace MeshNode

/-- The fields of a node that neither its composition nor the configuration of
its models touches. -/
def identity (node : MeshNode) : MeshNode :=
  { node with elements := [], comp := none }

variable {node next : MeshNode} {eleIdx : Byte} {modelId : U32}

theorem setElement_identity (set : node.setElement eleIdx = some next) :
    next.identity = node.identity := by
  unfold setElement at set
  split at set
  · cases set
  · cases set
    rfl

theorem setModel_identity (set : node.setModel eleIdx modelId = some next) :
    next.identity = node.identity := by
  unfold setModel at set
  split at set
  · cases set
  · cases set
    rfl

theorem setComposition_identity {comp : MeshNodeComposition}
    (set : node.setComposition comp = some next) :
    next.identity = node.identity := by
  unfold setComposition at set
  split at set
  · cases set
  · cases set
    rfl

theorem addBinding_identity {appIdx : U16}
    (added : node.addBinding eleIdx modelId appIdx = some next) :
    next.identity = node.identity := by
  unfold addBinding at added
  split at added
  · cases added
  · split at added
    · cases added
    · cases added
      rfl

theorem addSubscription_identity {addr : U16}
    (added : node.addSubscription eleIdx modelId addr = some next) :
    next.identity = node.identity := by
  unfold addSubscription at added
  split at added
  · cases added
  · split at added
    · cases added
    · cases added
      rfl

theorem modelPubSet_identity {pub : MeshPublication}
    (set : node.modelPubSet eleIdx modelId pub = some next) :
    next.identity = node.identity := by
  unfold modelPubSet at set
  split at set
  · cases set
  · cases set
    rfl

end MeshNode

end Meshctl.Db
