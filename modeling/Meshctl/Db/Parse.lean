import Meshctl.Foundation.Json
import Meshctl.Net.AddressPool
import Meshctl.Db.MeshNode

/-! # Reading node records

The functions of `prov-db.c` that build a node from its stored record. A record
that is refused and one that stops the program are both `none`.
-/

namespace Meshctl.Db

open Text Net

/-! ## Values -/

/-- `sscanf` of the text of a value with `%04hx`. -/
def readHex16 (value : Option Json) : Option U16 :=
  value.bind fun value =>
    (scanHex 4 value.getString).map (BitVec.ofInt 16)

/-- The id of a model: four digits for one of the Bluetooth SIG, eight for one
of a vendor. -/
def readModelId (value : Option Json) : Option U32 :=
  value.bind fun value =>
    let str := value.getString
    if str.length ≠ 4 ∧ str.length ≠ 8 then none
    else
      (scanHex 8 str).map fun modelId =>
        if str.length = 4 then BitVec.ofInt 32 modelId + 0xffff0000
        else BitVec.ofInt 32 modelId

/-- `str2hex` into a buffer, whose bytes are overwritten as far as the text can
be read. -/
def str2hex (str : List Char) (inLen : U16) (out : List Byte) (outLen : Nat) :
    Bool × List Byte :=
  if inLen.toNat < outLen * 2 then (false, out)
  else
    let bytes := ((List.range outLen).map fun index =>
      scanHex 2 (str.drop (index * 2))).takeWhile Option.isSome
    (bytes.length = outLen,
      bytes.filterMap (Option.map (BitVec.ofInt 8)) ++ out.drop bytes.length)

def keyIdxInRange (idx : Int) : Prop := 0 ≤ idx ∧ idx ≤ 4095

instance (idx : Int) : Decidable (keyIdxInRange idx) :=
  inferInstanceAs (Decidable (_ ∧ _))

/-! ## Keys -/

/-- Add the keys of a list to a node until one is out of range, and count
them. -/
def parseNodeKeys (keyAdd : MeshNode → U16 → Option MeshNode)
    (node : MeshNode) : List Json → MeshNode × Nat
  | [] => (node, 0)
  | item :: items =>
      match item.pointer with
      | none => (node, 0)
      | some value =>
          let idx := Json.getInt (some value)
          if keyIdxInRange idx then
            let (node, count) := parseNodeKeys keyAdd
              ((keyAdd node (BitVec.ofInt 16 idx)).getD node) items
            (node, count + 1)
          else (node, 0)

/-! ## Composition -/

def parseCompositionModels (node : MeshNode) (index : Byte)
    (models : List Json) : Option MeshNode :=
  models.foldlM (fun node model => do
    let modelId ← readModelId model.pointer
    return (node.setModel index modelId).getD node) node

def parseCompositionElement (count : Nat) (node : MeshNode)
    (element : Json) : Option MeshNode := do
  let value ← element.get "elementIndex"
  let index := Json.getInt (some value)
  if index ≥ count then none
  else
    let node ← node.setElement (BitVec.ofInt 8 index)
    match element.get "models" with
    | none => some node
    | some models =>
        parseCompositionModels node (BitVec.ofInt 8 index) (← models.items)

def parseCompositionElements (node : MeshNode) (elements : List Json) :
    Option MeshNode :=
  elements.foldlM (parseCompositionElement elements.length)
    { node with numEle := BitVec.ofNat 8 elements.length }

def parseNodeComposition (node : MeshNode) (comp : Json) : Option MeshNode := do
  let cid ← readHex16 (comp.get "cid")
  let pid ← readHex16 (comp.get "pid")
  let vid ← readHex16 (comp.get "vid")
  let crpl ← readHex16 (comp.get "crpl")
  let features ← comp.get "features"
  let node ← node.setComposition
    { relay := Json.getBoolean (features.get "relay")
      proxy := Json.getBoolean (features.get "proxy")
      friend := Json.getBoolean (features.get "friend")
      lpn := Json.getBoolean (features.get "lowPower")
      cid, pid, vid, crpl }
  let elements ← comp.get "elements"
  parseCompositionElements node (← elements.items)

/-! ## Configuration of models -/

/-- The loop ends without an error at an entry that is `null`. -/
def parseBindings (eleIdx : Byte) (modelId : U32) (node : MeshNode) :
    List Json → Option MeshNode
  | [] => some node
  | item :: items =>
      match item.pointer with
      | none => some node
      | some value =>
          let keyIdx := Json.getInt (some value)
          if keyIdxInRange keyIdx then do
            let node ← node.addBinding eleIdx modelId (BitVec.ofInt 16 keyIdx)
            parseBindings eleIdx modelId node items
          else none

def parseSubscriptions (eleIdx : Byte) (modelId : U32) (node : MeshNode)
    (subscriptions : List Json) : Option MeshNode :=
  subscriptions.foldlM (fun node subscription => do
    let addr ← readHex16 subscription.pointer
    node.addSubscription eleIdx modelId addr) node

def parseModelPub (eleIdx : Byte) (modelId : U32) (node : MeshNode)
    (pub : Json) : Option MeshNode := do
  let addr16 ← readHex16 (pub.get "address")
  let appIdx ← readHex16 (pub.get "index")
  node.modelPubSet eleIdx modelId
    { appIdx, addr16
      ttl := BitVec.ofInt 8 (Json.getInt (pub.get "ttl"))
      period := 0
      retransmit := 0 }

/-- Apply a parser to a value if there is one. -/
def parseIfPresent (parse : MeshNode → Json → Option MeshNode)
    (node : MeshNode) : Option Json → Option MeshNode
  | none => some node
  | some value => parse node value

def parseModelBindings (eleIdx : Byte) (modelId : U32) (node : MeshNode)
    (bindings : Json) : Option MeshNode := do
  parseBindings eleIdx modelId node (← bindings.items)

def parseModelSubscriptions (eleIdx : Byte) (modelId : U32) (node : MeshNode)
    (subscriptions : Json) : Option MeshNode := do
  parseSubscriptions eleIdx modelId node (← subscriptions.items)

def parseConfigurationModel (eleIdx : Byte) (node : MeshNode) (model : Json) :
    Option MeshNode := do
  let modelId ← readModelId (model.get "modelId")
  let node ← parseIfPresent (parseModelBindings eleIdx modelId) node
    (model.get "bind")
  let node ← parseIfPresent (parseModelSubscriptions eleIdx modelId) node
    (model.get "subscribe")
  parseIfPresent (parseModelPub eleIdx modelId) node (model.get "publish")

def parseConfigurationModels (node : MeshNode) (eleIdx : Byte)
    (models : List Json) : Option MeshNode :=
  models.foldlM (parseConfigurationModel eleIdx) node

/-- The element with index zero says which addresses the node has. For a remote
node they are taken out of the pool. -/
def parsePrimary (count : Nat) (isLocal : Bool) (pool : List U32)
    (element : Json) : Option (U16 × List U32) := do
  let addr ← readHex16 (element.get "unicastAddress")
  if isLocal then some (addr, pool)
  else
    let (reserved, pool) :=
      netReserveAddressRange pool addr (BitVec.ofNat 8 count)
    if reserved then some (addr, pool) else none

def placeNode (count : Nat) (isLocal : Bool) (index : Int)
    (state : MeshNode × List U32) (element : Json) :
    Option (MeshNode × List U32) :=
  if index = 0 then
    (parsePrimary count isLocal state.2 element).map fun (addr, pool) =>
      ({ state.1 with primary := addr }, pool)
  else some state

def parseElementModels (eleIdx : Byte) (node : MeshNode) (models : Json) :
    Option MeshNode := do
  parseConfigurationModels node eleIdx (← models.items)

def parseConfigurationElement (count : Nat) (isLocal : Bool)
    (state : MeshNode × List U32) (element : Json) :
    Option (MeshNode × List U32) := do
  let value ← element.get "elementIndex"
  let index := Json.getInt (some value)
  if index ≥ count then none
  else
    let (node, pool) ← placeNode count isLocal index state element
    let node ← parseIfPresent (parseElementModels (BitVec.ofInt 8 index)) node
      (element.get "models")
    some (node, pool)

def parseConfigurationElements (node : MeshNode) (pool : List U32)
    (isLocal : Bool) (elements : List Json) : Option (MeshNode × List U32) :=
  elements.foldlM (parseConfigurationElement elements.length isLocal)
    ({ node with numEle := BitVec.ofNat 8 elements.length }, pool)

end Meshctl.Db
