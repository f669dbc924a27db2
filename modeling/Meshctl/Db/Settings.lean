import Meshctl.Db.KeyRestart

/-! # Numbers in the files

The functions of `prov-db.c` that store the IV index, the sequence number of the
local node, default TTLs and the replay data of nodes. Each write of a file is
complete or does not happen; `none` is a call that writes nothing.
-/

namespace Meshctl.Db

open Net

/-- The file of the local node and the provisioning database. -/
structure Files where
  localFile : Json
  file : Json

/-! ## The functions of the source -/

/-- Delete a number and add another one. `json_object_new_int` takes a signed
number. -/
def replaceInt (desc : String) (value : Int) (jobj : Json) : Json :=
  (jobj.del desc).add desc (.int value)

/-- Change the record of the local node. A file without one stops the program. -/
def changeNode (change : Json → Json) (localFile : Json) : Option Json :=
  (localFile.get "node").map fun _ => localFile.changeField "node" change

def setConfiguredTtl (ttl : Byte) : Json → Json :=
  Json.changeField "configuration" (replaceInt "defaultTTL" ttl.toNat)

/-- The file is the one of the local node for the local node, and the
provisioning database for any other. A record without a configuration is not
written. -/
def provDbNodeSetTtl (isLocal : Bool) (file : Json) (primary : U16)
    (ttl : Byte) : Option Json :=
  if isLocal then do
    let jnode ← file.get "node"
    let _ ← jnode.get "configuration"
    changeNode (setConfiguredTtl ttl) file
  else do
    let index ← findNodeByPrimary file primary
    some (changeRecord file index (setConfiguredTtl ttl))

def setLocalIvIndex (idx : U32) (update : Bool) (jobj : Json) : Json :=
  replaceInt "IVupdate" (if update then 1 else 0)
    (replaceInt "IVindex" idx.toInt jobj)

/-- A provisioner saves the IV index "to global DB as well". -/
def provDbLocalSetIvIndex (files : Files) (ivIndex : U32)
    (update prov : Bool) : Option Files := do
  let localFile ← changeNode (setLocalIvIndex ivIndex update) files.localFile
  let files := { files with localFile }
  if prov then
    some { files with file := setLocalIvIndex ivIndex update files.file }
  else
    some files

def provDbLocalSetSeqNum (localFile : Json) (seqNum : U32) : Option Json :=
  changeNode (replaceInt "sequenceNumber" seqNum.toInt) localFile

def setIvSeq (iv seq : U32) (jnode : Json) : Json :=
  replaceInt "sequenceNumber" seq.toInt (replaceInt "IVindex" iv.toInt jnode)

def provDbNodeSetIvSeq (file : Json) (primary : U16) (iv seq : U32) :
    Option Json := do
  let index ← findNodeByPrimary file primary
  some (changeRecord file index (setIvSeq iv seq))

/-! ## Single writes -/

/-- One write of one file. Storing the IV index takes two. -/
inductive SettingsWrite where
  | localIvIndex (ivIndex : U32) (update : Bool)
  | networkIvIndex (ivIndex : U32) (update : Bool)
  | localSeqNum (seqNum : U32)
  | localTtl (ttl : Byte)
  | nodeTtl (primary : U16) (ttl : Byte)
  | nodeIvSeq (primary : U16) (iv seq : U32)

namespace Files

variable (files : Files)

def setLocal (localFile : Option Json) : Files :=
  { files with localFile := localFile.getD files.localFile }

def setMain (file : Option Json) : Files :=
  { files with file := file.getD files.file }

/-- The files after a write. -/
def write : SettingsWrite → Files
  | .localIvIndex ivIndex update =>
      files.setLocal (changeNode (setLocalIvIndex ivIndex update) files.localFile)
  | .networkIvIndex ivIndex update =>
      files.setMain (some (setLocalIvIndex ivIndex update files.file))
  | .localSeqNum seqNum =>
      files.setLocal (provDbLocalSetSeqNum files.localFile seqNum)
  | .localTtl ttl =>
      files.setLocal (provDbNodeSetTtl true files.localFile 0 ttl)
  | .nodeTtl primary ttl =>
      files.setMain (provDbNodeSetTtl false files.file primary ttl)
  | .nodeIvSeq primary iv seq =>
      files.setMain (provDbNodeSetIvSeq files.file primary iv seq)

def writeAll (writes : List SettingsWrite) : Files :=
  writes.foldl write files

/-- A provisioner writes the local file first. -/
theorem provDbLocalSetIvIndex_writes (ivIndex : U32) (update : Bool)
    {jnode : Json} (isNode : files.localFile.get "node" = some jnode) :
    provDbLocalSetIvIndex files ivIndex update true =
      some ((files.write (.localIvIndex ivIndex update)).write
        (.networkIvIndex ivIndex update)) := by
  simp [provDbLocalSetIvIndex, write, changeNode, isNode, setLocal, setMain]

end Files

/-! ## What the next start reads -/

/-- What a start reads from the files. -/
structure Loaded where
  localNode : MeshNode
  settings : NetworkSettings
  nodes : List MeshNode
  pool : List U32

def load (env : LoadEnv) (files : Files) : Option Loaded :=
  (readAtStart env files.localFile files.file).map fun (localNode, db) =>
    { localNode, settings := db.settings, nodes := db.nodes, pool := db.pool }

/-- Where the program finds what it writes: the places of the records of the
nodes, and whether the local node is configured. -/
structure Places where
  nodes : U16 → Option Nat
  configured : Bool

def Files.places (files : Files) : Places where
  nodes := findNodeByPrimary files.file
  configured := ((files.localFile.get "node").bind
    (·.get "configuration")).isSome

def MeshNode.setReplay (node : MeshNode) (replay : U32 × U32) : MeshNode :=
  { node with ivIndex := replay.1, seqNumber := replay.2 }

/-- A TTL is read back with 7 bits. -/
def MeshNode.setStoredTtl (node : MeshNode) (ttl : Byte) : MeshNode :=
  { node with ttl := ttl &&& ttlMask }

def Loaded.changeNodeAt (loaded : Loaded) (index : Option Nat)
    (change : MeshNode → MeshNode) : Loaded :=
  match index with
  | none => loaded
  | some index => { loaded with nodes := loaded.nodes.modify index change }

/-- What a write means: one number is another one, and all else is as it was. -/
def Loaded.assign (places : Places) (loaded : Loaded) : SettingsWrite → Loaded
  | .localIvIndex ivIndex _ =>
      { loaded with localNode := { loaded.localNode with ivIndex } }
  | .networkIvIndex ivIndex ivUpdate =>
      { loaded with settings := { loaded.settings with ivIndex, ivUpdate } }
  | .localSeqNum seqNumber =>
      { loaded with localNode := { loaded.localNode with seqNumber } }
  | .localTtl ttl =>
      if places.configured then
        { loaded with localNode := loaded.localNode.setStoredTtl ttl }
      else loaded
  | .nodeTtl primary ttl =>
      loaded.changeNodeAt (places.nodes primary) (·.setStoredTtl ttl)
  | .nodeIvSeq primary iv seq =>
      loaded.changeNodeAt (places.nodes primary) (·.setReplay (iv, seq))

def Loaded.assignAll (places : Places) (loaded : Loaded)
    (writes : List SettingsWrite) : Loaded :=
  writes.foldl (Loaded.assign places) loaded

end Meshctl.Db
