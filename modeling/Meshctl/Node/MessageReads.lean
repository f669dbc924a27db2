import Meshctl.Db.CompositionReads
import Meshctl.Node.ConfigClient

/-! # What is read of configuration messages

The bytes that the configuration models read of an access message, and how long a
message has to be for all of them to be in it.
-/

namespace Meshctl.Node

open Bytes Net

/-! ## Reads -/

/-- `get_le16` -/
def le16Reads (offset : Nat) : List Nat := [offset, offset + 1]

/-- `print_mod_id` -/
def modIdReads (offset : Nat) (vid : Bool) : List Nat :=
  if vid then le16Reads (offset + 2) ++ le16Reads offset else le16Reads offset

/-- A status whose other fields are only looked at when it reports success. -/
def statusReads (data : List Byte) (fields : List Nat) : List Nat :=
  0 :: if get data 0 = meshStatusSuccess then fields else []

/-- The loops `for (i = 5; i < len; i += 2)` over addresses or key indices. As `i` is
odd, it does not wrap. -/
def listReads (len : U16) : List Nat :=
  (List.range' 5 ((len.toNat - 5 + 1) / 2) 2).flatMap le16Reads

/-- `mesh_opcode_get` -/
def opcodeReads (buf : List Byte) (sz : U16) : List Nat :=
  if sz.toNat < 1 then []
  else if get buf 0 &&& 0xc0 = 0x80 then
    if sz.toNat < 2 then [0] else 0 :: [0, 1]
  else if get buf 0 &&& 0xc0 = 0xc0 then
    if sz.toNat < 3 then [0] else 0 :: [1, 2] ++ [0]
  else
    [0]

/-! ### The client -/

inductive ClientStatus where
  | devComp
  | appKey
  | netKey
  | modelApp
  | nodeIdentity
  | configBeacon
  | configRelay
  | configProxy
  | configDefaultTtl
  | configModelPub
  | configModelSub
  | configModelSubList
  | modelAppList
  | configHeartbeatPub
  | configHeartbeatSub
  | nodeReset
deriving DecidableEq

namespace ClientStatus

def opcode : ClientStatus → U32
  | devComp => opDevCompStatus
  | appKey => opAppKeyStatus
  | netKey => opNetKeyStatus
  | modelApp => opModelAppStatus
  | nodeIdentity => opNodeIdentityStatus
  | configBeacon => opConfigBeaconStatus
  | configRelay => opConfigRelayStatus
  | configProxy => opConfigProxyStatus
  | configDefaultTtl => opConfigDefaultTtlStatus
  | configModelPub => opConfigModelPubStatus
  | configModelSub => opConfigModelSubStatus
  | configModelSubList => opConfigModelSubList
  | modelAppList => opModelAppList
  | configHeartbeatPub => opConfigHeartbeatPubStatus
  | configHeartbeatSub => opConfigHeartbeatSubStatus
  | nodeReset => opNodeResetStatus

def all : List ClientStatus :=
  [devComp, appKey, netKey, modelApp, nodeIdentity, configBeacon, configRelay,
    configProxy, configDefaultTtl, configModelPub, configModelSub, configModelSubList,
    modelAppList, configHeartbeatPub, configHeartbeatSub, nodeReset]

/-- The case of the switch that an opcode selects. -/
def ofOpcode (opcode : U32) : Option ClientStatus :=
  all.find? fun status => status.opcode = opcode

/-- A composition is read twice, for the node and for the database. -/
def compositionReads (node : Db.MeshNode) (file : Json) (data : List Byte)
    (len : U16) : List Nat :=
  match Db.nodeParseCompositionNoting node (get data) len with
  | none => []
  | some (next, reads) =>
      reads ++
        match Db.provDbAddNodeCompositionNoting file next (get data) len with
        | none => []
        | some (_, stored) => stored

/-- Each byte is named once, also where it is looked at again. -/
def reads (node : Db.MeshNode) (file : Json) (status : ClientStatus)
    (data : List Byte) (len : U16) : List Nat :=
  match status with
  | devComp => if len.toNat < 16 then [] else compositionReads node file data len
  | appKey => if len ≠ 4 then [] else 0 :: le16Reads 1 ++ le16Reads 2
  | netKey => if len ≠ 3 then [] else 0 :: le16Reads 1
  | modelApp =>
      if len ≠ 7 ∧ len ≠ 9 then []
      else 0 :: le16Reads 1 ++ le16Reads 3 ++ modIdReads 5 (len = 9)
  | nodeIdentity => if len ≠ 4 then [] else le16Reads 1 ++ [3, 0]
  | configBeacon => if len ≠ 1 then [] else [0]
  | configRelay => if len ≠ 2 then [] else [0, 1]
  | configProxy => if len ≠ 1 then [] else [0]
  | configDefaultTtl => if len ≠ 1 then [] else [0]
  | configModelPub =>
      if len ≠ 12 ∧ len ≠ 14 then []
      else statusReads data (le16Reads 1 ++ modIdReads 10 (len = 14) ++ le16Reads 3 ++
        le16Reads 5 ++ [7, 8, 9])
  | configModelSub =>
      statusReads data (le16Reads 1 ++ le16Reads 3 ++ modIdReads 5 (len = 9))
  | configModelSubList =>
      statusReads data (le16Reads 1 ++ le16Reads 3 ++ listReads len)
  | modelAppList => statusReads data (le16Reads 1 ++ le16Reads 3 ++ listReads len)
  | configHeartbeatPub =>
      statusReads data (le16Reads 1 ++ [3, 4, 5] ++ le16Reads 6 ++ le16Reads 8)
  | configHeartbeatSub =>
      statusReads data (le16Reads 1 ++ le16Reads 3 ++ [5, 6, 7, 8])
  | nodeReset => [0]

end ClientStatus

/-- `client_msg_recvd`, with the node that is found for `src`. -/
def clientMsgRecvdReads (found : Option Db.MeshNode) (file : Json) (src : U16)
    (data : List Byte) (len : U16) : List Nat :=
  opcodeReads data len ++
    match meshOpcodeGet data len, found with
    | some (opcode, n), some node =>
        if node.primary ≠ src then []
        else
          match ClientStatus.ofOpcode (opcode &&& ~~~opUnreliable) with
          | none => []
          | some status =>
              (status.reads node file (data.drop n) (len - BitVec.ofNat 16 n)).map
                (n + ·)
    | _, _ => []

/-! ### The server -/

def serverReads (opcode : U32) (len : U16) : List Nat :=
  if opcode = opConfigDefaultTtlSet then
    if len ≠ 1 then [] else [0]
  else if opcode = opConfigModelPubSet then
    if len ≠ 11 ∧ len ≠ 13 then []
    else
      le16Reads 0 ++ le16Reads 9 ++ (if len = 14 then le16Reads 11 else []) ++
        le16Reads 2 ++ le16Reads 4 ++ [6, 7, 8]
  else []

/-- `server_msg_recvd`, with the local node or without one. -/
def serverMsgRecvdReads (hasLocalNode : Bool) (data : List Byte) (len : U16) :
    List Nat :=
  opcodeReads data len ++
    match meshOpcodeGet data len with
    | none => []
    | some (opcode, n) =>
        if hasLocalNode then
          (serverReads (opcode &&& ~~~opUnreliable) (len - BitVec.ofNat 16 n)).map
            (n + ·)
        else []

/-! ## Nothing else is looked at -/

section Agreement

variable {data other : List Byte}

theorem getLe16_congr {offset : Nat}
    (agree : ∀ index ∈ le16Reads offset, get other index = get data index) :
    getLe16 other offset = getLe16 data offset := by
  have low := agree offset List.mem_cons_self
  have high := agree (offset + 1) (List.mem_cons_of_mem _ List.mem_cons_self)
  rw [getLe16, getLe16, low, high]

theorem printModId_congr {offset : Nat} {vid : Bool}
    (agree : ∀ index ∈ modIdReads offset vid, get other index = get data index) :
    printModId other offset vid = printModId data offset vid := by
  cases vid with
  | false =>
      have same := getLe16_congr agree
      simp only [printModId, Bool.false_eq_true, if_false, same]
  | true =>
      rw [modIdReads, if_pos rfl, List.forall_mem_append] at agree
      rw [printModId, printModId, getLe16_congr agree.1, getLe16_congr agree.2]

/-- What is done for a status depends on the bytes only that are read of it. A
composition is taken as a whole. -/
theorem clientAction_congr {node : Db.MeshNode} {file : Json} {status : ClientStatus}
    {len src : U16} {isLocal : Bool} (noComposition : status ≠ .devComp)
    (agree : ∀ index ∈ status.reads node file data len,
      get other index = get data index) :
    clientAction status.opcode other len src isLocal =
      clientAction status.opcode data len src isLocal := by
  cases status with
  | devComp => exact absurd rfl noComposition
  | appKey =>
      rw [ClientStatus.opcode, clientAction_appKeyStatus, clientAction_appKeyStatus]
      by_cases four : len = 4
      · simp only [ClientStatus.reads, four, ne_eq, not_true_eq_false, if_false,
          List.forall_mem_cons, List.forall_mem_append, List.cons_append] at agree
        rw [agree.1, getLe16_congr agree.2.1, getLe16_congr agree.2.2]
      · simp only [four, decide_false, Bool.false_and, Bool.false_eq_true, if_false]
  | netKey =>
      rw [ClientStatus.opcode, clientAction_netKeyStatus, clientAction_netKeyStatus]
      by_cases three : len = 3
      · simp only [ClientStatus.reads, three, ne_eq, not_true_eq_false, if_false,
          List.forall_mem_cons] at agree
        rw [agree.1, getLe16_congr agree.2]
      · simp only [three, decide_false, Bool.false_and, Bool.false_eq_true, if_false]
  | modelApp =>
      rw [ClientStatus.opcode, clientAction_modelAppStatus, clientAction_modelAppStatus]
      by_cases either : len = 7 ∨ len = 9
      · have taken : ¬(len ≠ 7 ∧ len ≠ 9) := Decidable.or_iff_not_not_and_not.mp either
        simp only [ClientStatus.reads, if_neg taken, List.forall_mem_cons,
          List.forall_mem_append, List.cons_append, and_assoc] at agree
        rcases agree with ⟨first, element, appIdx, model⟩
        rw [first, getLe16_congr element, getLe16_congr appIdx, printModId_congr model]
      · simp only [not_or] at either
        simp only [either.1, either.2, decide_false, Bool.or_false, Bool.false_and,
          Bool.false_eq_true, if_false]
  | configDefaultTtl =>
      rw [ClientStatus.opcode, clientAction_defaultTtlStatus, clientAction_defaultTtlStatus]
      by_cases single : len = 1
      · simp only [ClientStatus.reads, single, ne_eq, not_true_eq_false, if_false,
          List.forall_mem_singleton] at agree
        rw [agree]
      · rw [if_neg single, if_neg single]
  | configModelPub =>
      rw [ClientStatus.opcode, clientAction_modelPubStatus, clientAction_modelPubStatus]
      by_cases either : len = 12 ∨ len = 14
      · have taken : ¬(len ≠ 12 ∧ len ≠ 14) := Decidable.or_iff_not_not_and_not.mp either
        simp only [ClientStatus.reads, if_neg taken, statusReads, List.forall_mem_cons]
          at agree
        rw [agree.1]
        by_cases success : get data 0 = meshStatusSuccess
        · simp only [success, if_true, List.forall_mem_append, List.forall_mem_cons,
            and_assoc] at agree
          rcases agree with ⟨_, element, model, addr, appIdx, ttl, period, retransmit, _⟩
          have pub : getPublication other 3 = getPublication data 3 := by
            rw [getPublication, getPublication, getLe16_congr addr, getLe16_congr appIdx,
              ttl, period, retransmit]
          rw [getLe16_congr element, printModId_congr model, pub]
        · simp only [success, decide_false, Bool.and_false, Bool.false_and,
            Bool.false_eq_true, if_false]
      · simp only [not_or] at either
        simp only [either.1, either.2, decide_false, Bool.or_false, Bool.false_and,
          Bool.false_eq_true, if_false]
  | configModelSub =>
      rw [ClientStatus.opcode, clientAction_modelSubStatus, clientAction_modelSubStatus]
      simp only [ClientStatus.reads, statusReads, List.forall_mem_cons] at agree
      rw [agree.1]
      by_cases success : get data 0 = meshStatusSuccess
      · simp only [success, if_true, List.forall_mem_append, and_assoc] at agree
        rcases agree with ⟨_, element, addr, model⟩
        rw [getLe16_congr element, getLe16_congr addr, printModId_congr model]
      · rw [if_neg success, if_neg success]
  | _ => rfl

end Agreement

/-! ## Reads inside the message -/

theorem statusReads_inside_iff {data : List Byte} {fields : List Nat} {len : Nat} :
    (∀ index ∈ statusReads data fields, index < len) ↔
      1 ≤ len ∧ (get data 0 = meshStatusSuccess → ∀ index ∈ fields, index < len) := by
  rw [statusReads, List.forall_mem_cons]
  refine and_congr_right fun _ => ?_
  split
  next success => simp only [success, true_imp_iff]
  next failed => simp [failed]

/-- The last two bytes of a list are there. -/
theorem listReads_inside_iff {len : U16} :
    (∀ index ∈ listReads len, index < len.toNat) ↔
      len.toNat ≤ 5 ∨ len.toNat % 2 = 1 := by
  simp only [listReads, List.mem_flatMap, List.mem_range', le16Reads]
  constructor
  · intro inside
    by_contra even
    have last := inside (5 + 2 * ((len.toNat - 6) / 2) + 1)
      ⟨_, ⟨(len.toNat - 6) / 2, by omega, rfl⟩, by simp⟩
    omega
  · rintro odd index ⟨_, ⟨round, early, rfl⟩, member⟩
    have close : index ≤ 5 + 2 * round + 1 := by
      simp only [List.mem_cons, List.not_mem_nil, or_false] at member
      omega
    omega

theorem compositionReads_inside_iff {node : Db.MeshNode} {file : Json}
    {data : List Byte} {len : U16} (long : 16 ≤ len.toNat) :
    (∀ index ∈ ClientStatus.compositionReads node file data len, index < len.toNat) ↔
      Db.ElementsInside (get data) node.numEle len := by
  rcases Db.nodeParseComposition_appends node (get data) len with
    ⟨next, parsed, _, sameNumEle, _⟩
  rw [ClientStatus.compositionReads, Db.nodeParseCompositionNoting_eq, parsed]
  simp only [Option.map_some, List.forall_mem_append]
  rw [Db.range'_inside_iff (by omega), ← Nat.add_assoc, Db.elements_inside_iff long,
    and_iff_left_of_imp]
  intro inside
  split
  · exact List.forall_mem_nil _
  · next added => exact Db.stored_reads_inside long (sameNumEle ▸ inside) added

/-- A message, behind its opcode, has everything that is read of it. The statuses that
are taken with fixed lengths only always do. -/
def ClientStatus.Whole (node : Db.MeshNode) (status : ClientStatus) (data : List Byte)
    (len : U16) : Prop :=
  match status with
  | devComp => 16 ≤ len.toNat → Db.ElementsInside (get data) node.numEle len
  | configModelSub =>
      1 ≤ len.toNat ∧ (get data 0 = meshStatusSuccess → 7 ≤ len.toNat)
  | configModelSubList | modelAppList =>
      1 ≤ len.toNat ∧
        (get data 0 = meshStatusSuccess → 5 ≤ len.toNat ∧ len.toNat % 2 = 1)
  | configHeartbeatPub =>
      1 ≤ len.toNat ∧ (get data 0 = meshStatusSuccess → 10 ≤ len.toNat)
  | configHeartbeatSub =>
      1 ≤ len.toNat ∧ (get data 0 = meshStatusSuccess → 9 ≤ len.toNat)
  | nodeReset => 1 ≤ len.toNat
  | _ => True

theorem modIdReads_inside_iff {offset : Nat} {vid : Bool} {len : Nat} :
    (∀ index ∈ modIdReads offset vid, index < len) ↔
      offset + (if vid then 4 else 2) ≤ len := by
  cases vid with
  | false => simp [modIdReads, le16Reads]; omega
  | true => simp [modIdReads, le16Reads]; omega

theorem le16Reads_inside_iff {offset len : Nat} :
    (∀ index ∈ le16Reads offset, index < len) ↔ offset + 2 ≤ len := by
  simp only [le16Reads, List.forall_mem_cons, List.not_mem_nil, false_imp_iff,
    implies_true, and_true]
  omega

/-- For the list of a status whose elements start behind five bytes. -/
theorem statusList_inside_iff {data : List Byte} {len : U16} :
    (∀ index ∈ statusReads data (le16Reads 1 ++ le16Reads 3 ++ listReads len),
        index < len.toNat) ↔
      1 ≤ len.toNat ∧
        (get data 0 = meshStatusSuccess → 5 ≤ len.toNat ∧ len.toNat % 2 = 1) := by
  rw [statusReads_inside_iff]
  refine and_congr_right fun _ => imp_congr_right fun _ => ?_
  simp only [List.forall_mem_append, le16Reads_inside_iff, listReads_inside_iff]
  omega

/-- What is read of a message of one length only. -/
theorem fixedLength_inside {len expected : U16} {fields : List Nat}
    (inside : ∀ index ∈ fields, index < expected.toNat) :
    ∀ index ∈ (if len ≠ expected then [] else fields), index < len.toNat := by
  split
  next => exact List.forall_mem_nil _
  next same => exact not_not.mp same ▸ inside

/-- What is read of a message of two lengths, with a vendor model in the longer one. -/
theorem modelLength_inside {len short long : U16} {fields : Bool → List Nat}
    (different : short ≠ long)
    (sig : ∀ index ∈ fields false, index < short.toNat)
    (vendor : ∀ index ∈ fields true, index < long.toNat) :
    ∀ index ∈ (if len ≠ short ∧ len ≠ long then [] else fields (len = long)),
      index < len.toNat := by
  split
  next => exact List.forall_mem_nil _
  next either =>
    rcases Decidable.or_iff_not_not_and_not.mpr either with same | same
    · subst same
      rwa [decide_eq_false different]
    · subst same
      rwa [decide_eq_true rfl]

theorem ClientStatus.reads_inside_iff {node : Db.MeshNode} {file : Json}
    {status : ClientStatus} {data : List Byte} {len : U16} :
    (∀ index ∈ status.reads node file data len, index < len.toNat) ↔
      status.Whole node data len := by
  cases status with
  | devComp =>
      rw [reads, Whole]
      split
      next short => simp [short]
      next long =>
        rw [compositionReads_inside_iff (not_lt.mp long)]
        simp only [not_lt.mp long, true_imp_iff]
  | configModelSub =>
      rw [reads, Whole, statusReads_inside_iff]
      refine and_congr_right fun _ => imp_congr_right fun _ => ?_
      simp only [List.forall_mem_append, le16Reads_inside_iff, modIdReads_inside_iff]
      by_cases vendor : len = 9
      · subst vendor
        decide
      · simp only [vendor, decide_false, Bool.false_eq_true, if_false]
        omega
  | configModelSubList => exact statusList_inside_iff
  | modelAppList => exact statusList_inside_iff
  | configHeartbeatPub =>
      rw [reads, Whole, statusReads_inside_iff]
      refine and_congr_right fun _ => imp_congr_right fun _ => ?_
      simp only [List.forall_mem_append, List.forall_mem_cons, le16Reads_inside_iff]
      simp
      omega
  | configHeartbeatSub =>
      rw [reads, Whole, statusReads_inside_iff]
      refine and_congr_right fun _ => imp_congr_right fun _ => ?_
      simp only [List.forall_mem_append, List.forall_mem_cons, le16Reads_inside_iff]
      simp
      omega
  | nodeReset =>
      rw [reads, Whole, List.forall_mem_singleton]
      exact Iff.rfl
  | modelApp =>
      exact iff_of_true (@modelLength_inside len 7 9 (fun vid =>
        0 :: le16Reads 1 ++ le16Reads 3 ++ modIdReads 5 vid)
        (by decide) (by decide) (by decide)) trivial
  | configModelPub =>
      refine iff_of_true (@modelLength_inside len 12 14 (fun vid => statusReads data
        (le16Reads 1 ++ modIdReads 10 vid ++ le16Reads 3 ++ le16Reads 5 ++ [7, 8, 9]))
        (by decide) ?_ ?_) trivial
      · exact statusReads_inside_iff.mpr ⟨by decide, fun _ => by decide⟩
      · exact statusReads_inside_iff.mpr ⟨by decide, fun _ => by decide⟩
  | _ => exact iff_of_true (fixedLength_inside (by decide)) trivial

/-! ## The receive functions -/

/-- The bytes of the opcode are there when they are read. -/
theorem opcodeReads_inside (buf : List Byte) (sz : U16) :
    ∀ index ∈ opcodeReads buf sz, index < sz.toNat := by
  unfold opcodeReads
  split
  · exact List.forall_mem_nil _
  · next notEmpty =>
      have first : ∀ index ∈ [0], index < sz.toNat := by
        rw [List.forall_mem_singleton]
        omega
      split
      · split
        · exact first
        · next two => simp; omega
      · split
        · split
          · exact first
          · next three => simp; omega
        · exact first

theorem length_of_meshOpcodeGet {buf : List Byte} {sz : U16} {opcode : U32} {n : Nat}
    (found : meshOpcodeGet buf sz = some (opcode, n)) : n ≤ sz.toNat := by
  unfold meshOpcodeGet at found
  repeat' split at found
  all_goals cases found
  all_goals omega

/-- The data starts behind the opcode, and its length is counted from there. -/
theorem shifted_inside_iff {n : Nat} {len : U16} (inside : n ≤ len.toNat)
    (reads : List Nat) :
    (∀ index ∈ reads.map (n + ·), index < len.toNat) ↔
      ∀ index ∈ reads, index < (len - BitVec.ofNat 16 n).toNat := by
  have left : (len - BitVec.ofNat 16 n).toNat = len.toNat - n := by
    have bound := len.isLt
    rw [BitVec.toNat_sub, BitVec.toNat_ofNat, Nat.mod_eq_of_lt (by omega : n < 2 ^ 16)]
    omega
  rw [List.forall_mem_map, left]
  refine forall₂_congr fun index _ => ?_
  omega

/-- A status from the node itself has everything that is read of it. -/
def ClientMessageWhole (found : Option Db.MeshNode) (src : U16) (data : List Byte)
    (len : U16) : Prop :=
  ∀ opcode n node status, meshOpcodeGet data len = some (opcode, n) →
    found = some node → node.primary = src →
    ClientStatus.ofOpcode (opcode &&& ~~~opUnreliable) = some status →
    status.Whole node (data.drop n) (len - BitVec.ofNat 16 n)

theorem clientMsgRecvdReads_inside_iff {found : Option Db.MeshNode} {file : Json}
    {src : U16} {data : List Byte} {len : U16} :
    (∀ index ∈ clientMsgRecvdReads found file src data len, index < len.toNat) ↔
      ClientMessageWhole found src data len := by
  unfold clientMsgRecvdReads
  rw [List.forall_mem_append, and_iff_right (opcodeReads_inside data len)]
  constructor
  · intro inside opcode n node status isOpcode isNode primary isStatus
    rw [isOpcode, isNode] at inside
    simp only [primary, ne_eq, not_true_eq_false, if_false, isStatus] at inside
    rwa [shifted_inside_iff (length_of_meshOpcodeGet isOpcode),
      ClientStatus.reads_inside_iff] at inside
  · intro whole
    split
    next opcode n node isOpcode =>
      split
      · exact List.forall_mem_nil _
      · next primary =>
          split
          · exact List.forall_mem_nil _
          · next status isStatus =>
              rw [shifted_inside_iff (length_of_meshOpcodeGet isOpcode),
                ClientStatus.reads_inside_iff]
              exact whole opcode n node status isOpcode rfl (not_not.mp primary) isStatus
    next => exact List.forall_mem_nil _

/-- Both requests with data are taken with fixed lengths only. -/
theorem serverMsgRecvdReads_inside (hasLocalNode : Bool) (data : List Byte)
    (len : U16) :
    ∀ index ∈ serverMsgRecvdReads hasLocalNode data len, index < len.toNat := by
  rw [serverMsgRecvdReads, List.forall_mem_append]
  refine ⟨opcodeReads_inside data len, ?_⟩
  cases isOpcode : meshOpcodeGet data len with
  | none => exact List.forall_mem_nil _
  | some first =>
      rcases first with ⟨opcode, n⟩
      dsimp only
      split
      · rw [shifted_inside_iff (length_of_meshOpcodeGet isOpcode), serverReads]
        split
        · exact fixedLength_inside (by decide)
        · split
          · split
            next => exact List.forall_mem_nil _
            next either =>
              rcases Decidable.or_iff_not_not_and_not.mpr either with same | same
              · rw [same]
                decide
              · rw [same]
                decide
          · exact List.forall_mem_nil _
      · exact List.forall_mem_nil _

/-- The configuration models read inside a message exactly when it is not a status that
is cut off. -/
theorem configuration_reads_inside_iff (found : Option Db.MeshNode) (file : Json)
    (hasLocalNode : Bool) (src : U16) (data : List Byte) (len : U16) :
    ((∀ index ∈ clientMsgRecvdReads found file src data len, index < len.toNat) ∧
      ∀ index ∈ serverMsgRecvdReads hasLocalNode data len, index < len.toNat) ↔
      ClientMessageWhole found src data len := by
  rw [clientMsgRecvdReads_inside_iff,
    and_iff_left (serverMsgRecvdReads_inside hasLocalNode data len)]

/-- A subscription status without anything behind its opcode. -/
theorem configuration_reads_not_always_inside :
    ¬∀ (found : Option Db.MeshNode) (file : Json) (src : U16) (data : List Byte)
      (len : U16), ∀ index ∈ clientMsgRecvdReads found file src data len,
        index < len.toNat := by
  intro inside
  have whole := clientMsgRecvdReads_inside_iff.mp
    (inside (some { Db.MeshNode.new with primary := 1 }) .null 1 [0x80, 0x1f] 2)
  have some := (whole 0x801f 2 _ .configModelSub (by decide) rfl rfl (by decide)).1
  exact absurd some (by decide)

end Meshctl.Node
