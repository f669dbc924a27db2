import Meshctl.Net.Beacon

/-! # The whole whitelist is sent

The destinations are put into the messages of the proxy filter, up to five of them in
each.
-/

namespace Meshctl.Net

open Bytes

/-! ## Messages -/

/-- What is handed to `net_ctl_msg_send` for the destinations, when `white` has been
collected already. -/
def whitefilterMessages : List MeshDestination → List Byte → List (List Byte)
  | [], white => if white.isEmpty then [] else [white]
  | dest :: rest, white =>
      let white := (if white.isEmpty then [filterAdd] else white) ++ be16 dest.dst
      if 12 - 2 < white.length then white :: whitefilterMessages rest []
      else whitefilterMessages rest white

def setupWhitelistMessages (dests : List MeshDestination) : List (List Byte) :=
  [filterSetup, whitelistFilter] :: whitefilterMessages dests []

/-- The contents of the array whenever a destination has been put into it. -/
def whiteContents : List MeshDestination → List Byte → List (List Byte)
  | [], _ => []
  | dest :: rest, white =>
      let white := (if white.isEmpty then [filterAdd] else white) ++ be16 dest.dst
      white ::
        if 12 - 2 < white.length then whiteContents rest [] else whiteContents rest white

/-- Messages that are sent one after the other, and accepted. -/
inductive Accepted (env : NetEnv) : NetState → List (List Byte) → NetState → Prop
  | nil (st) : Accepted env st [] st
  | cons {st next last white rest} :
      netCtlMsgSend env 0 0 0 white (BitVec.ofNat 16 white.length) st = (true, next) →
      Accepted env next rest last →
      Accepted env st (white :: rest) last

/-! ## Chunks of addresses -/

def filterAddMessage (addresses : List U16) : List Byte :=
  filterAdd :: addresses.flatMap be16

theorem length_filterAddMessage (addresses : List U16) :
    (filterAddMessage addresses).length = 1 + 2 * addresses.length := by
  induction addresses with
  | nil => rfl
  | cons address addresses induction =>
      rw [filterAddMessage, List.length_cons] at induction ⊢
      rw [List.flatMap_cons, List.length_append, length_be16, List.length_cons]
      omega

/-- What has been collected of addresses that no message was sent for. -/
def collectedAddresses (addresses : List U16) : List Byte :=
  if addresses.isEmpty then [] else filterAddMessage addresses

theorem collectedAddresses_put (addresses : List U16) (address : U16) :
    (if (collectedAddresses addresses).isEmpty then [filterAdd]
      else collectedAddresses addresses) ++ be16 address =
      filterAddMessage (addresses ++ [address]) := by
  cases addresses with
  | nil => rfl
  | cons first rest =>
      rw [filterAddMessage, List.flatMap_append]
      simp [collectedAddresses, filterAddMessage]

/-- The addresses of the destinations, cut into the messages. -/
theorem whitefilterMessages_chunks (dests : List MeshDestination) {collected : List U16}
    (few : collected.length ≤ 4) :
    ∃ chunks : List (List U16),
      whitefilterMessages dests (collectedAddresses collected) =
        chunks.map filterAddMessage ∧
      chunks.flatten = collected ++ dests.map MeshDestination.dst ∧
      ∀ chunk ∈ chunks, chunk ≠ [] ∧ chunk.length ≤ 5 := by
  induction dests generalizing collected with
  | nil =>
      cases collected with
      | nil => exact ⟨[], rfl, rfl, List.forall_mem_nil _⟩
      | cons first rest =>
          refine ⟨[first :: rest], rfl, by simp, ?_⟩
          rw [List.forall_mem_singleton]
          exact ⟨List.cons_ne_nil _ _, Nat.le_succ_of_le few⟩
  | cons dest dests induction =>
      rw [whitefilterMessages, collectedAddresses_put]
      have length := length_filterAddMessage (collected ++ [dest.dst])
      rw [List.length_append, List.length_singleton] at length
      split
      next =>
        rcases @induction [] (Nat.zero_le _) with ⟨chunks, messages, addresses, sizes⟩
        refine ⟨(collected ++ [dest.dst]) :: chunks, ?_, ?_, ?_⟩
        · rw [List.map_cons, ← messages]
          rfl
        · rw [List.flatten_cons, addresses, List.map_cons, List.nil_append,
            ← List.append_cons]
        · rw [List.forall_mem_cons]
          refine ⟨⟨by simp, ?_⟩, sizes⟩
          rw [List.length_append, List.length_singleton]
          omega
      next notFull =>
        have same : collectedAddresses (collected ++ [dest.dst]) =
            filterAddMessage (collected ++ [dest.dst]) := by
          simp [collectedAddresses]
        have still : (collected ++ [dest.dst]).length ≤ 4 := by
          rw [List.length_append, List.length_singleton]
          omega
        rcases induction still with ⟨chunks, messages, addresses, sizes⟩
        refine ⟨chunks, same ▸ messages, ?_, sizes⟩
        rw [addresses, List.map_cons, ← List.append_cons]

/-- The array of twelve bytes is never full before a destination is put into it. -/
theorem length_whiteContents (dests : List MeshDestination) {white : List Byte}
    (short : white.length ≤ 10) : ∀ content ∈ whiteContents dests white,
      content.length ≤ 12 := by
  induction dests generalizing white with
  | nil => exact List.forall_mem_nil _
  | cons dest dests induction =>
      rw [whiteContents]
      generalize isCollected : (if white.isEmpty then [filterAdd] else white) ++
        be16 dest.dst = collected
      have length : collected.length ≤ 12 := by
        rw [← isCollected, List.length_append, length_be16]
        split
        · decide
        · omega
      rw [List.forall_mem_cons]
      refine ⟨length, ?_⟩
      split
      next => exact induction (Nat.zero_le _)
      next notFull => exact induction (not_lt.mp notFull)

/-! ## Sending them -/

section Sending

variable {env : NetEnv}

/-- What is left behind the loop is one more message. -/
theorem whitefilterAdd_eq (dests : List MeshDestination) (white : List Byte)
    (st : NetState) :
    (if (whitefilterAdd env dests white st).1.isEmpty then
        (whitefilterAdd env dests white st).2
      else
        sendWhite env (whitefilterAdd env dests white st).1
          (whitefilterAdd env dests white st).2) =
      (whitefilterMessages dests white).foldl (fun st white => sendWhite env white st)
        st := by
  induction dests generalizing white st with
  | nil =>
      rw [whitefilterMessages]
      change (if white.isEmpty then st else sendWhite env white st) = _
      split <;> rfl
  | cons dest dests induction =>
      rw [whitefilterMessages, whitefilterAdd]
      generalize (if white.isEmpty then [filterAdd] else white) ++
        be16 dest.dst = collected
      split
      · exact induction [] _
      · exact induction collected st

theorem setupWhitelist_eq (st : NetState) :
    setupWhitelist env st =
      (whitefilterMessages (sendWhite env [filterSetup, whitelistFilter] st).dest
        []).foldl (fun st white => sendWhite env white st)
          (sendWhite env [filterSetup, whitelistFilter] st) :=
  whitefilterAdd_eq _ [] _

/-- What `net_ctl_msg_send` asks of a message. -/
def Acceptable (white : List Byte) : Prop :=
  white.length ≤ 12 ∧ get white 0 &&& 0x80 = 0

theorem setupMessage_acceptable : Acceptable [filterSetup, whitelistFilter] :=
  ⟨by decide, (by decide : filterSetup &&& 0x80 = 0)⟩

theorem whitefilterMessages_acceptable (dests : List MeshDestination) :
    ∀ white ∈ whitefilterMessages dests [], white ≠ [] ∧ Acceptable white := by
  rcases @whitefilterMessages_chunks dests [] (Nat.zero_le _) with
    ⟨chunks, messages, _, sizes⟩
  change whitefilterMessages dests [] = _ at messages
  rw [messages, List.forall_mem_map]
  intro chunk member
  have few := (sizes chunk member).2
  refine ⟨List.cons_ne_nil _ _, ?_, (by decide : filterAdd &&& 0x80 = 0)⟩
  rw [length_filterAddMessage]
  omega

/-- A relation between states that every message keeps is kept by all of them. -/
theorem setupWhitelist_relates {Related : NetState → NetState → Prop}
    (refl : ∀ st, Related st st)
    (trans : ∀ {first second third}, Related first second → Related second third →
      Related first third)
    (sends : ∀ white st, white ≠ [] → Acceptable white →
      Related st (sendWhite env white st))
    (st : NetState) : Related st (setupWhitelist env st) := by
  have setup := sends [filterSetup, whitelistFilter] st (List.cons_ne_nil _ _)
    setupMessage_acceptable
  have added : ∀ messages : List (List Byte),
      (∀ white ∈ messages, white ≠ [] ∧ Acceptable white) → ∀ st, Related st
        (messages.foldl (fun st white => sendWhite env white st) st) := by
    intro messages
    induction messages with
    | nil => exact fun _ st => refl st
    | cons white messages induction =>
        intro acceptable st
        rw [List.forall_mem_cons] at acceptable
        exact trans (sends white st acceptable.1.1 acceptable.1.2)
          (induction acceptable.2 _)
  rw [setupWhitelist_eq]
  exact trans setup (added _ (whitefilterMessages_acceptable _) _)

/-- The local node is registered and has an address. -/
def HasLocalAddress (st : NetState) : Prop :=
  ∃ node, st.nodes.localRecord = some node ∧ node.primary ≠ 0

theorem sendWhite_accepted {st : NetState} (hasAddress : HasLocalAddress st)
    {white : List Byte} (acceptable : Acceptable white) :
    netCtlMsgSend env 0 0 0 white (BitVec.ofNat 16 white.length) st =
      (true, sendWhite env white st) := by
  rcases hasAddress with ⟨node, isLocal, primary⟩
  rcases acceptable with ⟨short, first⟩
  have notLong : ¬(12 < BitVec.ofNat 16 white.length ∨ get white 0 &&& 0x80 ≠ 0) := by
    rintro (long | bit)
    · rw [BitVec.lt_def, BitVec.toNat_ofNat] at long
      change 12 < _ at long
      omega
    · exact bit first
  refine Prod.ext ?_ rfl
  rw [netCtlMsgSend, isLocal]
  dsimp only
  rw [if_neg notLong, if_pos rfl, if_neg primary]

/-- Sending touches neither the destinations nor the nodes. -/
theorem sendWhite_frame (white : List Byte) (st : NetState) :
    (sendWhite env white st).dest = st.dest ∧
      (sendWhite env white st).nodes = st.nodes := by
  have run : TxRun (IsControl st.transmitIv) st (sendWhite env white st) :=
    netCtlMsgSend_run _ _ _ _ _ st
  rcases run.frame with ⟨_, _, _, _, _, _, _, _, equal⟩
  rw [equal]
  exact ⟨rfl, rfl⟩

theorem HasLocalAddress.sendWhite {st : NetState} (hasAddress : HasLocalAddress st)
    (white : List Byte) : HasLocalAddress (sendWhite env white st) := by
  rw [HasLocalAddress, (sendWhite_frame white st).2]
  exact hasAddress

theorem foldl_sendWhite_accepted {messages : List (List Byte)} {st : NetState}
    (hasAddress : HasLocalAddress st)
    (acceptable : ∀ white ∈ messages, Acceptable white) :
    Accepted env st messages
      (messages.foldl (fun st white => sendWhite env white st) st) := by
  induction messages generalizing st with
  | nil => exact Accepted.nil st
  | cons white messages induction =>
      rw [List.forall_mem_cons] at acceptable
      exact Accepted.cons (sendWhite_accepted hasAddress acceptable.1)
        (induction (hasAddress.sendWhite white) acceptable.2)

/-- The whitelist has reached `net_ctl_msg_send` as a whole: behind the setup of the
filter, the destinations in their order, cut into messages that add them. -/
structure WhitelistSent (env : NetEnv) (st : NetState) : Prop where
  accepted : Accepted env st (setupWhitelistMessages st.dest) (setupWhitelist env st)
  short : ∀ white ∈ setupWhitelistMessages st.dest, white.length ≤ 12
  addresses : ∃ chunks : List (List U16),
    setupWhitelistMessages st.dest =
      [filterSetup, whitelistFilter] :: chunks.map filterAddMessage ∧
    chunks.flatten = st.dest.map MeshDestination.dst
  inArray : ∀ content ∈ whiteContents st.dest [], content.length ≤ 12

theorem whitelist_sent (env : NetEnv) (st : NetState) (hasAddress : HasLocalAddress st) :
    WhitelistSent env st := by
  rcases @whitefilterMessages_chunks st.dest [] (Nat.zero_le _) with
    ⟨chunks, messages, addresses, _⟩
  have adds : ∀ white ∈ whitefilterMessages st.dest [], Acceptable white :=
    fun white member => (whitefilterMessages_acceptable st.dest white member).2
  refine ⟨?_, ?_, ⟨chunks, congrArg _ messages, addresses⟩,
    length_whiteContents _ (Nat.zero_le _)⟩
  · rw [setupWhitelist_eq, (sendWhite_frame _ st).1]
    exact Accepted.cons (sendWhite_accepted hasAddress setupMessage_acceptable)
      (foldl_sendWhite_accepted (hasAddress.sendWhite _) adds)
  · rw [setupWhitelistMessages, List.forall_mem_cons]
    exact ⟨setupMessage_acceptable.1, fun white member => (adds white member).1⟩

/-- Seven destinations take two messages. -/
def sevenDestinations : List MeshDestination :=
  (List.range 7).map fun index => { dst := BitVec.ofNat 16 (0xc000 + index), cnt := 1 }

theorem whitelist_sent_openNode :
    WhitelistSent plainEnv { openNode with dest := sevenDestinations } :=
  whitelist_sent plainEnv { openNode with dest := sevenDestinations }
    ⟨_, rfl, by decide⟩

end Sending

end Meshctl.Net
