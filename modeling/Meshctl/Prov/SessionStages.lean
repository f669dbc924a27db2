import Meshctl.Prov.DeviceReading

/-! # Stages of a session with a device -/

namespace Meshctl.Prov

open Bytes Net Crypto

/-! ## Assumptions -/

/-- What the results on exchanges rest on. Only the write of the invitation may
have to wait. -/
structure Sound (s : Setting) : Prop where
  sends : ∀ writes, s.before.writes < writes → s.env.gatt writes = .sent
  generated : s.env.makeKey = some s.keys
  shares : SharesSecret s.env s.device s.keys

/-- Why an exchange may fail: something is asked of the user, or of the session
what it cannot do. -/
inductive Trouble (s : Setting) : Prop where
  | method (needed : s.start.authMethod ≠ provNoOob)
  | key (outOfBand : s.start.pubKey ≠ 0)
  | value (shown : s.device.auth s.start ≠ Buffer.zero)
  | caps (level : Byte) (isLevel : s.Level level)
      (refused : acceptsCaps level s.device.caps = false)
  | full (noAddress : (netObtainAddress s.before.pool s.device.caps.numEle).1 = 0)
  | unknown (net : NetInfo) (isNetwork : s.Network net)
      (noKey : net.key s.netIdx = none)

/-! ## Stages -/

inductive SessionStage where
  | invited
  | keyAsked
  | keyAwaited
  | keyed
  | confirming
  | revealing
  | unsent
  | sent
  | done
  | failed (count : Nat)

/-- What holds in every stage. -/
structure Frame (s : Setting) (st : ProvState) : Prop where
  idle : ∀ cb, some cb ∉ st.acquiring
  wrote : s.before.writes < st.writes
  network : s.Network st.net
  level : s.Level st.secLevel

/-- A session that has sent the first messages and has not ended. -/
structure Live (s : Setting) (terms : Terms) (count : Nat) (st : ProvState) :
    Prop where
  frame : Frame s st
  node : st.node = s.before.node
  written : st.written = (s.messages terms).take count
  unended : st.outcomes = []

/-- The session has its own keys, and `key` for that of the device. -/
structure Started (s : Setting) (terms : Terms) (key : Buffer 64)
    (prov : ProvData) : Prop where
  netIdx : prov.netIdx = s.netIdx
  newAddr : prov.newAddr = terms.newAddr
  ephPrivKey : prov.ephPrivKey = s.keys.2
  confIn : prov.confIn = { s.confIn with devPubKey := key }
  randAuth : prov.randAuth = Buffer.zero

/-- The session has computed the secret. -/
structure Keyed (s : Setting) (terms : Terms) (prov : ProvData) : Prop where
  netIdx : prov.netIdx = s.netIdx
  newAddr : prov.newAddr = terms.newAddr
  confIn : prov.confIn = s.confIn
  ecdhSecret : prov.ecdhSecret = s.secret
  salt : prov.salt = confSalt s.env s.confIn
  confKey : prov.confKey = s.confKey
  plain : s.start.authMethod = provNoOob →
    authValue prov.randAuth = (Buffer.zero : AesBlock).bytes

/-- The data are those of a network that the session knew. -/
def Provides (s : Setting) (terms : Terms) : Prop :=
  ∃ net key, s.Network net ∧ net.key s.netIdx = some key ∧
    terms.data = key.bytes ++ be16 s.netIdx ++ [(net.flags s.netIdx).getD 0] ++
      be32 net.ivIndex ++ be16 terms.newAddr

inductive SessionIn (s : Setting) (terms : Terms) :
    SessionStage → ProvState → Prop where
  | invited {st : ProvState} (live : Live s terms 1 st)
      (isProv : st.prov = some (newSession s.netIdx))
      (pool : st.pool = s.before.pool) : SessionIn s terms .invited st
  | keyAsked {st : ProvState} {prov : ProvData} (live : Live s terms 2 st)
      (isProv : st.prov = some prov)
      (started : Started s terms Buffer.zero prov)
      (state : prov.state = provStart) (outOfBand : s.start.pubKey ≠ 0) :
      SessionIn s terms .keyAsked st
  | keyAwaited {st : ProvState} {prov : ProvData} (live : Live s terms 3 st)
      (isProv : st.prov = some prov)
      (started : Started s terms Buffer.zero prov)
      (state : prov.state = provPubKey) (overAir : s.start.pubKey = 0) :
      SessionIn s terms .keyAwaited st
  | keyed {st : ProvState} {prov : ProvData} (live : Live s terms 3 st)
      (isProv : st.prov = some prov) (keyed : Keyed s terms prov)
      (state : prov.state = provPubKey)
      (method : s.start.authMethod ≠ provNoOob) : SessionIn s terms .keyed st
  | confirming {st : ProvState} {prov : ProvData} (live : Live s terms 4 st)
      (isProv : st.prov = some prov) (keyed : Keyed s terms prov)
      (state : prov.state = provConfirm)
      (randAuth : prov.randAuth.bytes = terms.random.bytes ++ terms.auth.bytes) :
      SessionIn s terms .confirming st
  | revealing {st : ProvState} {prov : ProvData} (live : Live s terms 5 st)
      (isProv : st.prov = some prov) (keyed : Keyed s terms prov)
      (state : prov.state = provRandom)
      (randAuth : prov.randAuth.bytes = terms.random.bytes ++ terms.auth.bytes)
      (meshConf : prov.meshConf = s.conf s.device.random terms.devAuth) :
      SessionIn s terms .revealing st
  | unsent {st : ProvState} (live : Live s terms 5 st) (isProv : st.prov ≠ none)
      (trouble : Trouble s) : SessionIn s terms .unsent st
  | sent {st : ProvState} {prov : ProvData} (live : Live s terms 6 st)
      (isProv : st.prov = some prov) (state : prov.state = provData)
      (netIdx : prov.netIdx = s.netIdx) (newAddr : prov.newAddr = terms.newAddr)
      (caps : prov.confIn.caps = s.device.caps)
      (devKey : prov.devKey = deviceKey s.env s.secret (s.salt terms))
      (provides : Provides s terms) : SessionIn s terms .sent st
  | done {st : ProvState} (frame : Frame s st) (isProv : st.prov = none)
      (written : st.written = s.messages terms) (outcomes : st.outcomes = [0])
      (node : st.node =
        { numEle := s.device.caps.numEle, primary := terms.newAddr
          devKey := deviceKey s.env s.secret (s.salt terms)
          netKeys := addNetKey s.before.node.netKeys s.netIdx })
      (provides : Provides s terms) : SessionIn s terms .done st
  | failed {st : ProvState} {count : Nat} {status : Byte} (frame : Frame s st)
      (isProv : st.prov = none)
      (written : st.written = (s.messages terms).take count)
      (outcomes : st.outcomes = [status]) (failure : status ≠ 0)
      (node : st.node = s.before.node) (trouble : Trouble s) :
      SessionIn s terms (.failed count) st

/-- The callback that the agent may have in a stage. -/
def PromptFits (s : Setting) : SessionStage → Option InputCallback → Prop
  | .keyAsked, cb => cb ≠ some .provOutOobDone
  | .keyed, cb =>
      cb ≠ some .provOobPubKey ∧
        (cb ≠ none → s.start.authMethod ≠ provInputOob)
  | .done, _ => True
  | .failed _, _ => True
  | .invited, cb => cb = none
  | .keyAwaited, cb => cb = none
  | .confirming, cb => cb = none
  | .revealing, cb => cb = none
  | .unsent, cb => cb = none
  | .sent, cb => cb = none

/-- A request without a callback suits every stage. -/
theorem promptFits_none (s : Setting) (stage : SessionStage) : PromptFits s stage none := by
  cases stage <;> simp [PromptFits]

/-! ## Histories -/

@[simp] theorem written_note (st : ProvState) (event : ProvEvent) :
    (st.note event).written = st.written ++ event.written.toList := by
  rw [ProvState.written, ProvState.note, List.filterMap_append, ProvState.written]
  cases event <;> rfl

@[simp] theorem outcomes_note (st : ProvState) (event : ProvEvent) :
    (st.note event).outcomes = st.outcomes ++ event.outcome.toList := by
  rw [ProvState.outcomes, ProvState.note, List.filterMap_append, ProvState.outcomes]
  cases event <;> rfl

section Changes

variable {s : Setting} {terms : Terms} {count : Nat} {st : ProvState}

theorem Frame.of_same {after : ProvState} (frame : Frame s st)
    (acquiring : after.acquiring = st.acquiring) (writes : after.writes = st.writes)
    (net : after.net = st.net) (secLevel : after.secLevel = st.secLevel) :
    Frame s after := by
  constructor
  · rw [acquiring]
    exact frame.idle
  · rw [writes]
    exact frame.wrote
  · rw [net]
    exact frame.network
  · rw [secLevel]
    exact frame.level

theorem Live.of_same {after : ProvState} (live : Live s terms count st)
    (frame : Frame s after) (node : after.node = st.node)
    (history : after.history = st.history) : Live s terms count after := by
  constructor
  · exact frame
  · exact node.trans live.node
  · rw [ProvState.written, history]
    exact live.written
  · rw [ProvState.outcomes, history]
    exact live.unended

theorem Live.setProv (live : Live s terms count st) (prov : ProvData) :
    Live s terms count (st.setProv prov) :=
  live.of_same (live.frame.of_same rfl rfl rfl rfl) rfl rfl

theorem Live.setAgent (live : Live s terms count st) (agent : Agent) :
    Live s terms count { st with agent } :=
  live.of_same (live.frame.of_same rfl rfl rfl rfl) rfl rfl

theorem Live.setPool (live : Live s terms count st) (pool : List U32) :
    Live s terms count { st with pool } :=
  live.of_same (live.frame.of_same rfl rfl rfl rfl) rfl rfl

theorem Live.setRandoms (live : Live s terms count st) (randoms : Nat) :
    Live s terms count { st with randoms } :=
  live.of_same (live.frame.of_same rfl rfl rfl rfl) rfl rfl

theorem Live.setExchanges (live : Live s terms count st) (exchanges : Nat) :
    Live s terms count { st with exchanges } :=
  live.of_same (live.frame.of_same rfl rfl rfl rfl) rfl rfl

/-- An event that is neither a message nor the end. -/
theorem Live.note (live : Live s terms count st) (event : ProvEvent)
    (silent : event.written = none) (going : event.outcome = none) :
    Live s terms count (st.note event) := by
  constructor
  · exact live.frame.of_same rfl rfl rfl rfl
  · exact live.node
  · rw [written_note, silent, live.written]
    exact List.append_nil _
  · rw [outcomes_note, going, live.unended]
    rfl

theorem Live.started (live : Live s terms count st) {pdu : List Byte}
    (isNext : (s.messages terms)[count]? = some pdu) :
    Live s terms (count + 1) (started pdu st) := by
  have frame := live.frame
  constructor
  · exact ⟨frame.idle, Nat.lt_succ_of_lt frame.wrote, frame.network, frame.level⟩
  · exact live.node
  · rw [Prov.started, written_note, List.take_add_one, isNext]
    exact congrArg (· ++ [pdu]) live.written
  · rw [Prov.started, outcomes_note]
    exact (List.append_nil _).trans live.unended

theorem SessionIn.frame {stage : SessionStage} (reached : SessionIn s terms stage st) :
    Frame s st := by
  cases reached with
  | invited live => exact live.frame
  | keyAsked live => exact live.frame
  | keyAwaited live => exact live.frame
  | keyed live => exact live.frame
  | confirming live => exact live.frame
  | revealing live => exact live.frame
  | unsent live => exact live.frame
  | sent live => exact live.frame
  | done frame => exact frame
  | failed frame => exact frame

/-- A stage is about the session and its messages. -/
theorem SessionIn.of_same {stage : SessionStage} {after : ProvState}
    (reached : SessionIn s terms stage st) (frame : Frame s after)
    (prov : after.prov = st.prov) (node : after.node = st.node)
    (history : after.history = st.history) (pool : after.pool = st.pool) :
    SessionIn s terms stage after := by
  have written : after.written = st.written := by
    rw [ProvState.written, history, ProvState.written]
  have outcomes : after.outcomes = st.outcomes := by
    rw [ProvState.outcomes, history, ProvState.outcomes]
  cases reached with
  | invited live isProv isPool =>
      exact .invited (live.of_same frame node history) (prov.trans isProv)
        (pool.trans isPool)
  | keyAsked live isProv started state outOfBand =>
      exact .keyAsked (live.of_same frame node history) (prov.trans isProv) started
        state outOfBand
  | keyAwaited live isProv started state overAir =>
      exact .keyAwaited (live.of_same frame node history) (prov.trans isProv) started
        state overAir
  | keyed live isProv keyed state method =>
      exact .keyed (live.of_same frame node history) (prov.trans isProv) keyed state
        method
  | confirming live isProv keyed state randAuth =>
      exact .confirming (live.of_same frame node history) (prov.trans isProv) keyed
        state randAuth
  | revealing live isProv keyed state randAuth meshConf =>
      exact .revealing (live.of_same frame node history) (prov.trans isProv) keyed
        state randAuth meshConf
  | unsent live isProv trouble =>
      exact .unsent (live.of_same frame node history) (by rw [prov]; exact isProv)
        trouble
  | sent live isProv state netIdx newAddr caps devKey provides =>
      exact .sent (live.of_same frame node history) (prov.trans isProv) state netIdx
        newAddr caps devKey provides
  | done _ isProv isWritten isOutcomes isNode provides =>
      exact .done frame (prov.trans isProv) (written.trans isWritten)
        (outcomes.trans isOutcomes) (node.trans isNode) provides
  | failed _ isProv isWritten isOutcomes failure isNode trouble =>
      exact .failed frame (prov.trans isProv) (written.trans isWritten)
        (outcomes.trans isOutcomes) failure (node.trans isNode) trouble

theorem SessionIn.setAgent {stage : SessionStage} (reached : SessionIn s terms stage st)
    (agent : Agent) : SessionIn s terms stage { st with agent } :=
  reached.of_same (reached.frame.of_same rfl rfl rfl rfl) rfl rfl rfl rfl

/-- The first messages are settled from the start, and the last one comes with the
data. -/
theorem take_messages (terms' : Terms) (early : count ≤ 3 ∨ count ≤ 5 ∧
      terms'.random = terms.random ∧ terms'.auth = terms.auth) :
    (s.messages terms').take count = (s.messages terms).take count := by
  rcases early with few | ⟨some, random, auth⟩
  · have cut : ∀ terms, (s.messages terms).take count =
        ((s.messages terms).take 3).take count := by
      intro terms
      rw [List.take_take, Nat.min_eq_left few]
    rw [cut, cut terms]
    simp only [Setting.messages, List.take_succ_cons, List.take_zero]
  · have cut : ∀ terms, (s.messages terms).take count =
        ((s.messages terms).take 5).take count := by
      intro terms
      rw [List.take_take, Nat.min_eq_left some]
    rw [cut, cut terms]
    simp only [Setting.messages, List.take_succ_cons, List.take_zero, random, auth]

/-- Terms that are not settled yet. -/
theorem Live.resettle (live : Live s terms count st) (terms' : Terms)
    (early : count ≤ 3 ∨ count ≤ 5 ∧
      terms'.random = terms.random ∧ terms'.auth = terms.auth) :
    Live s terms' count st :=
  ⟨live.frame, live.node, live.written.trans (take_messages terms' early).symm,
    live.unended⟩

/-! ## Writing and ending -/

theorem gattWrite_sent (sound : Sound s) (frame : Frame s st) (pdu : List Byte)
    (cb : Option WriteCallback) (written : ProvState → ProvState) :
    gattWrite s.env pdu cb written st = (true, written (started pdu st)) := by
  rw [gattWrite, sound.sends _ frame.wrote]
  rfl

/-- A session that is given up. -/
theorem Live.failed {status : Byte} (live : Live s terms count st)
    (isProv : st.prov ≠ none) (failure : status ≠ 0) (trouble : Trouble s) :
    SessionIn s terms (.failed count) (provComplete status st).2 := by
  rw [provComplete]
  cases isSome : st.prov with
  | none => exact absurd isSome isProv
  | some prov =>
      dsimp only
      refine .failed (live.frame.of_same rfl rfl rfl rfl) rfl ?_ ?_ failure ?_ trouble
      · rw [written_note]
        exact (List.append_nil _).trans live.written
      · rw [outcomes_note]
        exact congrArg (· ++ [status]) live.unended
      · exact (if_neg failure).trans live.node

theorem Live.aborted (live : Live s terms count st) (isProv : st.prov ≠ none)
    (trouble : Trouble s) : SessionIn s terms (.failed count) (provAbort st).2 :=
  live.failed isProv (by decide) trouble

end Changes

end Meshctl.Prov
