import Meshctl.Prov.Confirmation

/-! # What the end of a session reports -/

namespace Meshctl.Prov

open Bytes Net Crypto Execution

abbrev ProvEntry := Entry ProvState ProvInput ProvObservation

/-- What a step added to the history. -/
def newEvents (entry : ProvEntry) : List ProvEvent :=
  entry.after.history.drop entry.before.history.length

/-! ## Sound ends -/

/-- The provisioning data were handed over, encrypted. -/
def DataSent (env : ProvEnv) (history : List ProvEvent) : Prop :=
  ∃ prov net key, .wrote (encryptedData env prov net key) ∈ history

/-- The device completed the session after the data were sent, and the node gets
what provisioning gives it. -/
def Finishes (env : ProvEnv) (entry : ProvEntry) : Prop :=
  ∃ prov buf len, entry.before.prov = some prov ∧ prov.state = provData ∧
    DataSent env entry.before.history ∧ entry.input = .pdu buf len ∧
    payload buf len = [provCompleted] ∧
    entry.after.node =
      { numEle := prov.confIn.caps.numEle, primary := prov.newAddr
        devKey := prov.devKey
        netKeys := addNetKey entry.before.node.netKeys prov.netIdx }

/-- Success is reported for a finished handshake only. Without success the node
stays as it is, and a session does not end without a report. -/
structure EndsSoundly (env : ProvEnv) (entry : ProvEntry) : Prop where
  succeeds : .completed 0 ∈ newEvents entry → Finishes env entry
  fails : .completed 0 ∉ newEvents entry → entry.after.node = entry.before.node
  reports : entry.before.prov ≠ none → entry.after.prov = none →
    ∃ status, .completed status ∈ newEvents entry

/-- The device does not report a failure with the code for success. -/
def FailsWithCode (entry : ProvEntry) : Prop :=
  ∀ prov buf len, entry.before.prov = some prov → entry.input = .pdu buf len →
    payload buf len ≠ [provFailed, 0]

/-! ## Steps without success -/

structure Unfinished (before after : ProvState) : Prop where
  node : after.node = before.node
  history : ∃ events, after.history = before.history ++ events ∧
    .completed 0 ∉ events ∧
    (before.prov ≠ none → after.prov = none →
      ∃ status, .completed status ∈ events)

theorem Keeps.unfinished {before after : ProvState} (keeps : Keeps before after) :
    Unfinished before after := by
  rcases keeps.history with ⟨events, isHistory, ordinary, reported⟩
  refine ⟨keeps.node, events, isHistory, ?_, reported⟩
  exact fun member => absurd rfl (ordinary _ member)

/-- Up to here the session goes on. -/
theorem Unfinished.of_live {before after : ProvState} {prov : ProvData}
    (node : after.node = before.node) (history : after.history = before.history)
    (live : after.prov = some prov) : Unfinished before after := by
  refine ⟨node, [], history.trans (List.append_nil _).symm, by simp, ?_⟩
  intro _ ended
  rw [live] at ended
  cases ended

theorem setProv_unfinished (prov : ProvData) (st : ProvState) :
    Unfinished st (st.setProv prov) := .of_live rfl rfl rfl

theorem note_unfinished {event : ProvEvent} (other : event ≠ .completed 0)
    (st : ProvState) : Unfinished st (st.note event) := by
  refine ⟨rfl, [event], rfl, ?_, fun live ended => absurd ended live⟩
  exact fun member => other (List.mem_singleton.mp member).symm

theorem Unfinished.trans {first second third : ProvState}
    (left : Unfinished first second) (right : Unfinished second third) :
    Unfinished first third := by
  rcases left.history with ⟨events, isHistory, silent, reported⟩
  rcases right.history with ⟨later, isLater, silent', reported'⟩
  refine ⟨right.node.trans left.node, events ++ later, ?_, ?_, ?_⟩
  · rw [isLater, isHistory, List.append_assoc]
  · intro member
    rcases List.mem_append.mp member with inEvents | inLater
    · exact silent inEvents
    · exact silent' inLater
  · intro live ended
    by_cases middle : second.prov = none
    · rcases reported live middle with ⟨status, inEvents⟩
      exact ⟨status, List.mem_append_left later inEvents⟩
    · rcases reported' middle ended with ⟨status, inLater⟩
      exact ⟨status, List.mem_append_right events inLater⟩

theorem newEvents_eq {entry : ProvEntry} {events : List ProvEvent}
    (history : entry.after.history = entry.before.history ++ events) :
    newEvents entry = events := by
  rw [newEvents, history]
  exact List.drop_left

theorem Unfinished.endsSoundly {env : ProvEnv} {entry : ProvEntry}
    (unfinished : Unfinished entry.before entry.after) :
    EndsSoundly env entry := by
  rcases unfinished.history with ⟨events, isHistory, silent, reported⟩
  have isNew := newEvents_eq isHistory
  constructor
  · rw [isNew]
    exact fun succeeded => absurd succeeded silent
  · exact fun _ => unfinished.node
  · rw [isNew]
    exact reported

/-! ## PDUs -/

section Steps

variable {env : ProvEnv}

theorem provSendProvData_unfinished (env : ProvEnv) (st : ProvState) :
    Unfinished st (provSendProvData env st).2 := by
  rw [provSendProvData]
  cases live : st.prov with
  | none => exact (Keeps.refl st).unfinished
  | some prov =>
      dsimp only
      have keyed := setProv_unfinished
        { prov with devKey := deviceKey env prov.ecdhSecret prov.salt } st
      have called := keyed.trans (@note_unfinished
        (.sendProvData prov.confKey prov.randAuth) (by simp) _)
      split
      next => exact called
      next =>
        refine Unfinished.trans ?_ (gattWriteOnly_keeps env _ _).unfinished
        exact called.trans (setProv_unfinished _ _)

/-- A PDU brings success only when the device completes the session, or when it
reports a failure without a code. -/
theorem Handled.unfinished {prov : ProvData} {st next : ProvState}
    {pdu : List Byte} (handled : Handled env prov st pdu next)
    (live : st.prov = some prov) :
    Unfinished st next ∨ next = (provComplete 0 st).2 ∧
      (pdu = [provFailed, 0] ∨
        pdu = [provCompleted] ∧ prov.state = provData) := by
  cases handled.effect live with
  | ended status isNext success =>
      rw [isNext]
      by_cases succeeds : status = 0
      · subst succeeds
        exact Or.inr ⟨rfl, success rfl⟩
      · exact Or.inl (provComplete_keeps succeeds st).unfinished
  | early begun begins keeps =>
      rcases begins.session with ⟨prov', live', _⟩
      have begin := Unfinished.of_live begins.node begins.history live'
      exact Or.inl (begin.trans keeps.unfinished)
  | confirmed conf isPdu isNext =>
      rw [isNext]
      have answered := (gattWriteOnly_keeps env ([proxyProvisioningPdu,
        provRandom] ++ slice prov.randAuth.bytes 0 16) (st.setProv
          { prov with meshConf := conf, state := provRandom })).unfinished
      exact Or.inl ((setProv_unfinished _ st).trans answered)
  | revealed random salt isPdu waits verified isNext =>
      rw [isNext]
      have called := provSendProvData_unfinished env (st.setProv
        { prov with salt, randAuth := prov.randAuth.copy 0 random.bytes })
      exact Or.inl ((setProv_unfinished _ st).trans called)

/-! ## State `PROV_DATA` -/

/-- The state says that the data were sent. -/
def SentInState (env : ProvEnv) (st : ProvState) : Prop :=
  ∀ prov, st.prov = some prov → prov.state = provData → DataSent env st.history

theorem DataSent.append {history : List ProvEvent} (sent : DataSent env history)
    (events : List ProvEvent) : DataSent env (history ++ events) := by
  rcases sent with ⟨prov, net, key, member⟩
  exact ⟨prov, net, key, List.mem_append_left events member⟩

theorem SentInState.of_state {st : ProvState} {prov : ProvData}
    (live : st.prov = some prov) (other : prov.state ≠ provData) :
    SentInState env st := by
  intro prov' live' waits
  rw [live] at live'
  rw [← Option.some_inj.mp live'] at waits
  exact absurd waits other

theorem SentInState.of_ended {st : ProvState} (ended : st.prov = none) :
    SentInState env st := by
  intro prov live
  rw [ended] at live
  cases live

theorem SentInState.keeps {before after : ProvState}
    (sent : SentInState env before) (keeps : Keeps before after) :
    SentInState env after := by
  intro prov' live' waits
  rcases keeps.history with ⟨events, added⟩
  rcases keeps.session prov' live' with ⟨prov, live, kept⟩
  have waited : prov.state = prov'.state := by
    apply kept.same_state
    rw [waits]
    decide
  rw [added.history]
  exact (sent prov live (waited.trans waits)).append events

theorem provSendProvData_sent {st : ProvState} {prov : ProvData}
    (live : st.prov = some prov) (waits : prov.state = provRandom) :
    SentInState env (provSendProvData env st).2 := by
  rw [provSendProvData, live]
  dsimp only
  split
  next =>
    refine .of_state rfl ?_
    change prov.state ≠ provData
    rw [waits]
    decide
  next key _ =>
    rcases @gattWriteOnly_note env _ _ with ⟨_, isHistory⟩
    intro _ _ _
    rw [isHistory]
    exact ⟨prov, _, key, List.mem_append_right _ List.mem_cons_self⟩

theorem Handled.sent {prov : ProvData} {st next : ProvState} {pdu : List Byte}
    (handled : Handled env prov st pdu next) (live : st.prov = some prov) :
    SentInState env next := by
  cases handled.effect live with
  | ended status isNext =>
      rw [isNext]
      exact .of_ended (provComplete_ends live status).1
  | early begun begins keeps =>
      rcases begins.session with ⟨prov', live', early⟩
      refine SentInState.keeps (.of_state live' ?_) keeps
      intro waits
      rw [waits] at early
      exact absurd early (by decide)
  | confirmed conf isPdu isNext =>
      rw [isNext]
      refine SentInState.keeps (.of_state rfl ?_) (gattWriteOnly_keeps env _ _)
      exact (by decide : provRandom ≠ provData)
  | revealed random salt isPdu waits verified isNext =>
      rw [isNext]
      exact provSendProvData_sent rfl waits

theorem provStep_sent (st : ProvState) (input : ProvInput)
    (sent : SentInState env st) :
    SentInState env (provStep env st input).nextState := by
  cases input with
  | pdu buf len =>
      rcases provDataReady_cases env buf len st with same | ⟨prov, live, handled⟩
      · change SentInState env (provDataReady env buf len st).2
        rw [same]
        exact sent
      · exact handled.sent live
  | _ => exact sent.keeps (provStep_keeps env st _ (by simp))

theorem openedSession_sent (netIdx : U16) (st : ProvState) :
    SentInState env (openedSession env netIdx st) := by
  rw [openedSession, provOpen]
  dsimp only
  rcases @gattWriteOnly_note env _ _ with ⟨sameProv, _⟩
  exact .of_state sameProv (show provInvite ≠ provData by decide)

/-! ## The ends of sessions -/

/-- A failure with the code for success is taken for success. -/
theorem provDataReady_failed {prov : ProvData} {st : ProvState}
    (live : st.prov = some prov) {buf : List Byte} {len : Byte}
    (isFailed : payload buf len = [provFailed, 0]) :
    (provDataReady env buf len st).2 =
      (provComplete 0 (st.note (.received [provFailed, 0]))).2 := by
  have sized : (payload buf len).length = len.toNat - 1 := length_slice _ _ _
  rw [isFailed] at sized
  have long : ¬len.toNat < 2 := by
    change 2 = _ at sized
    omega
  rw [provDataReady, live]
  dsimp only
  rw [if_neg long, isFailed]
  rfl

/-- The end that the device asked for when everything was sent. -/
theorem completed_endsSoundly {prov : ProvData} {st : ProvState}
    {buf : List Byte} {len : Byte} (sent : SentInState env st)
    (live : st.prov = some prov) (waits : prov.state = provData)
    (isCompleted : payload buf len = [provCompleted])
    (ends : (provDataReady env buf len st).2 =
      (provComplete 0 (st.note (.received (payload buf len)))).2) :
    EndsSoundly env ((provModel env).entry st (.pdu buf len)) := by
  have after : ((provModel env).entry st (.pdu buf len)).after =
      (provComplete 0 (st.note (.received (payload buf len)))).2 := ends
  have noted : (st.note (.received (payload buf len))).prov = some prov := live
  rw [provComplete, noted] at after
  have isNew : newEvents ((provModel env).entry st (.pdu buf len)) =
      [.received (payload buf len), .completed 0] := by
    apply newEvents_eq
    rw [after]
    exact List.append_assoc _ _ _
  constructor
  · intro _
    refine ⟨prov, buf, len, live, waits, sent prov live waits, rfl, isCompleted, ?_⟩
    rw [after]
    rfl
  · rw [isNew]
    intro silent
    exact absurd (by simp) silent
  · rw [isNew]
    intro _ _
    exact ⟨0, by simp⟩

/-- Taken for success, the failure is not a sound end. -/
theorem failed_not_endsSoundly {prov : ProvData} {st : ProvState}
    {buf : List Byte} {len : Byte} (live : st.prov = some prov)
    (isFailed : payload buf len = [provFailed, 0]) :
    ¬EndsSoundly env ((provModel env).entry st (.pdu buf len)) := by
  intro sound
  have after : ((provModel env).entry st (.pdu buf len)).after =
      (provComplete 0 (st.note (.received [provFailed, 0]))).2 :=
    provDataReady_failed live isFailed
  have noted : (st.note (.received [provFailed, 0])).prov = some prov := live
  rw [provComplete, noted] at after
  have isNew : newEvents ((provModel env).entry st (.pdu buf len)) =
      [.received [provFailed, 0], .completed 0] := by
    apply newEvents_eq
    rw [after]
    exact List.append_assoc _ _ _
  have succeeded : .completed 0 ∈
      newEvents ((provModel env).entry st (.pdu buf len)) := by simp [isNew]
  rcases sound.succeeds succeeded with ⟨_, buf', len', _, _, _, same, isCompleted, _⟩
  cases same
  rw [isFailed] at isCompleted
  exact absurd isCompleted (by decide)

theorem endsSoundly_iff (st : ProvState) (input : ProvInput)
    (sent : SentInState env st) :
    EndsSoundly env ((provModel env).entry st input) ↔
      FailsWithCode ((provModel env).entry st input) := by
  constructor
  · intro sound prov buf len live isInput isFailed
    change input = .pdu buf len at isInput
    subst isInput
    exact failed_not_endsSoundly live isFailed sound
  · intro withCode
    cases input with
    | pdu buf len =>
        rcases provDataReady_cases env buf len st with same | ⟨prov, live, handled⟩
        · apply Unfinished.endsSoundly
          change Unfinished st (provDataReady env buf len st).2
          rw [same]
          exact (Keeps.refl st).unfinished
        · rcases handled.unfinished live with
            unfinished | ⟨ends, isFailed | ⟨isCompleted, waits⟩⟩
          · apply Unfinished.endsSoundly
            exact (note_unfinished (by simp) st).trans unfinished
          · exact absurd isFailed (withCode prov buf len live rfl)
          · exact completed_endsSoundly sent live waits isCompleted ends
    | _ => exact (provStep_keeps env st _ (by simp)).unfinished.endsSoundly

end Steps

/-- In a run of a session every end is sound if and only if the device never
reports a failure with the code for success. -/
theorem sessions_end_soundly_iff (env : ProvEnv) (netIdx : U16) (st : ProvState)
    (inputs : List ProvInput) :
    (∀ entry ∈ (provModel env).trace (openedSession env netIdx st) inputs,
        EndsSoundly env entry) ↔
      ∀ entry ∈ (provModel env).trace (openedSession env netIdx st) inputs,
        FailsWithCode entry :=
  (provModel env).forall_trace_iff (SentInState env) FailsWithCode
    (EndsSoundly env) (fun st input sent _ => provStep_sent st input sent)
    endsSoundly_iff inputs (openedSession_sent netIdx st)

/-! ### A failure that is taken for success -/

/-- Writes succeed at once, every key is accepted and leaves the secret as it
is, and an authentication code is the sum of the key and two blocks. -/
def plainProvEnv : ProvEnv where
  gatt _ := .sent
  random index := BitVec.ofNat 8 index
  makeKey := none
  ecdhSharedSecret _ _ _ secret := (true, secret)
  aesCmac key text :=
    key.xor (Buffer.ofFn fun index => get text index ^^^ get text (16 + index))
  aes _ block := block
  stale := Buffer.zero

/-- A node before provisioning, and the addresses that it can be given. -/
def plainProvState : ProvState where
  prov := none
  node := { numEle := 0, primary := 0, devKey := Buffer.zero, netKeys := [] }
  agent := { pending := emptyRequest, prompt := none }
  acquiring := []
  pool := [packRange 0x0100 0x7fff]
  net := { key := fun _ => some Buffer.zero, flags := fun _ => some 0, ivIndex := 5 }
  secLevel := meshProvSecMed
  writes := 0
  randoms := 0
  exchanges := 0
  history := []

theorem failure_taken_for_success :
    ¬∀ (env : ProvEnv) (netIdx : U16) (st : ProvState) (inputs : List ProvInput),
      ∀ entry ∈ (provModel env).trace (openedSession env netIdx st) inputs,
        EndsSoundly env entry := by
  intro always
  have sound := always plainProvEnv 0 plainProvState
    [.pdu [proxyProvisioningPdu, provFailed, 0] 3] _ List.mem_cons_self
  have isFailed : payload [proxyProvisioningPdu, provFailed, 0] 3 =
      [provFailed, 0] := by decide
  exact failed_not_endsSoundly rfl isFailed sound

end Meshctl.Prov
