import Meshctl.Prov.MessageSteps

/-! # Steps of an exchange

The stage of the session and the phase of the device go together: the one waits
for what the other has sent or will send.
-/

namespace Meshctl.Prov

open Bytes Net Crypto Execution

/-! ## Stages and phases -/

/-- The messages that were sent. -/
def SessionStage.count : SessionStage → Nat
  | .invited => 1
  | .keyAsked => 2
  | .keyAwaited | .keyed => 3
  | .confirming => 4
  | .revealing | .unsent => 5
  | .sent | .done => 6
  | .failed count => count

/-- What the device has sent that the session has not received, by the stage of
the one and the phase of the other. -/
inductive Coupled (s : Setting) (terms : Terms) :
    SessionStage → DevicePhase → List (List Byte) → Prop where
  | idle : Coupled s terms .invited .idle []
  | invited :
      Coupled s terms .invited .invited [message provCaps s.device.caps.bytes]
  | asked (outOfBand : s.start.pubKey ≠ 0) :
      Coupled s terms .keyAsked .invited []
  | askedStarted (outOfBand : s.start.pubKey ≠ 0) :
      Coupled s terms .keyAsked .started []
  | awaited (overAir : s.start.pubKey = 0) :
      Coupled s terms .keyAwaited .invited []
  | awaitedStarted (overAir : s.start.pubKey = 0) :
      Coupled s terms .keyAwaited .started []
  | awaitedWaiting (given : s.start.authMethod = provInputOob) :
      Coupled s terms .keyAwaited .waiting
        [message provPubKey s.device.pubKey.bytes]
  | awaitedReady (given : s.start.authMethod ≠ provInputOob) :
      Coupled s terms .keyAwaited .ready
        [message provPubKey s.device.pubKey.bytes]
  | awaitedEntered (given : s.start.authMethod = provInputOob) :
      Coupled s terms .keyAwaited .ready
        [message provPubKey s.device.pubKey.bytes, message provInpCmplt []]
  | keyed (outOfBand : s.start.pubKey ≠ 0) : Coupled s terms .keyed .invited []
  | keyedStarted (outOfBand : s.start.pubKey ≠ 0) :
      Coupled s terms .keyed .started []
  | keyedWaiting (given : s.start.authMethod = provInputOob) :
      Coupled s terms .keyed .waiting []
  | keyedReady (given : s.start.authMethod ≠ provInputOob) :
      Coupled s terms .keyed .ready []
  | keyedEntered (given : s.start.authMethod = provInputOob) :
      Coupled s terms .keyed .ready [message provInpCmplt []]
  | confirming (outOfBand : s.start.pubKey ≠ 0)
      (given : s.start.authMethod ≠ provInputOob) :
      Coupled s terms .confirming .invited []
  | confirmingStarted (outOfBand : s.start.pubKey ≠ 0)
      (given : s.start.authMethod ≠ provInputOob) :
      Coupled s terms .confirming .started []
  | confirmingReady : Coupled s terms .confirming .ready []
  | confirmed :
      Coupled s terms .confirming .confirmed
        [message provConfirm (s.conf s.device.random terms.devAuth).bytes]
  | revealing : Coupled s terms .revealing .confirmed []
  | revealed :
      Coupled s terms .revealing .revealed
        [message provRandom s.device.random.bytes]
  | refused (differs : ¬Accepts s terms) :
      Coupled s terms .revealing .failed [message provFailed [0x04]]
  | unsent : Coupled s terms .unsent .revealed []
  | sent : Coupled s terms .sent .revealed []
  | provisioned :
      Coupled s terms .sent .provisioned [message provCompleted []]
  | done : Coupled s terms .done .provisioned []
  | stopped {count : Nat} {phase : DevicePhase} {replies : List (List Byte)}
      (few : count ≤ 3) (behind : phase.count ≤ count)
      (waits : phase = .waiting → s.start.authMethod = provInputOob) :
      Coupled s terms (.failed count) phase replies
  | rejected {phase : DevicePhase} {replies : List (List Byte)}
      (last : phase = .revealed ∨ phase = .failed) :
      Coupled s terms (.failed 5) phase replies

structure Joint (s : Setting) (ex : Exchange) (terms : Terms) (stage : SessionStage)
    (phase : DevicePhase) : Prop where
  session : SessionIn s terms stage ex.session
  asks : PromptFits s stage ex.session.agent.pending.cb
  device : ex.device = deviceAt s terms phase
  read : ex.read = phase.count
  coupled : Coupled s terms stage phase ex.replies
  shown : s.start.authMethod ≠ provInputOob →
    terms.devAuth = s.device.auth s.start
  sized : terms.data.length = 25

/-- The session and the device are where the other one expects them to be. -/
def Aligned (s : Setting) (ex : Exchange) : Prop :=
  ∃ terms stage phase, Joint s ex terms stage phase

section Steps

variable {s : Setting} {terms : Terms} {stage : SessionStage}
  {phase : DevicePhase} {replies : List (List Byte)} {ex : Exchange}

/-! ## The device reads -/

theorem SessionIn.written {st : ProvState} (reached : SessionIn s terms stage st) :
    st.written = (s.messages terms).take stage.count := by
  cases reached with
  | invited live => exact live.written
  | keyAsked live => exact live.written
  | keyAwaited live => exact live.written
  | keyed live => exact live.written
  | confirming live => exact live.written
  | revealing live => exact live.written
  | unsent live => exact live.written
  | sent live => exact live.written
  | done _ _ written => exact written
  | failed _ _ written => exact written

theorem nextPhase_started :
    nextPhase s terms .started = .waiting ∧ s.start.authMethod = provInputOob ∨
      nextPhase s terms .started = .ready ∧
        s.start.authMethod ≠ provInputOob := by
  by_cases given : s.start.authMethod = provInputOob
  · exact Or.inl ⟨if_pos given, given⟩
  · exact Or.inr ⟨if_neg given, given⟩

/-- A device that is behind goes on to a phase that suits the stage. -/
theorem Coupled.reads (coupled : Coupled s terms stage phase replies)
    (behind : phase.count < stage.count) :
    phase.awaits ≠ none ∧
      Coupled s terms stage (nextPhase s terms phase)
        (replies ++ answerIn s terms phase) := by
  cases coupled with
  | idle => exact ⟨by simp [DevicePhase.awaits], .invited⟩
  | asked outOfBand =>
      exact ⟨by simp [DevicePhase.awaits], .askedStarted outOfBand⟩
  | awaited overAir => exact ⟨by simp [DevicePhase.awaits], .awaitedStarted overAir⟩
  | awaitedStarted overAir =>
      refine ⟨by simp [DevicePhase.awaits], ?_⟩
      rw [answerIn, if_pos overAir]
      rcases @nextPhase_started s terms with ⟨next, given⟩ | ⟨next, given⟩
      · rw [next]
        exact .awaitedWaiting given
      · rw [next]
        exact .awaitedReady given
  | keyed outOfBand => exact ⟨by simp [DevicePhase.awaits], .keyedStarted outOfBand⟩
  | keyedStarted outOfBand =>
      refine ⟨by simp [DevicePhase.awaits], ?_⟩
      rw [answerIn, if_neg outOfBand]
      rcases @nextPhase_started s terms with ⟨next, given⟩ | ⟨next, given⟩
      · rw [next]
        exact .keyedWaiting given
      · rw [next]
        exact .keyedReady given
  | confirming outOfBand given =>
      exact ⟨by simp [DevicePhase.awaits], .confirmingStarted outOfBand given⟩
  | confirmingStarted outOfBand given =>
      refine ⟨by simp [DevicePhase.awaits], ?_⟩
      rw [answerIn, if_neg outOfBand, nextPhase, if_neg given]
      exact .confirmingReady
  | confirmingReady => exact ⟨by simp [DevicePhase.awaits], .confirmed⟩
  | revealing =>
      refine ⟨by simp [DevicePhase.awaits], ?_⟩
      by_cases accepts : Accepts s terms
      · rw [nextPhase, answerIn, if_pos accepts, if_pos accepts]
        exact .revealed
      · rw [nextPhase, answerIn, if_neg accepts, if_neg accepts]
        exact .refused accepts
  | sent => exact ⟨by simp [DevicePhase.awaits], .provisioned⟩
  | stopped few before waits =>
      have isBehind : phase.count < 3 := Nat.lt_of_lt_of_le behind few
      cases phase with
      | idle =>
          exact ⟨by simp [DevicePhase.awaits],
            .stopped few behind (by simp [nextPhase])⟩
      | invited =>
          exact ⟨by simp [DevicePhase.awaits],
            .stopped few behind (by simp [nextPhase])⟩
      | started =>
          refine ⟨by simp [DevicePhase.awaits], ?_⟩
          rcases @nextPhase_started s terms with ⟨next, given⟩ | ⟨next, given⟩
          · rw [next]
            exact .stopped few behind fun _ => given
          · rw [next]
            exact .stopped few behind (by simp)
      | _ => exact absurd isBehind (by decide)
  | rejected last =>
      rcases last with isRevealed | isFailed
      · rw [isRevealed] at behind
        exact absurd behind (by decide)
      · rw [isFailed] at behind
        exact absurd behind (by decide)
  | _ => exact absurd behind (by decide)

theorem Coupled.read_le (coupled : Coupled s terms stage phase replies) :
    phase.count ≤ stage.count := by
  cases coupled with
  | stopped _ behind => exact behind
  | rejected last =>
      rcases last with isRevealed | isFailed
      · rw [isRevealed]
        decide
      · rw [isFailed]
        decide
  | _ => decide

theorem count_nextPhase (waits : phase.awaits ≠ none) :
    (nextPhase s terms phase).count = phase.count + 1 := by
  cases phase with
  | started =>
      rcases @nextPhase_started s terms with ⟨next, _⟩ | ⟨next, _⟩
      · rw [next]
        rfl
      · rw [next]
        rfl
  | confirmed =>
      rw [nextPhase]
      split
      · rfl
      · rfl
  | waiting => exact absurd rfl waits
  | provisioned => exact absurd rfl waits
  | failed => exact absurd rfl waits
  | _ => rfl

theorem toDevice_aligned (joint : Joint s ex terms stage phase) :
    Aligned s (ex.toDevice s.env s.device) := by
  have isWritten := joint.session.written
  by_cases behind : phase.count < stage.count
  · rcases joint.coupled.reads behind with ⟨waits, coupled⟩
    rcases device_reads s terms waits joint.shown (fun _ => joint.sized) with
      ⟨bytes, isBytes, reads⟩
    have isNext : ex.session.written[ex.read]? = some bytes := by
      rw [isWritten, joint.read, List.getElem?_take_of_lt behind]
      exact isBytes
    rw [Exchange.toDevice, isNext]
    dsimp only
    rw [joint.device, reads]
    exact ⟨terms, stage, nextPhase s terms phase, joint.session, joint.asks, rfl,
      by rw [joint.read, count_nextPhase waits], coupled, joint.shown, joint.sized⟩
  · have isNone : ex.session.written[ex.read]? = none := by
      rw [isWritten, joint.read, List.getElem?_eq_none]
      exact (List.length_take_le _ _).trans (Nat.le_of_not_lt behind)
    rw [Exchange.toDevice, isNone]
    exact ⟨terms, stage, phase, joint⟩

/-! ## The user -/

/-- The device does not see what is settled later. -/
theorem deviceAt_early {terms' : Terms} (same : terms'.devAuth = terms.devAuth)
    (early : phase.count ≤ 3) : deviceAt s terms' phase = deviceAt s terms phase := by
  cases phase with
  | ready =>
      rw [deviceAt, deviceReady, same]
      rfl
  | confirmed => exact absurd early (by decide)
  | revealed => exact absurd early (by decide)
  | provisioned => exact absurd early (by decide)
  | failed => exact absurd early (by decide)
  | _ => rfl

/-- The session went on, and the device has not read a code. -/
theorem Joint.settle (joint : Joint s ex terms stage phase) {session : ProvState}
    {terms' : Terms} {stage' : SessionStage} {rest : List (List Byte)}
    (same : terms'.deviceSide = terms.deviceSide) (early : phase.count ≤ 3)
    (reached : SessionIn s terms' stage' session)
    (asks : PromptFits s stage' session.agent.pending.cb)
    (coupled : Coupled s terms' stage' phase rest) :
    Aligned s { ex with session, replies := rest } := by
  rcases Prod.mk.inj same with ⟨devAuth, data⟩
  refine ⟨terms', stage', phase, reached, asks, ?_, joint.read, coupled, ?_, ?_⟩
  · rw [deviceAt_early devAuth early]
    exact joint.device
  · rw [devAuth]
    exact joint.shown
  · rw [data]
    exact joint.sized

/-- Wherever the device is when the user answers, it suits the next stage. -/
theorem Coupled.answered (coupled : Coupled s terms stage phase replies)
    {stage' : SessionStage} (answered : Answered s stage stage') (terms' : Terms) :
    phase.count ≤ 3 ∧ Coupled s terms' stage' phase replies := by
  cases answered with
  | key authenticating =>
      cases authenticating with
      | keyed =>
          cases coupled with
          | asked outOfBand => exact ⟨by decide, .keyed outOfBand⟩
          | askedStarted outOfBand => exact ⟨by decide, .keyedStarted outOfBand⟩
      | confirming given =>
          cases coupled with
          | asked outOfBand => exact ⟨by decide, .confirming outOfBand given⟩
          | askedStarted outOfBand =>
              exact ⟨by decide, .confirmingStarted outOfBand given⟩
      | failed =>
          cases coupled with
          | asked => exact ⟨by decide, .stopped (by decide) (by decide) (by simp)⟩
          | askedStarted =>
              exact ⟨by decide, .stopped (by decide) (by decide) (by simp)⟩
  | value given =>
      cases coupled with
      | keyed outOfBand => exact ⟨by decide, .confirming outOfBand given⟩
      | keyedStarted outOfBand => exact ⟨by decide, .confirmingStarted outOfBand given⟩
      | keyedReady => exact ⟨by decide, .confirmingReady⟩
      | keyedWaiting entered => exact absurd entered given
      | keyedEntered entered => exact absurd entered given
  | wrong =>
      cases coupled with
      | keyedWaiting entered =>
          exact ⟨by decide, .stopped (by decide) (by decide) fun _ => entered⟩
      | _ => exact ⟨by decide, .stopped (by decide) (by decide) (by simp)⟩

theorem answer_aligned (sound : Sound s) (joint : Joint s ex terms stage phase)
    (input : List Byte)
    (given : s.start.pubKey ≠ 0 →
      ∀ key, .oobPubKey key ∈ (userInput s.env input ex.session).history →
        key = s.device.pubKey) :
    Aligned s (ex.takes s.env (.answer input)) := by
  rcases userInput_takes sound joint.session joint.asks input given with
    ⟨session, asks⟩ | ⟨unasked, session | ⟨terms', stage', same, answered, session⟩⟩
  · exact ⟨terms, stage, phase, session, asks, joint.device, joint.read,
      joint.coupled, joint.shown, joint.sized⟩
  · have asks : PromptFits s stage
        (userInput s.env input ex.session).agent.pending.cb := by
      rw [unasked]
      exact promptFits_none s stage
    exact ⟨terms, stage, phase, session, asks, joint.device, joint.read,
      joint.coupled, joint.shown, joint.sized⟩
  · rcases joint.coupled.answered answered terms' with ⟨early, coupled⟩
    have asks : PromptFits s stage'
        (userInput s.env input ex.session).agent.pending.cb := by
      rw [unasked]
      exact promptFits_none s stage'
    exact joint.settle same early session asks coupled

/-- Before the confirmations, the session does not depend on the value that is
entered on the device. -/
theorem SessionIn.setDevAuth {st : ProvState} (reached : SessionIn s terms stage st)
    (few : stage.count ≤ 3) (devAuth : AesBlock) :
    SessionIn s { terms with devAuth } stage st := by
  cases reached with
  | invited live isProv pool =>
      exact .invited (live.resettle _ (Or.inl few)) isProv pool
  | keyAsked live isProv started state outOfBand =>
      exact .keyAsked (live.resettle _ (Or.inl few)) isProv
        ⟨started.netIdx, started.newAddr, started.ephPrivKey, started.confIn,
          started.randAuth⟩ state outOfBand
  | keyAwaited live isProv started state overAir =>
      exact .keyAwaited (live.resettle _ (Or.inl few)) isProv
        ⟨started.netIdx, started.newAddr, started.ephPrivKey, started.confIn,
          started.randAuth⟩ state overAir
  | keyed live isProv keyed state method =>
      exact .keyed (live.resettle _ (Or.inl few)) isProv
        ⟨keyed.netIdx, keyed.newAddr, keyed.confIn, keyed.ecdhSecret, keyed.salt,
          keyed.confKey, keyed.plain⟩ state method
  | failed frame isProv written outcomes failure node trouble =>
      exact .failed frame isProv
        (written.trans (take_messages _ (Or.inl few)).symm) outcomes failure node
        trouble
  | _ => exact absurd few (by decide)

/-- A value is entered where the device waits for one. -/
theorem Coupled.entered (coupled : Coupled s terms stage .waiting replies)
    (terms' : Terms) :
    stage.count ≤ 3 ∧ s.start.authMethod = provInputOob ∧
      Coupled s terms' stage .ready (replies ++ [message provInpCmplt []]) := by
  cases coupled with
  | awaitedWaiting given => exact ⟨by decide, given, .awaitedEntered given⟩
  | keyedWaiting given => exact ⟨by decide, given, .keyedEntered given⟩
  | stopped few behind waits =>
      exact ⟨few, waits rfl, .stopped few behind (by simp)⟩
  | rejected last => simp at last

theorem enter_aligned (joint : Joint s ex terms stage phase) (value : AesBlock) :
    Aligned s (ex.enter value) := by
  by_cases waits : phase = .waiting
  · subst waits
    rcases joint.coupled.entered { terms with devAuth := value } with
      ⟨few, given, coupled⟩
    have enters : Device.enter value ex.device =
        (deviceAt s { terms with devAuth := value } .ready,
          [message provInpCmplt []]) := by
      rw [joint.device]
      rfl
    rw [Exchange.enter, enters]
    exact ⟨{ terms with devAuth := value }, stage, .ready,
      joint.session.setDevAuth few value, joint.asks, rfl, joint.read, coupled,
      fun other => absurd given other, joint.sized⟩
  · have isPhase : ex.device.phase = phase := by
      rw [joint.device]
      cases phase <;> rfl
    have ignores : Device.enter value ex.device = (ex.device, []) := by
      rw [Device.enter, isPhase, if_neg waits]
    rw [Exchange.enter, ignores]
    refine ⟨terms, stage, phase, joint.session, joint.asks, joint.device, joint.read,
      ?_, joint.shown, joint.sized⟩
    dsimp only
    rw [List.append_nil]
    exact joint.coupled

/-! ## The session receives -/

theorem SessionIn.ended_failed {st : ProvState} {count : Nat}
    (reached : SessionIn s terms (.failed count) st) : st.prov = none := by
  cases reached with
  | failed _ ended => exact ended

theorem toSession_eq {reply : List Byte} {rest : List (List Byte)}
    (isReplies : ex.replies = reply :: rest) :
    ex.toSession s.env =
      { ex with session := received s reply ex.session, replies := rest } := by
  rw [Exchange.toSession, isReplies]
  rfl

/-- The device has read the invitation and nothing else. -/
theorem Starting.coupled {st : ProvState} (starting : Starting stage)
    (reached : SessionIn s terms stage st) : Coupled s terms stage .invited [] := by
  cases starting with
  | keyAsked =>
      rcases reached with _ | ⟨_, _, _, _, outOfBand⟩
      exact .asked outOfBand
  | keyAwaited =>
      rcases reached with _ | _ | ⟨_, _, _, _, overAir⟩
      exact .awaited overAir
  | failed => exact .stopped (by decide) (by decide) (by simp)

/-- The session received the key, which the device sent when it had read that of
the session. -/
theorem Authenticating.coupled {stage' : SessionStage} {key : List Byte}
    (authenticating : Authenticating s stage')
    (coupled : Coupled s terms .keyAwaited phase (key :: replies)) (terms' : Terms) :
    phase.count ≤ 3 ∧ Coupled s terms' stage' phase replies := by
  cases coupled with
  | awaitedWaiting given =>
      refine ⟨by decide, ?_⟩
      cases authenticating with
      | keyed => exact .keyedWaiting given
      | confirming other => exact absurd given other
      | failed => exact .stopped (by decide) (by decide) fun _ => given
  | awaitedReady given =>
      refine ⟨by decide, ?_⟩
      cases authenticating with
      | keyed => exact .keyedReady given
      | confirming => exact .confirmingReady
      | failed => exact .stopped (by decide) (by decide) (by simp)
  | awaitedEntered given =>
      refine ⟨by decide, ?_⟩
      cases authenticating with
      | keyed => exact .keyedEntered given
      | confirming other => exact absurd given other
      | failed => exact .stopped (by decide) (by decide) (by simp)

theorem Joint.receivesKey (sound : Sound s) (joint : Joint s ex terms .keyAwaited phase)
    {key : List Byte} {rest : List (List Byte)} (isReplies : ex.replies = key :: rest) :
    Aligned s { ex with session := received s key ex.session, replies := rest } := by
  have coupled := joint.coupled
  rw [isReplies] at coupled
  have isKey : key = message provPubKey s.device.pubKey.bytes := by
    cases coupled <;> rfl
  rcases key_received sound joint.session joint.asks with
    ⟨terms', stage', same, authenticating, reached, asks⟩
  rcases authenticating.coupled coupled terms' with ⟨early, coupled'⟩
  rw [isKey]
  exact joint.settle same early reached asks coupled'

/-- The device refused the code of the session, or the session that of the
device. -/
theorem Joint.trouble (joint : Joint s ex terms .revealing phase)
    (differs : terms.auth ≠ terms.devAuth) : Trouble s := by
  rcases joint.session with _ | _ | _ | _ | _ | ⟨_, _, keyed, _, randAuth, _⟩
  exact trouble_of_differs joint.shown (keyed.plain_auth randAuth).2 differs

theorem toSession_aligned (sound : Sound s) (joint : Joint s ex terms stage phase) :
    Aligned s (ex.toSession s.env) := by
  cases isReplies : ex.replies with
  | nil =>
      have same : ex.toSession s.env = ex := by
        rw [Exchange.toSession, isReplies]
      rw [same]
      exact ⟨terms, stage, phase, joint⟩
  | cons reply rest =>
      have coupled := joint.coupled
      have asks := joint.asks
      rw [isReplies] at coupled
      rw [toSession_eq isReplies]
      cases coupled with
      | invited =>
          rcases caps_received sound joint.session asks with
            ⟨terms', stage', same, starting, reached, asks'⟩
          exact joint.settle same (by decide) reached asks' (starting.coupled reached)
      | awaitedWaiting => exact joint.receivesKey sound isReplies
      | awaitedReady => exact joint.receivesKey sound isReplies
      | awaitedEntered => exact joint.receivesKey sound isReplies
      | keyedEntered given =>
          have unasked : ex.session.agent.pending.cb = none :=
            not_not.mp fun asked => asks.2 asked given
          rcases entered_received sound joint.session unasked with
            ⟨random, auth, confirming, unasked'⟩
          exact @Joint.settle _ _ _ _ _ joint _ { terms with random, auth } _ _ rfl
            (by decide) confirming unasked' .confirmingReady
      | confirmed =>
          rcases conf_received sound joint.session with ⟨revealing, sameAgent⟩
          refine ⟨terms, .revealing, .confirmed, revealing, ?_, joint.device, joint.read,
            .revealing, joint.shown, joint.sized⟩
          dsimp only
          rw [sameAgent]
          exact asks
      | revealed =>
          rcases random_received sound joint.session joint.shown joint.sized with
            ⟨data, stage', sized, checked, reached, sameAgent⟩
          have unasked : (received s (message provRandom s.device.random.bytes)
              ex.session).agent.pending.cb = none := by
            rw [sameAgent]
            exact asks
          refine ⟨{ terms with data }, stage', .revealed, reached, ?_, joint.device,
            joint.read, ?_, joint.shown, sized⟩
          · dsimp only
            rw [unasked]
            exact promptFits_none s stage'
          · cases checked with
            | unsent => exact .unsent
            | sent => exact .sent
            | failed => exact .rejected (Or.inl rfl)
      | refused differs =>
          have trouble := joint.trouble fun same => differs (by rw [Accepts, same])
          exact ⟨terms, .failed 5, .failed,
            failure_received joint.session trouble (by decide), trivial, joint.device,
            joint.read, .rejected (Or.inr rfl), joint.shown, joint.sized⟩
      | provisioned =>
          exact ⟨terms, .done, .provisioned, completed_received joint.session, trivial,
            joint.device, joint.read, .done, joint.shown, joint.sized⟩
      | stopped few behind waits =>
          rw [received_ended joint.session.ended_failed]
          exact ⟨terms, _, phase, joint.session, trivial, joint.device, joint.read,
            .stopped few behind waits, joint.shown, joint.sized⟩
      | rejected last =>
          rw [received_ended joint.session.ended_failed]
          exact ⟨terms, _, phase, joint.session, trivial, joint.device, joint.read,
            .rejected last, joint.shown, joint.sized⟩

/-! ## Everything else -/

/-- The session is given something that changes no more than its surroundings. -/
theorem Joint.surroundings (joint : Joint s ex terms stage phase)
    {session : ProvState} (frame : Frame s session)
    (prov : session.prov = ex.session.prov) (node : session.node = ex.session.node)
    (history : session.history = ex.session.history)
    (pool : session.pool = ex.session.pool)
    (agent : session.agent = ex.session.agent) : Aligned s { ex with session } := by
  refine ⟨terms, stage, phase,
    joint.session.of_same frame prov node history pool, ?_, joint.device, joint.read,
    joint.coupled, joint.shown, joint.sized⟩
  dsimp only
  rw [agent]
  exact joint.asks

/-- No callback waits for a write. -/
theorem acquireWriteReply_idle {st : ProvState} (frame : Frame s st) (index : Nat)
    (success : Bool) :
    ∃ acquiring, acquireWriteReply s.env index success st = { st with acquiring } ∧
      ∀ cb, some cb ∉ acquiring := by
  rw [acquireWriteReply]
  cases isCb : st.acquiring[index]? with
  | none => exact ⟨st.acquiring, rfl, frame.idle⟩
  | some cb =>
      have noCallback : cb = none := by
        cases cb with
        | none => rfl
        | some cb => exact absurd (List.mem_of_getElem? isCb) (frame.idle cb)
      refine ⟨st.acquiring.eraseIdx index, ?_, fun cb member =>
        frame.idle cb (List.mem_of_mem_eraseIdx member)⟩
      rw [noCallback]
      cases success <;> rfl

theorem writeReply_aligned (joint : Joint s ex terms stage phase) (index : Nat)
    (success : Bool) : Aligned s (ex.takes s.env (.writeReply index success)) := by
  have frame := joint.session.frame
  rcases acquireWriteReply_idle frame index success with ⟨acquiring, same, idle⟩
  have isNext : ex.takes s.env (.writeReply index success) =
      { ex with session := { ex.session with acquiring } } :=
    congrArg (fun session => { ex with session }) same
  rw [isNext]
  exact joint.surroundings ⟨idle, frame.wrote, frame.network, frame.level⟩ rfl rfl rfl
    rfl rfl

theorem network_aligned (joint : Joint s ex terms stage phase) {net : NetInfo}
    (isNetwork : s.Network net) : Aligned s (ex.takes s.env (.network net)) := by
  have frame := joint.session.frame
  exact joint.surroundings ⟨frame.idle, frame.wrote, isNetwork, frame.level⟩ rfl rfl rfl
    rfl rfl

theorem secLevel_aligned (joint : Joint s ex terms stage phase) {level : Byte}
    (isLevel : s.Level level) : Aligned s (ex.takes s.env (.secLevel level)) := by
  have frame := joint.session.frame
  rw [Exchange.takes, provStep]
  split
  next => exact ⟨terms, stage, phase, joint⟩
  next =>
    exact joint.surroundings ⟨frame.idle, frame.wrote, frame.network, isLevel⟩ rfl rfl
      rfl rfl rfl

/-! ## Runs -/

/-- Keys that the user is asked for are those of the device, and the network and
the security level change within bounds. -/
def Allows (s : Setting) (input : ExchangeInput) (after : Exchange) : Prop :=
  (s.start.pubKey ≠ 0 →
      ∀ key, .oobPubKey key ∈ after.session.history → key = s.device.pubKey) ∧
    (∀ net, input = .network net → s.Network net) ∧
    ∀ level, input = .secLevel level → s.Level level

theorem next_aligned (sound : Sound s) (aligned : Aligned s ex)
    (input : ExchangeInput)
    (allows : Allows s input (ex.next s.env s.device input)) :
    Aligned s (ex.next s.env s.device input) := by
  rcases aligned with ⟨terms, stage, phase, joint⟩
  rcases allows with ⟨given, networks, levels⟩
  cases input with
  | toDevice => exact toDevice_aligned joint
  | toSession => exact toSession_aligned sound joint
  | enter value => exact enter_aligned joint value
  | answer input => exact answer_aligned sound joint input given
  | writeReply index success => exact writeReply_aligned joint index success
  | network net => exact network_aligned joint (networks net rfl)
  | secLevel level => exact secLevel_aligned joint (levels level rfl)

theorem opened_aligned (network : s.Network s.before.net)
    (level : s.Level s.before.secLevel) :
    Aligned s (Exchange.opened s.env s.netIdx s.before) := by
  let terms : Terms :=
    { newAddr := 0, random := Buffer.zero, auth := Buffer.zero
      devAuth := s.device.auth s.start, data := List.replicate 25 0 }
  let agent := { s.before.agent with pending := { s.before.agent.pending with cb := none } }
  let sent := started (message provInvite [0x10]) (ProvState.setProv
    { s.before with prov := none, agent, acquiring := [], history := [] }
    (newSession s.netIdx))
  have frame : ∀ acquiring, (∀ cb, some cb ∉ acquiring) →
      Frame s { sent with acquiring } := fun acquiring idle =>
    ⟨idle, Nat.lt_succ_self _, network, level⟩
  have starts : ∀ acquiring, (∀ cb, some cb ∉ acquiring) →
      SessionIn s terms .invited { sent with acquiring } := fun acquiring idle =>
    .invited ⟨frame acquiring idle, rfl, rfl, rfl⟩ rfl rfl
  have opens : ∃ acquiring, (∀ cb, some cb ∉ acquiring) ∧
      openedSession s.env s.netIdx s.before = { sent with acquiring } := by
    rw [openedSession, provOpen]
    dsimp only
    rw [gattWriteOnly, gattWrite]
    cases s.env.gatt (ProvState.setProv _ _).writes with
    | sent => exact ⟨[], by simp, rfl⟩
    | queued => exact ⟨[none], by simp, rfl⟩
    | refused => exact ⟨[], by simp, rfl⟩
  rcases opens with ⟨acquiring, idle, isOpened⟩
  refine ⟨terms, .invited, .idle, ?_, ?_, rfl, rfl, .idle, fun _ => rfl, rfl⟩
  · rw [Exchange.opened, isOpened]
    exact starts acquiring idle
  · rw [Exchange.opened, isOpened]
    exact rfl

end Steps

end Meshctl.Prov
