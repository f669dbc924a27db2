import Meshctl.Gui.ChannelDelivery

/-! # Shutting the event channel down

The tail of `mesh_init` frees the buffer before it waits for the consumer, and
destroys the semaphores while the consumer is still on its way out.
-/

namespace Meshctl.Gui

open Execution

variable {Thread : Type*} [DecidableEq Thread]

/-! ## The end of the main loop -/

/-- Any state that the main loop can return in. -/
def LoopEnds (st : ChannelState Thread) : Prop :=
  ∃ (entered exitEventLoop : Bool) (javaEvent : EventKey)
    (memory : Nat → Byte) (schedule : Nat → Turn Thread) (time : Nat),
    (∀ earlier, schedule earlier ≠ .main) ∧
      st = (channelModel Thread).stateAt
        (.start entered exitEventLoop javaEvent memory) schedule time

/-- The threads that are left: those of `mesh_init` and of `eventCallback`. -/
def Turn.IsTail : Turn Thread → Prop
  | .consumer | .main => True
  | .call _ _ | .producer _ => False

theorem LoopEnds.invariant {st : ChannelState Thread}
    (ends : LoopEnds st) : ∃ outstanding, ChannelInvariant st outstanding := by
  rcases ends with
    ⟨entered, exitEventLoop, javaEvent, memory, schedule, time, loops, isState⟩
  rw [isState]
  apply @Model.stateAt_invariant _ _ _ (channelModel Thread) _ schedule
    (fun st => ∃ outstanding, ChannelInvariant st outstanding)
  · exact ⟨none, channelInvariant_start entered exitEventLoop javaEvent memory⟩
  · rintro st now ⟨_, holds⟩
    exact channelStep_invariant (loops now) holds

/-! ## A careful shutdown -/

/-- The consumer is in its loop, and does not touch the buffer again before the
next event. -/
def ConsumerPhase.DoneWithBuff : ConsumerPhase → Prop
  | .clear cleared => buffSize ≤ cleared
  | .unlock | .postEmpty | .testExit | .waitFull => True
  | _ => False

/-- The consumer is told to leave: it does not wait again. -/
def ConsumerPhase.Leaving : ConsumerPhase → Prop
  | .lock | .checkExit | .unlock | .postEmpty | .testExit | .left => True
  | _ => False

/-- The buffer is freed when no event is on its way, and each semaphore is
destroyed when the consumer has used it for the last time. -/
def Careful (st : ChannelState Thread) : Turn Thread → Prop
  | .main =>
      match st.main with
      | .freeBuff => st.eventFull = 0 ∧ st.consumer.DoneWithBuff
      | .destroyFull => st.consumer.Leaving
      | .destroyEmpty => st.consumer = .testExit ∨ st.consumer = .left
      | _ => True
  | _ => True

/-- Both semaphores are there, and nobody has posted `eventFull`. -/
structure Waiting (st : ChannelState Thread) : Prop where
  full : st.eventFull = 0
  emptyPresent : st.emptyDestroyed = false
  fullPresent : st.fullDestroyed = false

/-- Where the consumer is at every step of a careful shutdown. -/
def ShutdownAt (st : ChannelState Thread) : MainPhase → Prop
  | .mainloop | .freeBuff =>
      ∃ outstanding, ChannelInvariant { st with main := .mainloop } outstanding
  | .waitEmpty =>
      Waiting st ∧ st.exitEventLoop = false ∧ st.consumer.DoneWithBuff ∧
        (st.eventEmpty ≠ 0 → st.consumer.Away)
  | .lock | .setExit =>
      Waiting st ∧ st.exitEventLoop = false ∧
        (st.consumer = .waitFull ∨ st.consumer = .testExit)
  | .unlock | .postFull =>
      Waiting st ∧ st.exitEventLoop = true ∧
        (st.consumer = .waitFull ∨ st.consumer = .testExit ∨ st.consumer = .left)
  | .destroyFull =>
      st.emptyDestroyed = false ∧ st.fullDestroyed = false ∧
        st.exitEventLoop = true ∧
        (st.consumer = .waitFull ∨ st.consumer.Leaving)
  | .destroyEmpty =>
      st.emptyDestroyed = false ∧ st.exitEventLoop = true ∧ st.consumer.Leaving
  | .finished =>
      st.exitEventLoop = true ∧
        (st.consumer = .testExit ∨ st.consumer = .left)

structure ShutdownInvariant (st : ChannelState Thread) : Prop where
  unmisused : st.misused = false
  phase : ShutdownAt st st.main

section Steps

variable {st : ChannelState Thread}

omit [DecidableEq Thread] in
/-- The buffer is freed between two events. -/
theorem shutdownAt_freed {outstanding : Option Event}
    (invariant : ChannelInvariant { st with main := .mainloop } outstanding)
    (full : st.eventFull = 0) (done : st.consumer.DoneWithBuff) :
    ShutdownAt { st with freed := true, main := .waitEmpty } .waitEmpty := by
  refine ⟨⟨full, invariant.runs.emptyPresent, invariant.runs.fullPresent⟩, ?_,
    done, ?_⟩
  · apply invariant.runs.loops
    intro outside
    change st.consumer = .outside at outside
    rw [outside] at done
    exact done
  · intro mayPass
    cases invariant.baton with
    | free empty full lock away => exact away
    | sending empty full away => exact away
    | sent empty full lock away => exact away
    | receiving empty => exact absurd empty mayPass
    | clearing empty => exact absurd empty mayPass

omit [DecidableEq Thread] in
/-- One step of `mesh_init`. -/
theorem mainStep_shutdown (invariant : ShutdownInvariant st)
    (careful : Careful st .main) : ShutdownInvariant (mainStep st) := by
  rcases invariant with ⟨unmisused, holds⟩
  have same := ShutdownInvariant.mk unmisused holds
  rw [Careful] at careful
  rw [mainStep]
  cases phase : st.main with
  | mainloop =>
      rw [phase] at holds
      exact ⟨unmisused, holds⟩
  | freeBuff =>
      rw [phase] at holds careful
      rcases holds with ⟨_, running⟩
      exact ⟨unmisused, shutdownAt_freed running careful.1 careful.2⟩
  | waitEmpty =>
      rw [phase] at holds
      rcases holds with ⟨waiting, exit, done, away⟩
      dsimp only
      split
      next => exact same
      next mayPass =>
        refine ⟨unmisused, ⟨waiting.full, waiting.emptyPresent,
          waiting.fullPresent⟩, exit, ?_⟩
        have isAway := away mayPass
        change st.consumer = _ ∨ st.consumer = _
        cases consumer : st.consumer <;> rw [consumer] at isAway done <;>
          first
          | exact isAway.elim
          | exact done.elim
          | exact Or.inl rfl
          | exact Or.inr rfl
  | lock =>
      rw [phase] at holds
      rcases holds with ⟨waiting, exit, consumer⟩
      dsimp only
      split
      next => exact same
      next =>
        exact ⟨unmisused, ⟨waiting.full, waiting.emptyPresent,
          waiting.fullPresent⟩, exit, consumer⟩
  | setExit =>
      rw [phase] at holds
      rcases holds with ⟨waiting, _, consumer⟩
      exact ⟨unmisused, ⟨waiting.full, waiting.emptyPresent,
        waiting.fullPresent⟩, rfl, consumer.imp_right Or.inl⟩
  | unlock =>
      rw [phase] at holds
      rcases holds with ⟨waiting, exit, consumer⟩
      exact ⟨unmisused, ⟨waiting.full, waiting.emptyPresent,
        waiting.fullPresent⟩, exit, consumer⟩
  | postFull =>
      rw [phase] at holds
      rcases holds with ⟨waiting, exit, consumer⟩
      refine ⟨unmisused, waiting.emptyPresent, waiting.fullPresent, exit, ?_⟩
      change st.consumer = .waitFull ∨ st.consumer.Leaving
      rcases consumer with isPhase | isPhase | isPhase
      · exact Or.inl isPhase
      · exact Or.inr (isPhase ▸ trivial)
      · exact Or.inr (isPhase ▸ trivial)
  | destroyFull =>
      rw [phase] at holds careful
      exact ⟨unmisused, holds.1, holds.2.2.1, careful⟩
  | destroyEmpty =>
      rw [phase] at holds careful
      exact ⟨unmisused, holds.2.1, careful⟩
  | finished => exact same

omit [DecidableEq Thread] in
/-- The consumer does not look at `mesh_init`. -/
theorem consumerStep_main (st : ChannelState Thread) (main : MainPhase) :
    consumerStep { st with main } = { consumerStep st with main } ∧
      (consumerStep st).main = st.main := by
  rw [consumerStep, consumerStep]
  cases phase : st.consumer with
  | waitFull =>
      by_cases full : st.eventFull = 0 <;>
        simp [ChannelState.use, full, phase]
  | lock => cases lock : st.eventLock <;> simp [phase, lock]
  | dispatch => cases key : st.javaEvent.isCallback <;> simp
  | readString str =>
      by_cases zero : st.stringBuff str.length = 0 <;>
        simp only [ChannelState.use, zero, if_true, if_false, and_self]
  | clear cleared =>
      by_cases more : cleared < buffSize <;>
        simp [ChannelState.use, ChannelState.writeBuff, more]
  | left => simp [phase]
  | _ => exact ⟨rfl, rfl⟩

omit [DecidableEq Thread] in
/-- One step of a consumer on its way out. -/
theorem consumerStep_leaving (exit : st.exitEventLoop = true)
    (leaving : st.consumer.Leaving) (emptyPresent : st.emptyDestroyed = false) :
    (consumerStep st).misused = st.misused ∧
      (consumerStep st).emptyDestroyed = false ∧
      (consumerStep st).fullDestroyed = st.fullDestroyed ∧
      (consumerStep st).exitEventLoop = true ∧
      (consumerStep st).consumer.Leaving := by
  rw [consumerStep]
  cases phase : st.consumer <;> rw [phase] at leaving <;>
    first | exact leaving.elim | skip
  · dsimp only
    split
    · rw [phase]
      exact ⟨rfl, emptyPresent, rfl, exit, trivial⟩
    · exact ⟨rfl, emptyPresent, rfl, exit, trivial⟩
  · dsimp only
    rw [if_pos exit]
    exact ⟨rfl, emptyPresent, rfl, exit, trivial⟩
  · exact ⟨rfl, emptyPresent, rfl, exit, trivial⟩
  · dsimp only
    rw [emptyPresent, ChannelState.use_false]
    exact ⟨rfl, emptyPresent, rfl, exit, trivial⟩
  · dsimp only
    rw [if_pos exit]
    exact ⟨rfl, emptyPresent, rfl, exit, trivial⟩
  · dsimp only
    rw [phase]
    exact ⟨rfl, emptyPresent, rfl, exit, trivial⟩

omit [DecidableEq Thread] in
/-- A consumer without an event waits for one. -/
theorem consumerStep_waits (waiting : Waiting st)
    (exit : st.exitEventLoop = false)
    (consumer : st.consumer = .waitFull ∨ st.consumer = .testExit) :
    (consumerStep st).misused = st.misused ∧ Waiting (consumerStep st) ∧
      (consumerStep st).exitEventLoop = false ∧
      (consumerStep st).consumer = .waitFull := by
  rcases waiting with ⟨full, emptyPresent, fullPresent⟩
  rw [consumerStep]
  rcases consumer with phase | phase <;> rw [phase] <;> dsimp only
  · rw [fullPresent, ChannelState.use_false, if_pos full]
    exact ⟨rfl, ⟨full, emptyPresent, fullPresent⟩, exit, phase⟩
  · rw [if_neg (by simp [exit])]
    exact ⟨rfl, ⟨full, emptyPresent, fullPresent⟩, exit, rfl⟩

omit [DecidableEq Thread] in
/-- A consumer that finds the flag set leaves before it is woken. -/
theorem consumerStep_unwoken (waiting : Waiting st)
    (exit : st.exitEventLoop = true)
    (consumer : st.consumer = .waitFull ∨ st.consumer = .testExit ∨
      st.consumer = .left) :
    (consumerStep st).misused = st.misused ∧ Waiting (consumerStep st) ∧
      (consumerStep st).exitEventLoop = true ∧
      ((consumerStep st).consumer = .waitFull ∨
        (consumerStep st).consumer = .testExit ∨
        (consumerStep st).consumer = .left) := by
  rcases waiting with ⟨full, emptyPresent, fullPresent⟩
  rw [consumerStep]
  rcases consumer with phase | phase | phase <;> rw [phase] <;> dsimp only
  · rw [fullPresent, ChannelState.use_false, if_pos full]
    exact ⟨rfl, ⟨full, emptyPresent, fullPresent⟩, exit, Or.inl phase⟩
  · rw [if_pos exit]
    exact ⟨rfl, ⟨full, emptyPresent, fullPresent⟩, exit, Or.inr (Or.inr rfl)⟩
  · exact ⟨rfl, ⟨full, emptyPresent, fullPresent⟩, exit, Or.inr (Or.inr phase)⟩

omit [DecidableEq Thread] in
/-- One step of a consumer that only clears up. -/
theorem consumerStep_done (waiting : Waiting st)
    (exit : st.exitEventLoop = false) (done : st.consumer.DoneWithBuff)
    (away : st.eventEmpty ≠ 0 → st.consumer.Away) :
    (consumerStep st).misused = st.misused ∧ Waiting (consumerStep st) ∧
      (consumerStep st).exitEventLoop = false ∧
      (consumerStep st).consumer.DoneWithBuff ∧
      ((consumerStep st).eventEmpty ≠ 0 → (consumerStep st).consumer.Away) := by
  rcases waiting with ⟨full, emptyPresent, fullPresent⟩
  rw [consumerStep]
  cases phase : st.consumer <;> rw [phase] at done away <;>
    first | exact done.elim | skip
  · dsimp only
    rw [fullPresent, ChannelState.use_false, if_pos full]
    rw [phase]
    exact ⟨rfl, ⟨full, emptyPresent, fullPresent⟩, exit, trivial,
      fun _ => trivial⟩
  · dsimp only
    rw [if_neg (Nat.not_lt.mpr done)]
    exact ⟨rfl, ⟨full, emptyPresent, fullPresent⟩, exit, trivial, away⟩
  · exact ⟨rfl, ⟨full, emptyPresent, fullPresent⟩, exit, trivial, away⟩
  · dsimp only
    rw [emptyPresent, ChannelState.use_false]
    exact ⟨rfl, ⟨full, emptyPresent, fullPresent⟩, exit, trivial,
      fun _ => trivial⟩
  · dsimp only
    rw [if_neg (by simp [exit])]
    exact ⟨rfl, ⟨full, emptyPresent, fullPresent⟩, exit, trivial,
      fun _ => trivial⟩

omit [DecidableEq Thread] in
/-- One step of `eventCallback` in a careful shutdown. -/
theorem consumerStep_shutdown (invariant : ShutdownInvariant st) :
    ShutdownInvariant (consumerStep st) := by
  rcases invariant with ⟨unmisused, holds⟩
  have same := ShutdownInvariant.mk unmisused holds
  have sameMain := (consumerStep_main st .mainloop).2
  have running (runs : ∃ outstanding,
      ChannelInvariant { st with main := .mainloop } outstanding) :
      (consumerStep st).misused = false ∧ ∃ outstanding,
        ChannelInvariant { consumerStep st with main := .mainloop }
          outstanding := by
    rcases runs with ⟨_, invariant⟩
    rcases consumerStep_invariant invariant with ⟨next, holds⟩
    rw [(consumerStep_main st .mainloop).1] at holds
    exact ⟨holds.runs.unmisused, next, holds⟩
  cases phase : st.main with
  | mainloop =>
      rw [phase] at holds sameMain
      rcases running holds with ⟨kept, next⟩
      exact ⟨kept, sameMain ▸ next⟩
  | freeBuff =>
      rw [phase] at holds sameMain
      rcases running holds with ⟨kept, next⟩
      exact ⟨kept, sameMain ▸ next⟩
  | waitEmpty =>
      rw [phase] at holds sameMain
      rcases holds with ⟨waiting, exit, done, away⟩
      rcases consumerStep_done waiting exit done away with ⟨misused, next⟩
      exact ⟨misused.trans unmisused, sameMain ▸ next⟩
  | lock =>
      rw [phase] at holds sameMain
      rcases holds with ⟨waiting, exit, consumer⟩
      rcases consumerStep_waits waiting exit consumer with
        ⟨misused, stays, sameExit, waits⟩
      exact ⟨misused.trans unmisused,
        sameMain ▸ ⟨stays, sameExit, Or.inl waits⟩⟩
  | setExit =>
      rw [phase] at holds sameMain
      rcases holds with ⟨waiting, exit, consumer⟩
      rcases consumerStep_waits waiting exit consumer with
        ⟨misused, stays, sameExit, waits⟩
      exact ⟨misused.trans unmisused,
        sameMain ▸ ⟨stays, sameExit, Or.inl waits⟩⟩
  | unlock =>
      rw [phase] at holds sameMain
      rcases holds with ⟨waiting, exit, consumer⟩
      rcases consumerStep_unwoken waiting exit consumer with ⟨misused, next⟩
      exact ⟨misused.trans unmisused, sameMain ▸ next⟩
  | postFull =>
      rw [phase] at holds sameMain
      rcases holds with ⟨waiting, exit, consumer⟩
      rcases consumerStep_unwoken waiting exit consumer with ⟨misused, next⟩
      exact ⟨misused.trans unmisused, sameMain ▸ next⟩
  | destroyFull =>
      rw [phase] at holds sameMain
      rcases holds with ⟨emptyPresent, fullPresent, exit, waits | leaving⟩
      · have step : consumerStep st =
            if st.eventFull = 0 then st
            else { st with
              eventFull := st.eventFull - 1, consumer := .lock } := by
          have useFull : st.use st.fullDestroyed = st := by
            rw [fullPresent, ChannelState.use_false]
          rw [consumerStep, waits]
          dsimp only
          rw [useFull]
        rw [step]
        split
        next => exact same
        next => exact ⟨unmisused, phase ▸
          ⟨emptyPresent, fullPresent, exit, Or.inr trivial⟩⟩
      · rcases consumerStep_leaving exit leaving emptyPresent with
          ⟨misused, keptEmpty, keptFull, keptExit, leaves⟩
        exact ⟨misused.trans unmisused, sameMain ▸
          ⟨keptEmpty, keptFull.trans fullPresent, keptExit, Or.inr leaves⟩⟩
  | destroyEmpty =>
      rw [phase] at holds sameMain
      rcases holds with ⟨emptyPresent, exit, leaving⟩
      rcases consumerStep_leaving exit leaving emptyPresent with
        ⟨misused, keptEmpty, _, keptExit, leaves⟩
      exact ⟨misused.trans unmisused, sameMain ▸ ⟨keptEmpty, keptExit, leaves⟩⟩
  | finished =>
      rw [phase] at holds sameMain
      rcases holds with ⟨exit, isTest | isLeft⟩
      · have step : consumerStep st = { st with consumer := .left } := by
          rw [consumerStep, isTest]
          dsimp only
          rw [if_pos exit]
        rw [step]
        exact ⟨unmisused, phase ▸ ⟨exit, Or.inr rfl⟩⟩
      · have step : consumerStep st = st := by
          rw [consumerStep, isLeft]
        rw [step]
        exact same

end Steps

/-! ### Runs -/

section Runs

variable {start : ChannelState Thread}

/-- A shutdown whose steps are all careful misuses nothing. -/
theorem careful_shutdown_safe (ends : LoopEnds start)
    (turns : List (Turn Thread)) (tail : ∀ turn ∈ turns, turn.IsTail)
    (careful : ∀ entry ∈ (channelModel Thread).trace start turns,
      Careful entry.before entry.input) :
    ∀ reached ∈ (channelModel Thread).reached start turns,
      reached.misused = false := by
  rcases ends.invariant with ⟨outstanding, running⟩
  have initial : ShutdownInvariant start := by
    refine ⟨running.runs.unmisused, ?_⟩
    rw [running.runs.main]
    refine ⟨outstanding, ?_⟩
    rw [← running.runs.main]
    exact running
  rw [Model.forall_reached_iff]
  refine ⟨initial.unmisused, fun entry step => ?_⟩
  have invariant := (channelModel Thread).invariant_of_mem_trace
    ShutdownInvariant (fun entry => entry.input.IsTail ∧
      Careful entry.before entry.input)
    (by
      rintro st turn invariant ⟨isTail, careful⟩
      cases turn with
      | consumer => exact consumerStep_shutdown invariant
      | main => exact mainStep_shutdown invariant careful
      | call _ _ => exact isTail.elim
      | producer _ => exact isTail.elim)
    initial
    (fun entry step =>
      ⟨tail _ ((channelModel Thread).input_of_mem_trace step),
        careful entry step⟩) step
  exact invariant.2.unmisused

end Runs

/-! ## An unsafe schedule -/

section Unsafe

variable {st : ChannelState Thread}

/-- The turns that the consumer needs to clear up and wait again. -/
def ConsumerPhase.clearingLeft : ConsumerPhase → Nat
  | .clear cleared => buffSize - cleared + 4
  | .unlock => 3
  | .postEmpty => 2
  | .testExit | .outside => 1
  | _ => 0

omit [DecidableEq Thread] in
/-- What the consumer handles is on its way no longer. -/
theorem ChannelInvariant.none_of_handled {after : ChannelState Thread}
    {event : Event} {next : Option Event}
    (before : ChannelInvariant st (some event))
    (invariant : ChannelInvariant after next)
    (acquired : after.acquired = st.acquired)
    (handled : after.handled.length = st.handled.length + 1) :
    ChannelInvariant after none := by
  rcases before.accounts with ⟨done, isAcquired, isHandled⟩
  rcases invariant.accounts with ⟨done', isAcquired', isHandled'⟩
  have length := congrArg List.length (isAcquired'.symm.trans
    (acquired.trans isAcquired))
  rw [List.length_append, List.length_append, Option.toList_some,
    List.length_singleton] at length
  rw [isHandled, isHandled', List.length_map, List.length_map] at handled
  cases next with
  | none => exact invariant
  | some other =>
      rw [Option.toList_some, List.length_singleton] at length
      omega

omit [DecidableEq Thread] in
/-- Without an event the consumer waits, or gets closer to that. -/
theorem consumerStep_clears (invariant : ChannelInvariant st none) :
    st.consumer = .waitFull ∨
      ChannelInvariant (consumerStep st) none ∧
        (consumerStep st).consumer.clearingLeft < st.consumer.clearingLeft := by
  have loops (started : st.consumer ≠ .outside) := invariant.runs.loops started
  have receives {phase : ConsumerPhase} (isPhase : st.consumer = phase)
      (active : ¬phase.Away) (notClearing : ¬ClearingAt st phase) : False := by
    rcases invariant.baton.receiving_of isPhase active notClearing with
      ⟨_, _, _, _, absurd, _⟩
    cases absurd
  have stays (less : (consumerStep st).handled.length = st.handled.length) :
      ChannelInvariant (consumerStep st) none := by
    rcases consumerStep_invariant invariant with ⟨next, holds⟩
    rcases invariant.accounts with ⟨done, isAcquired, isHandled⟩
    rcases holds.accounts with ⟨done', isAcquired', isHandled'⟩
    have length := congrArg List.length (isAcquired'.symm.trans
      ((consumerStep_same st).2.trans isAcquired))
    rw [isHandled, isHandled', List.length_map, List.length_map] at less
    cases next with
    | none => exact holds
    | some other => simp [less] at length
  cases phase : st.consumer with
  | waitFull => exact Or.inl rfl
  | outside =>
      right
      have step : consumerStep st =
          { st with exitEventLoop := false, consumer := .waitFull } := by
        rw [consumerStep, phase]
      exact ⟨stays (by rw [step]), by rw [step]; exact Nat.zero_lt_one⟩
  | clear cleared =>
      right
      by_cases more : cleared < buffSize
      · have step : consumerStep st =
            { (st.use st.freed).writeBuff cleared 0 with
              consumer := .clear (cleared + 1) } := by
          rw [consumerStep, phase]
          exact if_pos more
        refine ⟨stays (by rw [step]; rfl), ?_⟩
        rw [step]
        simp only [ConsumerPhase.clearingLeft]
        omega
      · have step : consumerStep st = { st with consumer := .unlock } := by
          rw [consumerStep, phase]
          exact if_neg more
        refine ⟨stays (by rw [step]), ?_⟩
        rw [step]
        simp only [ConsumerPhase.clearingLeft]
        omega
  | unlock =>
      right
      have step : consumerStep st =
          { st with eventLock := none, consumer := .postEmpty } := by
        rw [consumerStep, phase]
      exact ⟨stays (by rw [step]), by rw [step]; exact Nat.lt_succ_self _⟩
  | postEmpty =>
      right
      have step : consumerStep st = { st.use st.emptyDestroyed with
          eventEmpty := st.eventEmpty + 1, consumer := .testExit } := by
        rw [consumerStep, phase]
      exact ⟨stays (by rw [step]; rfl), by rw [step]; exact Nat.lt_succ_self _⟩
  | testExit =>
      right
      have step : consumerStep st = { st with consumer := .waitFull } := by
        rw [consumerStep, phase]
        dsimp only
        rw [if_neg (by simp [loops (by simp [phase])])]
      exact ⟨stays (by rw [step]), by rw [step]; exact Nat.zero_lt_one⟩
  | lock => exact (receives phase id id).elim
  | checkExit => exact (receives phase id id).elim
  | dispatch => exact (receives phase id id).elim
  | readString str => exact (receives phase id id).elim
  | callback str => exact (receives phase id id).elim
  | left => exact (receives phase id id).elim

/-- The consumer clears up and waits. -/
theorem consumer_clears (left : Nat) {st : ChannelState Thread}
    (invariant : ChannelInvariant st none)
    (isLeft : st.consumer.clearingLeft = left) :
    ∃ count, ChannelInvariant ((channelModel Thread).finalState st
        (List.replicate count .consumer)) none ∧
      ((channelModel Thread).finalState st
        (List.replicate count .consumer)).consumer = .waitFull := by
  induction left using Nat.strong_induction_on generalizing st with
  | _ left induction =>
      rcases consumerStep_clears invariant with waits | ⟨next, less⟩
      · exact ⟨0, invariant, waits⟩
      · rcases induction _ (isLeft ▸ less) next rfl with ⟨count, drained⟩
        exact ⟨count + 1, drained⟩

/-- The consumer handles a posted event before. -/
theorem consumer_handles {event : Event} (left : Nat) {st : ChannelState Thread}
    (invariant : ChannelInvariant st (some event))
    (passive : ∀ thread, (st.producers thread).Passive)
    (isLeft : st.consumer.turnsLeft event = left) :
    ∃ count, ChannelInvariant ((channelModel Thread).finalState st
        (List.replicate count .consumer)) none ∧
      ((channelModel Thread).finalState st
        (List.replicate count .consumer)).consumer = .waitFull := by
  induction left using Nat.strong_induction_on generalizing st with
  | _ left induction =>
      rcases consumerStep_invariant invariant with ⟨_, next⟩
      rcases consumerStep_same st with ⟨sameProducers, sameAcquired⟩
      rcases consumerStep_progress invariant with
        handled | ⟨sameHandled, less | ⟨_, thread, active⟩⟩
      · rcases consumer_clears _
          (invariant.none_of_handled next sameAcquired handled) rfl with
          ⟨count, drained⟩
        exact ⟨count + 1, drained⟩
      · rcases induction _ (isLeft ▸ less)
          (invariant.same_event next sameAcquired sameHandled)
          (sameProducers.symm ▸ passive) rfl with ⟨count, drained⟩
        exact ⟨count + 1, drained⟩
      · exact absurd (passive thread) active

/-- A waiting consumer is woken when `eventFull` is gone. -/
theorem waiting_consumer_misuses (invariant : ChannelInvariant st none)
    (waits : st.consumer = .waitFull) :
    ((channelModel Thread).finalState st
      (List.replicate 8 .main ++ [.consumer])).misused = true := by
  rcases invariant with ⟨runs, baton, _⟩
  have free : st.eventEmpty = 1 ∧ st.eventLock = none := by
    cases baton with
    | free empty full lock => exact ⟨empty, lock⟩
    | clearing empty full passive clearing =>
        rw [waits] at clearing
        exact clearing.elim
  simp [channelModel, List.replicate, channelStep, mainStep, consumerStep,
    runs.main, free.1, free.2, waits, ChannelState.use]

/-- Wherever the main loop ends, unless somebody is sending, the consumer can be
left to misuse what is gone. -/
theorem shutdown_misuses {start : ChannelState Thread} (ends : LoopEnds start)
    (passive : ∀ thread, (start.producers thread).Passive) :
    ∃ turns : List (Turn Thread), (∀ turn ∈ turns, turn.IsTail) ∧
      ((channelModel Thread).finalState start turns).misused = true := by
  rcases ends.invariant with ⟨outstanding, invariant⟩
  have drains : ∃ count, ChannelInvariant ((channelModel Thread).finalState start
        (List.replicate count .consumer)) none ∧
      ((channelModel Thread).finalState start
        (List.replicate count .consumer)).consumer = .waitFull := by
    cases outstanding with
    | none => exact consumer_clears _ invariant rfl
    | some event => exact consumer_handles _ invariant passive rfl
  rcases drains with ⟨count, drained, waits⟩
  refine ⟨List.replicate count Turn.consumer ++
    (List.replicate 8 Turn.main ++ [Turn.consumer]), ?_, ?_⟩
  · intro turn member
    simp only [List.mem_append, List.mem_replicate, List.mem_singleton] at member
    rcases member with ⟨_, rfl⟩ | ⟨_, rfl⟩ | rfl <;> trivial
  · rw [Model.finalState_append]
    exact waiting_consumer_misuses drained waits

/-! ### A consumer that waits -/

/-- The main loop returns before there was any event. -/
def quietEnd : ChannelState Unit := .start true false .noEvent fun _ => 0

theorem quietEnd_ends : LoopEnds quietEnd :=
  ⟨true, false, .noEvent, fun _ => 0, fun _ => .consumer, 0,
    fun _ absurd => (by cases absurd), rfl⟩

theorem shutdown_not_always_safe :
    ¬∀ start : ChannelState Unit, LoopEnds start →
      ∀ turns : List (Turn Unit), (∀ turn ∈ turns, turn.IsTail) →
      ((channelModel Unit).finalState start turns).misused = false := by
  intro always
  rcases shutdown_misuses quietEnd_ends (fun _ => trivial) with ⟨turns, tail, misused⟩
  rw [always quietEnd quietEnd_ends turns tail] at misused
  cases misused

/-- The consumer leaves before the semaphores are destroyed. -/
def carefulTurns : List (Turn Unit) :=
  List.replicate 7 .main ++ List.replicate 6 .consumer ++
    List.replicate 2 .main

theorem careful_shutdown_safe_quiet :
    ((channelModel Unit).finalState quietEnd carefulTurns).misused = false :=
  careful_shutdown_safe quietEnd_ends carefulTurns
    (by simp [carefulTurns, List.replicate, Turn.IsTail])
    (by
      simp [carefulTurns, List.replicate, quietEnd, ChannelState.start,
        channelModel, channelStep, mainStep, consumerStep, Careful,
        ConsumerPhase.DoneWithBuff, ConsumerPhase.Leaving, ChannelState.use])
    _ (Model.finalState_mem_reached _ _ _)

end Unsafe

end Meshctl.Gui
