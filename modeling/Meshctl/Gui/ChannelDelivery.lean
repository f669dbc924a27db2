import Meshctl.Foundation.Schedule
import Meshctl.Gui.EventChannel

/-! # The event channel loses nothing

At any time one thread at most is allowed at the buffer: a producer that passed
`eventEmpty`, or else the consumer. Whoever it is leaves the buffer as the next
one expects it.
-/

namespace Meshctl.Gui

open Bytes Execution

variable {Thread : Type*}

/-! ## The buffer -/

/-- The buffer holds a string and zeros behind it. -/
def HoldsText (memory : Nat → Byte) (text : List Byte) : Prop :=
  ∀ index < buffSize, memory index = get text index

theorem HoldsText.write {memory : Nat → Byte} {str : List Byte} {copied : Nat}
    (holds : HoldsText memory (str.take copied)) (more : copied < str.length) :
    HoldsText (Function.update memory copied (get str copied))
      (str.take (copied + 1)) := by
  intro index inBuff
  by_cases same : index = copied
  · subst same
    rw [Function.update_self, get_take (Nat.lt_succ_self _)]
  · rw [Function.update_of_ne same, holds index inBuff]
    by_cases before : index < copied
    · rw [get_take before, get_take (Nat.lt_succ_of_lt before)]
    · rw [get_of_le (by rw [List.length_take]; omega),
        get_of_le (by rw [List.length_take]; omega)]

/-- The string is read back up to its terminator. -/
theorem HoldsText.get_eq_zero_iff {memory : Nat → Byte} {event : Event}
    {index : Nat} (holds : HoldsText memory event.str)
    (inside : index ≤ event.str.length) :
    memory index = 0 ↔ index = event.str.length := by
  rw [holds index (Nat.lt_of_le_of_lt inside event.short)]
  constructor
  · intro zero
    by_contra apart
    have inStr : index < event.str.length := Nat.lt_of_le_of_ne inside apart
    rw [get_of_lt inStr] at zero
    exact event.terminated _ (List.getElem_mem inStr) zero
  · intro isEnd
    exact get_of_le (Nat.le_of_eq isEnd.symm)

/-! ## Whose turn it is -/

/-- The thread has not passed `eventEmpty`. -/
def ProducerPhase.Passive : ProducerPhase → Prop
  | .outside | .waitEmpty _ => True
  | _ => False

/-- The consumer has no event, and is done with the last one. -/
def ConsumerPhase.Away : ConsumerPhase → Prop
  | .outside | .waitFull | .testExit => True
  | _ => False

/-- Both variables of an event are set. -/
def Ready (st : ChannelState Thread) (event : Event) : Prop :=
  st.javaEvent = event.key ∧ HoldsText st.stringBuff event.str

/-- How far a thread is that passed `eventEmpty`. -/
def SendingAt (st : ChannelState Thread) (thread : Thread) (event : Event) :
    ProducerPhase → Prop
  | .lock arg => arg = event ∧ st.eventLock = none ∧ HoldsText st.stringBuff []
  | .storeKey arg =>
      arg = event ∧ st.eventLock = some (.producer thread) ∧
        HoldsText st.stringBuff []
  | .copy arg copied =>
      arg = event ∧ st.eventLock = some (.producer thread) ∧
        st.javaEvent = event.key ∧ copied ≤ event.str.length ∧
        HoldsText st.stringBuff (event.str.take copied)
  | .postFull arg => arg = event ∧ st.eventLock = none ∧ Ready st event
  | .outside | .waitEmpty _ => False

/-- How far the consumer is with an event. -/
def ReceivingAt (st : ChannelState Thread) (event : Event) :
    ConsumerPhase → Prop
  | .lock => st.eventLock = none ∧ Ready st event
  | .checkExit | .dispatch => st.eventLock = some .consumer ∧ Ready st event
  | .readString str =>
      st.eventLock = some .consumer ∧ Ready st event ∧
        event.key.isCallback = true ∧ str.length ≤ event.str.length ∧
        str = event.str.take str.length
  | .callback str =>
      st.eventLock = some .consumer ∧ Ready st event ∧
        event.key.isCallback = true ∧ str = event.str
  | _ => False

/-- How far the consumer is behind an event. -/
def ClearingAt (st : ChannelState Thread) : ConsumerPhase → Prop
  | .clear cleared =>
      st.eventLock = some .consumer ∧ cleared ≤ buffSize ∧
        ∀ index < cleared, st.stringBuff index = 0
  | .unlock => st.eventLock = some .consumer ∧ HoldsText st.stringBuff []
  | .postEmpty => st.eventLock = none ∧ HoldsText st.stringBuff []
  | _ => False

/-- Who is allowed at the buffer, and which event is on its way. -/
inductive Baton (st : ChannelState Thread) : Option Event → Prop where
  | free (empty : st.eventEmpty = 1) (full : st.eventFull = 0)
      (lock : st.eventLock = none) (away : st.consumer.Away)
      (passive : ∀ thread, (st.producers thread).Passive)
      (text : HoldsText st.stringBuff []) : Baton st none
  | sending {thread : Thread} {event : Event} (empty : st.eventEmpty = 0)
      (full : st.eventFull = 0) (away : st.consumer.Away)
      (passive : ∀ other ≠ thread, (st.producers other).Passive)
      (phase : SendingAt st thread event (st.producers thread)) :
      Baton st (some event)
  | sent {event : Event} (empty : st.eventEmpty = 0) (full : st.eventFull = 1)
      (lock : st.eventLock = none) (away : st.consumer.Away)
      (passive : ∀ thread, (st.producers thread).Passive)
      (ready : Ready st event) : Baton st (some event)
  | receiving {event : Event} (empty : st.eventEmpty = 0)
      (full : st.eventFull = 0)
      (passive : ∀ thread, (st.producers thread).Passive)
      (phase : ReceivingAt st event st.consumer) : Baton st (some event)
  | clearing (empty : st.eventEmpty = 0) (full : st.eventFull = 0)
      (passive : ∀ thread, (st.producers thread).Passive)
      (phase : ClearingAt st st.consumer) : Baton st none

/-- The events whose producers passed `eventEmpty` are those that were handled,
in that order, and the one on its way. -/
def Accounts (st : ChannelState Thread) (outstanding : Option Event) : Prop :=
  ∃ done, st.acquired = done ++ outstanding.toList ∧
    st.handled = done.map Event.handled

/-- The main loop runs, and the consumer has reset the flag. -/
structure MainRuns (st : ChannelState Thread) : Prop where
  main : st.main = .mainloop
  present : st.freed = false
  emptyPresent : st.emptyDestroyed = false
  fullPresent : st.fullDestroyed = false
  unmisused : st.misused = false
  loops : st.consumer ≠ .outside → st.exitEventLoop = false

/-- What holds while the main loop runs. -/
structure ChannelInvariant (st : ChannelState Thread) (outstanding : Option Event) :
    Prop where
  runs : MainRuns st
  baton : Baton st outstanding
  accounts : Accounts st outstanding

theorem channelInvariant_start (entered exitEventLoop : Bool)
    (javaEvent : EventKey) (memory : Nat → Byte) :
    ChannelInvariant (.start entered exitEventLoop javaEvent memory :
      ChannelState Thread) none := by
  constructor
  · refine ⟨rfl, rfl, rfl, rfl, rfl, ?_⟩
    cases entered
    · exact fun started => absurd rfl started
    · exact fun _ => rfl
  · apply Baton.free
    · rfl
    · rfl
    · rfl
    · cases entered <;> trivial
    · exact fun _ => trivial
    · exact fun index inBuff => if_pos inBuff
  · exact ⟨[], rfl, rfl⟩

/-- Nothing but the consumer's loop depends on where the threads are. -/
theorem MainRuns.of_eq {st after : ChannelState Thread} (runs : MainRuns st)
    (main : after.main = st.main) (freed : after.freed = st.freed)
    (emptyDestroyed : after.emptyDestroyed = st.emptyDestroyed)
    (fullDestroyed : after.fullDestroyed = st.fullDestroyed)
    (misused : after.misused = st.misused)
    (loops : after.consumer ≠ .outside → after.exitEventLoop = false) :
    MainRuns after :=
  ⟨main.trans runs.main, freed.trans runs.present,
    emptyDestroyed.trans runs.emptyPresent, fullDestroyed.trans runs.fullPresent,
    misused.trans runs.unmisused, loops⟩

/-- While the main loop runs, neither the buffer nor a semaphore is gone. -/
theorem MainRuns.useBuff {st : ChannelState Thread} (runs : MainRuns st) :
    st.use st.freed = st := by
  rw [runs.present, ChannelState.use_false]

theorem MainRuns.useEmpty {st : ChannelState Thread} (runs : MainRuns st) :
    st.use st.emptyDestroyed = st := by
  rw [runs.emptyPresent, ChannelState.use_false]

theorem MainRuns.useFull {st : ChannelState Thread} (runs : MainRuns st) :
    st.use st.fullDestroyed = st := by
  rw [runs.fullPresent, ChannelState.use_false]

/-! ## Producers -/

section Producer

variable [DecidableEq Thread] {st : ChannelState Thread} {outstanding : Option Event}

/-- A thread that becomes passive leaves all but `sender` passive. -/
theorem passive_update {producers : Thread → ProducerPhase}
    {thread sender : Thread} {phase : ProducerPhase} (isPassive : phase.Passive)
    (passive : ∀ other ≠ sender, (producers other).Passive) :
    ∀ other ≠ sender, (Function.update producers thread phase other).Passive := by
  intro other notSender
  by_cases same : other = thread
  · rw [same, Function.update_self]
    exact isPassive
  · rw [Function.update_of_ne same]
    exact passive other notSender

/-- The one thread that was not passive becomes so. -/
theorem passive_update_sender {producers : Thread → ProducerPhase}
    {sender : Thread} {phase : ProducerPhase} (isPassive : phase.Passive)
    (passive : ∀ other ≠ sender, (producers other).Passive) (other : Thread) :
    (Function.update producers sender phase other).Passive := by
  by_cases same : other = sender
  · rw [same, Function.update_self]
    exact isPassive
  · rw [Function.update_of_ne same]
    exact passive other same

/-- The others stay as they are. -/
theorem passive_update_others {producers : Thread → ProducerPhase}
    {sender : Thread} (phase : ProducerPhase)
    (passive : ∀ other ≠ sender, (producers other).Passive) :
    ∀ other ≠ sender, (Function.update producers sender phase other).Passive := by
  intro other notSender
  rw [Function.update_of_ne notSender]
  exact passive other notSender

theorem callStep_invariant (thread : Thread) (call : Event)
    (invariant : ChannelInvariant st outstanding) :
    ChannelInvariant (callStep thread call st) outstanding := by
  rcases invariant with ⟨runs, baton, accounts⟩
  rw [callStep]
  cases phase : st.producers thread with
  | outside =>
      refine ⟨⟨runs.main, runs.present, runs.emptyPresent, runs.fullPresent,
        runs.unmisused, runs.loops⟩, ?_, accounts⟩
      cases baton with
      | free empty full lock away passive text =>
          exact .free empty full lock away
            (passive_update_sender trivial fun other _ => passive other) text
      | @sending sender event empty full away passive sending =>
          have apart : sender ≠ thread := by
            intro same
            rw [same, phase] at sending
            exact sending
          refine @Baton.sending _ _ sender event empty full away
            (passive_update trivial passive) ?_
          have kept : (st.setProducer thread (.waitEmpty call)).producers sender =
              st.producers sender := Function.update_of_ne apart _ _
          rw [kept]
          exact sending
      | sent empty full lock away passive ready =>
          exact .sent empty full lock away
            (passive_update_sender trivial fun other _ => passive other) ready
      | receiving empty full passive receiving =>
          exact .receiving empty full
            (passive_update_sender trivial fun other _ => passive other) receiving
      | clearing empty full passive clearing =>
          exact .clearing empty full
            (passive_update_sender trivial fun other _ => passive other) clearing
  | _ => exact ⟨runs, baton, accounts⟩

/-- Only the thread whose event is on its way is past `eventEmpty`. -/
theorem Baton.sending_of_active (baton : Baton st outstanding) {thread : Thread}
    (active : ¬(st.producers thread).Passive) :
    ∃ event, outstanding = some event ∧ st.eventEmpty = 0 ∧ st.eventFull = 0 ∧
      st.consumer.Away ∧ (∀ other ≠ thread, (st.producers other).Passive) ∧
      SendingAt st thread event (st.producers thread) := by
  cases baton with
  | free empty full lock away passive text => exact absurd (passive thread) active
  | @sending sender event empty full away passive sending =>
      have same : thread = sender := by
        by_contra apart
        exact active (passive thread apart)
      subst same
      exact ⟨event, rfl, empty, full, away, passive, sending⟩
  | sent empty full lock away passive ready => exact absurd (passive thread) active
  | receiving empty full passive receiving => exact absurd (passive thread) active
  | clearing empty full passive clearing => exact absurd (passive thread) active

/-- A thread that goes on stays the only one. -/
theorem Baton.sending_on {after : ChannelState Thread} {thread : Thread}
    {event : Event} {phase : ProducerPhase}
    (producers : after.producers = Function.update st.producers thread phase)
    (empty : after.eventEmpty = 0) (full : after.eventFull = 0)
    (away : after.consumer.Away)
    (passive : ∀ other ≠ thread, (st.producers other).Passive)
    (sending : SendingAt after thread event phase) :
    Baton after (some event) := by
  apply @Baton.sending _ after thread event empty full away
  · rw [producers]
    exact passive_update_others phase passive
  · rw [producers, Function.update_self]
    exact sending

/-- One step of a thread in `sendEventToJava`. -/
theorem producerStep_invariant (thread : Thread)
    (invariant : ChannelInvariant st outstanding) :
    ∃ next, ChannelInvariant (producerStep thread st) next := by
  rcases invariant with ⟨runs, baton, accounts⟩
  have same := ChannelInvariant.mk runs baton accounts
  have active (past : ¬(st.producers thread).Passive) :=
    baton.sending_of_active past
  rw [producerStep]
  cases phase : st.producers thread with
  | outside => exact ⟨outstanding, same⟩
  | waitEmpty call =>
      dsimp only
      split
      next => exact ⟨outstanding, same⟩
      next mayPass =>
        cases baton with
        | free empty full lock away passive text =>
            refine ⟨some call, runs.of_eq rfl rfl rfl rfl rfl runs.loops, ?_, ?_⟩
            · exact .sending_on rfl (congrArg (· - 1) empty) full away
                (fun other _ => passive other) ⟨rfl, lock, text⟩
            · rcases accounts with ⟨done, acquired, handled⟩
              refine ⟨done, ?_, handled⟩
              rw [Option.toList_none, List.append_nil] at acquired
              exact congrArg (· ++ [call]) acquired
        | sending empty => exact absurd empty mayPass
        | sent empty => exact absurd empty mayPass
        | receiving empty => exact absurd empty mayPass
        | clearing empty => exact absurd empty mayPass
  | lock call =>
      rcases active (by rw [phase]; exact id) with
        ⟨event, isOut, empty, full, away, passive, sending⟩
      rw [phase] at sending
      rcases sending with ⟨isCall, lock, text⟩
      subst isOut
      dsimp only
      rw [if_neg (by simp [lock])]
      exact ⟨some event, runs.of_eq rfl rfl rfl rfl rfl runs.loops,
        .sending_on rfl empty full away passive ⟨isCall, rfl, text⟩, accounts⟩
  | storeKey call =>
      rcases active (by rw [phase]; exact id) with
        ⟨event, isOut, empty, full, away, passive, sending⟩
      rw [phase] at sending
      rcases sending with ⟨isCall, lock, text⟩
      subst isOut isCall
      exact ⟨some call, runs.of_eq rfl rfl rfl rfl rfl runs.loops,
        .sending_on rfl empty full away passive
          ⟨rfl, lock, rfl, Nat.zero_le _, text⟩, accounts⟩
  | copy call copied =>
      rcases active (by rw [phase]; exact id) with
        ⟨event, isOut, empty, full, away, passive, sending⟩
      rw [phase] at sending
      rcases sending with ⟨isCall, lock, key, inside, text⟩
      subst isOut isCall
      dsimp only
      split
      next more =>
        exact ⟨some call, runs.of_eq rfl rfl rfl rfl rfl runs.loops,
          .sending_on rfl empty full away passive
            ⟨rfl, lock, key, more, text.write more⟩, accounts⟩
      next done =>
        rw [List.take_of_length_le (Nat.le_of_not_lt done)] at text
        exact ⟨some call, runs.of_eq rfl rfl rfl rfl rfl runs.loops,
          .sending_on rfl empty full away passive ⟨rfl, rfl, key, text⟩, accounts⟩
  | postFull call =>
      rcases active (by rw [phase]; exact id) with
        ⟨event, isOut, empty, full, away, passive, sending⟩
      rw [phase] at sending
      rcases sending with ⟨isCall, lock, ready⟩
      subst isOut
      exact ⟨some event, runs.of_eq rfl rfl rfl rfl rfl runs.loops,
        .sent empty (congrArg (· + 1) full) lock away
          (passive_update_sender trivial passive) ready, accounts⟩

end Producer

/-! ## The consumer -/

section Consumer

variable {st : ChannelState Thread} {outstanding : Option Event}

/-- A consumer that is not away has an event, or is clearing up behind one. -/
theorem Baton.consumer_cases (baton : Baton st outstanding)
    (active : ¬st.consumer.Away) :
    st.eventEmpty = 0 ∧ st.eventFull = 0 ∧
      (∀ thread, (st.producers thread).Passive) ∧
      ((∃ event, outstanding = some event ∧ ReceivingAt st event st.consumer) ∨
        outstanding = none ∧ ClearingAt st st.consumer) := by
  cases baton with
  | free empty full lock away passive text => exact absurd away active
  | sending empty full away passive sending => exact absurd away active
  | sent empty full lock away passive ready => exact absurd away active
  | receiving empty full passive receiving =>
      exact ⟨empty, full, passive, Or.inl ⟨_, rfl, receiving⟩⟩
  | clearing empty full passive clearing =>
      exact ⟨empty, full, passive, Or.inr ⟨rfl, clearing⟩⟩

theorem Baton.receiving_of (baton : Baton st outstanding) {phase : ConsumerPhase}
    (isPhase : st.consumer = phase) (active : ¬phase.Away)
    (notClearing : ¬ClearingAt st phase) :
    st.eventEmpty = 0 ∧ st.eventFull = 0 ∧
      (∀ thread, (st.producers thread).Passive) ∧
      ∃ event, outstanding = some event ∧ ReceivingAt st event phase := by
  subst isPhase
  rcases baton.consumer_cases active with
    ⟨empty, full, passive, receiving | ⟨_, clearing⟩⟩
  · exact ⟨empty, full, passive, receiving⟩
  · exact absurd clearing notClearing

theorem Baton.clearing_of (baton : Baton st outstanding) {phase : ConsumerPhase}
    (isPhase : st.consumer = phase) (active : ¬phase.Away)
    (notReceiving : ∀ event, ¬ReceivingAt st event phase) :
    st.eventEmpty = 0 ∧ st.eventFull = 0 ∧
      (∀ thread, (st.producers thread).Passive) ∧
      outstanding = none ∧ ClearingAt st phase := by
  subst isPhase
  rcases baton.consumer_cases active with
    ⟨empty, full, passive, ⟨event, _, receiving⟩ | clearing⟩
  · exact absurd receiving (notReceiving event)
  · exact ⟨empty, full, passive, clearing⟩

theorem Baton.stays_away (baton : Baton st outstanding) {phase : ConsumerPhase}
    (away : st.consumer.Away) (stays : phase.Away) (exitEventLoop : Bool) :
    Baton { st with exitEventLoop, consumer := phase } outstanding := by
  cases baton with
  | free empty full lock _ passive text =>
      exact .free empty full lock stays passive text
  | sending empty full _ passive sending =>
      exact .sending empty full stays passive sending
  | sent empty full lock _ passive ready =>
      exact .sent empty full lock stays passive ready
  | receiving empty full passive receiving =>
      cases phase : st.consumer <;> rw [phase] at away receiving <;>
        first | exact away.elim | exact receiving.elim
  | clearing empty full passive clearing =>
      cases phase : st.consumer <;> rw [phase] at away clearing <;>
        first | exact away.elim | exact clearing.elim

theorem Event.handled_ignored {event : Event}
    (other : event.key.isCallback ≠ true) :
    event.handled = .ignored event.key := if_neg other

theorem Event.handled_callback {event : Event}
    (isCallback : event.key.isCallback = true) :
    event.handled = .callback event.key event.str := if_pos isCallback

/-- The event on its way is handled. -/
theorem Accounts.handle {after : ChannelState Thread} {event : Event}
    (accounts : Accounts st (some event)) (acquired : after.acquired = st.acquired)
    (handled : after.handled = st.handled ++ [event.handled]) :
    Accounts after none := by
  rcases accounts with ⟨done, isAcquired, isHandled⟩
  refine ⟨done ++ [event], ?_, ?_⟩
  · rw [acquired, isAcquired]
    exact (List.append_nil _).symm
  · rw [handled, isHandled, List.map_append]
    rfl

/-- The consumer is not at the buffer, and takes the event if it is posted. -/
theorem consumerStep_away (invariant : ChannelInvariant st outstanding)
    (away : st.consumer.Away) :
    ∃ next, ChannelInvariant (consumerStep st) next := by
  rcases invariant with ⟨runs, baton, accounts⟩
  have same := ChannelInvariant.mk runs baton accounts
  rw [consumerStep]
  cases phase : st.consumer with
  | outside =>
      exact ⟨outstanding, runs.of_eq rfl rfl rfl rfl rfl fun _ => rfl,
        @Baton.stays_away _ st outstanding baton .waitFull away trivial false,
        accounts⟩
  | waitFull =>
      have loops := runs.loops (by simp [phase])
      dsimp only
      rw [runs.useFull]
      split
      next => exact ⟨outstanding, same⟩
      next mayPass =>
        cases baton with
        | free empty full => exact absurd full mayPass
        | sending empty full => exact absurd full mayPass
        | receiving empty full => exact absurd full mayPass
        | clearing empty full => exact absurd full mayPass
        | @sent event empty full lock away passive ready =>
            exact ⟨some event, runs.of_eq rfl rfl rfl rfl rfl fun _ => loops,
              .receiving empty (congrArg (· - 1) full) passive ⟨lock, ready⟩,
              accounts⟩
  | testExit =>
      have loops := runs.loops (by simp [phase])
      dsimp only
      rw [if_neg (by simp [loops])]
      exact ⟨outstanding, runs.of_eq rfl rfl rfl rfl rfl fun _ => loops,
        @Baton.stays_away _ st outstanding baton .waitFull away trivial
          st.exitEventLoop, accounts⟩
  | _ =>
      rw [phase] at away
      exact away.elim

/-- The consumer goes on with an event, up to handling it. -/
theorem consumerStep_receiving {event : Event} (runs : MainRuns st)
    (accounts : Accounts st (some event)) (empty : st.eventEmpty = 0)
    (full : st.eventFull = 0) (passive : ∀ thread, (st.producers thread).Passive)
    (receiving : ReceivingAt st event st.consumer) :
    ∃ next, ChannelInvariant (consumerStep st) next := by
  rw [consumerStep]
  cases phase : st.consumer with
  | lock =>
      have loops := runs.loops (by simp [phase])
      rw [phase] at receiving
      rcases receiving with ⟨lock, ready⟩
      dsimp only
      rw [if_neg (by simp [lock])]
      exact ⟨some event, runs.of_eq rfl rfl rfl rfl rfl fun _ => loops,
        .receiving empty full passive ⟨rfl, ready⟩, accounts⟩
  | checkExit =>
      have loops := runs.loops (by simp [phase])
      rw [phase] at receiving
      dsimp only
      rw [if_neg (by simp [loops])]
      exact ⟨some event, runs.of_eq rfl rfl rfl rfl rfl fun _ => loops,
        .receiving empty full passive receiving, accounts⟩
  | dispatch =>
      have loops := runs.loops (by simp [phase])
      rw [phase] at receiving
      rcases receiving with ⟨lock, key, text⟩
      by_cases isCallback : event.key.isCallback = true
      · dsimp only
        rw [if_pos (by rw [key]; exact isCallback)]
        exact ⟨some event, runs.of_eq rfl rfl rfl rfl rfl fun _ => loops,
          .receiving empty full passive ⟨lock, ⟨key, text⟩, isCallback,
            Nat.zero_le _, rfl⟩, accounts⟩
      · dsimp only
        rw [if_neg (by rw [key]; exact isCallback)]
        refine ⟨none, runs.of_eq rfl rfl rfl rfl rfl fun _ => loops,
          .clearing empty full passive
            ⟨lock, Nat.zero_le _, fun _ before => absurd before (by simp)⟩, ?_⟩
        apply accounts.handle
        · rfl
        · rw [Event.handled_ignored isCallback, key]
  | readString str =>
      have loops := runs.loops (by simp [phase])
      rw [phase] at receiving
      rcases receiving with ⟨lock, ready, isCallback, inside, isTake⟩
      have isZero := ready.2.get_eq_zero_iff inside
      dsimp only
      rw [runs.useBuff]
      split
      next zero =>
        rw [isZero.mp zero, List.take_length] at isTake
        exact ⟨some event, runs.of_eq rfl rfl rfl rfl rfl fun _ => loops,
          .receiving empty full passive ⟨lock, ready, isCallback, isTake⟩,
          accounts⟩
      next nonzero =>
        have more : str.length < event.str.length :=
          Nat.lt_of_le_of_ne inside fun isEnd => nonzero (isZero.mpr isEnd)
        have isByte : st.stringBuff str.length = event.str[str.length] := by
          rw [ready.2 _ (Nat.lt_trans more event.short), get_of_lt more]
        refine ⟨some event, runs.of_eq rfl rfl rfl rfl rfl fun _ => loops,
          .receiving empty full passive ⟨lock, ready, isCallback, ?_, ?_⟩,
          accounts⟩
        · rw [List.length_append]
          exact more
        · rw [List.length_append, List.length_singleton, List.take_add_one,
            List.getElem?_eq_getElem more, ← isTake, isByte]
          rfl
  | callback str =>
      have loops := runs.loops (by simp [phase])
      rw [phase] at receiving
      rcases receiving with ⟨lock, ready, isCallback, isStr⟩
      refine ⟨none, runs.of_eq rfl rfl rfl rfl rfl fun _ => loops,
        .clearing empty full passive
          ⟨lock, Nat.zero_le _, fun _ before => absurd before (by simp)⟩, ?_⟩
      apply accounts.handle
      · rfl
      · rw [Event.handled_callback isCallback, isStr, ← ready.1]
  | _ =>
      rw [phase] at receiving
      exact receiving.elim

/-- The consumer clears the buffer and lets the next producer in. -/
theorem consumerStep_clearing (runs : MainRuns st) (accounts : Accounts st none)
    (empty : st.eventEmpty = 0) (full : st.eventFull = 0)
    (passive : ∀ thread, (st.producers thread).Passive)
    (clearing : ClearingAt st st.consumer) :
    ∃ next, ChannelInvariant (consumerStep st) next := by
  rw [consumerStep]
  cases phase : st.consumer with
  | clear cleared =>
      have loops := runs.loops (by simp [phase])
      rw [phase] at clearing
      rcases clearing with ⟨lock, inBuff, zeros⟩
      dsimp only
      rw [runs.useBuff]
      split
      next more =>
        refine ⟨none, runs.of_eq rfl rfl rfl rfl rfl fun _ => loops,
          .clearing empty full passive ⟨lock, more, ?_⟩, accounts⟩
        intro index before
        by_cases same : index = cleared
        · rw [same]
          exact Function.update_self _ _ _
        · refine (Function.update_of_ne same _ _).trans (zeros index ?_)
          omega
      next done =>
        refine ⟨none, runs.of_eq rfl rfl rfl rfl rfl fun _ => loops,
          .clearing empty full passive ⟨lock, ?_⟩, accounts⟩
        exact fun index inside => zeros index (by omega)
  | unlock =>
      have loops := runs.loops (by simp [phase])
      rw [phase] at clearing
      exact ⟨none, runs.of_eq rfl rfl rfl rfl rfl fun _ => loops,
        .clearing empty full passive ⟨rfl, clearing.2⟩, accounts⟩
  | postEmpty =>
      have loops := runs.loops (by simp [phase])
      rw [phase] at clearing
      rcases clearing with ⟨lock, text⟩
      dsimp only
      rw [runs.useEmpty]
      exact ⟨none, runs.of_eq rfl rfl rfl rfl rfl fun _ => loops,
        .free (congrArg (· + 1) empty) full lock trivial passive text, accounts⟩
  | _ =>
      rw [phase] at clearing
      exact clearing.elim

/-- One step of `eventCallback`. -/
theorem consumerStep_invariant (invariant : ChannelInvariant st outstanding) :
    ∃ next, ChannelInvariant (consumerStep st) next := by
  by_cases away : st.consumer.Away
  · exact consumerStep_away invariant away
  · rcases invariant with ⟨runs, baton, accounts⟩
    rcases baton.consumer_cases away with
      ⟨empty, full, passive, ⟨event, isOut, receiving⟩ | ⟨isOut, clearing⟩⟩
    · exact consumerStep_receiving runs (isOut ▸ accounts) empty full passive receiving
    · exact consumerStep_clearing runs (isOut ▸ accounts) empty full passive clearing

end Consumer

/-! ## Runs of the main loop -/

section Runs

variable [DecidableEq Thread] {st : ChannelState Thread}
  {outstanding : Option Event}

theorem channelStep_invariant {turn : Turn Thread} (loops : turn ≠ .main)
    (invariant : ChannelInvariant st outstanding) :
    ∃ next, ChannelInvariant (channelStep st turn) next := by
  cases turn with
  | call thread call =>
      exact ⟨outstanding, callStep_invariant thread call invariant⟩
  | producer thread => exact producerStep_invariant thread invariant
  | consumer => exact consumerStep_invariant invariant
  | main => exact absurd rfl loops

/-! ### Progress -/

/-- The turns that a thread needs until it has posted its event. -/
def ProducerPhase.turnsLeft : ProducerPhase → Nat
  | .lock event => event.str.length + 4
  | .storeKey event => event.str.length + 3
  | .copy event copied => event.str.length - copied + 2
  | .postFull _ => 1
  | .outside | .waitEmpty _ => 0

/-- The turns that the consumer needs until it has handled an event that is
posted. -/
def ConsumerPhase.turnsLeft (event : Event) : ConsumerPhase → Nat
  | .outside | .testExit => event.str.length + 9
  | .waitFull => event.str.length + 8
  | .lock => event.str.length + 7
  | .checkExit => event.str.length + 6
  | .dispatch => event.str.length + 5
  | .readString str => event.str.length - str.length + 3
  | .callback _ => 2
  | _ => 0

omit [DecidableEq Thread] in
/-- The consumer's turns have no effect on the producers. -/
theorem consumerStep_same (st : ChannelState Thread) :
    (consumerStep st).producers = st.producers ∧
      (consumerStep st).acquired = st.acquired := by
  rw [consumerStep]
  cases st.consumer <;> dsimp only <;>
    first | exact ⟨rfl, rfl⟩ | (split <;> exact ⟨rfl, rfl⟩)

omit [DecidableEq Thread] in
/-- As long as nothing is acquired or handled, the same event is on its way. -/
theorem ChannelInvariant.same_event {after : ChannelState Thread} {event : Event}
    {next : Option Event} (before : ChannelInvariant st (some event))
    (invariant : ChannelInvariant after next)
    (acquired : after.acquired = st.acquired) (handled : after.handled = st.handled) :
    ChannelInvariant after (some event) := by
  rcases before.accounts with ⟨done, isAcquired, isHandled⟩
  rcases invariant.accounts with ⟨done', isAcquired', isHandled'⟩
  have length : done'.length = done.length := by
    have same := congrArg List.length (isHandled'.symm.trans
      (handled.trans isHandled))
    rwa [List.length_map, List.length_map] at same
  have same : done' ++ next.toList = done ++ (some event).toList := by
    rw [← isAcquired', acquired, isAcquired]
  have isNext := (List.append_inj same length).2
  cases next with
  | none => cases isNext
  | some other =>
      have isEvent : other = event := by
        simpa only [Option.toList_some, List.cons.injEq, and_true] using isNext
      exact isEvent ▸ invariant

omit [DecidableEq Thread] in
/-- A turn of the consumer handles the event, or brings it closer to that,
unless the event was not posted yet. -/
theorem consumerStep_progress {event : Event}
    (invariant : ChannelInvariant st (some event)) :
    (consumerStep st).handled.length = st.handled.length + 1 ∨
      (consumerStep st).handled = st.handled ∧
        ((consumerStep st).consumer.turnsLeft event <
            st.consumer.turnsLeft event ∨
          consumerStep st = st ∧
            ∃ thread, ¬(st.producers thread).Passive) := by
  rcases invariant with ⟨runs, baton, accounts⟩
  have loops (started : st.consumer ≠ .outside) := runs.loops started
  have finished {phase : ConsumerPhase} (isPhase : st.consumer = phase)
      (active : ¬phase.Away) (notReceiving : ∀ event, ¬ReceivingAt st event phase) :
      False := by
    rcases baton.clearing_of isPhase active notReceiving with ⟨_, _, _, none, _⟩
    cases none
  rw [consumerStep]
  cases phase : st.consumer with
  | outside => exact Or.inr ⟨rfl, Or.inl (Nat.lt_succ_self _)⟩
  | waitFull =>
      dsimp only
      rw [runs.useFull]
      split
      next blocked =>
        refine Or.inr ⟨rfl, Or.inr ⟨rfl, ?_⟩⟩
        cases baton with
        | @sending thread event empty full away passive sending =>
            refine ⟨thread, fun isPassive => ?_⟩
            cases isPhase : st.producers thread <;>
              rw [isPhase] at isPassive sending <;>
              first | exact isPassive.elim | exact sending.elim
        | sent empty full => rw [full] at blocked; cases blocked
        | receiving empty full passive receiving =>
            rw [phase] at receiving
            exact receiving.elim
      next => exact Or.inr ⟨rfl, Or.inl (Nat.lt_succ_self _)⟩
  | lock =>
      rcases baton.receiving_of phase id id with
        ⟨_, _, _, _, _, lock, _⟩
      dsimp only
      rw [if_neg (by simp [lock])]
      exact Or.inr ⟨rfl, Or.inl (Nat.lt_succ_self _)⟩
  | checkExit =>
      dsimp only
      rw [if_neg (by simp [loops (by simp [phase])])]
      exact Or.inr ⟨rfl, Or.inl (Nat.lt_succ_self _)⟩
  | dispatch =>
      dsimp only
      split
      next =>
        refine Or.inr ⟨rfl, Or.inl ?_⟩
        simp only [ConsumerPhase.turnsLeft, List.length_nil]
        omega
      next => exact Or.inl (List.length_append)
  | readString str =>
      rcases baton.receiving_of phase id id with
        ⟨_, _, _, other, isOther, _, ready, _, inside, _⟩
      have isZero := ready.2.get_eq_zero_iff inside
      cases isOther
      dsimp only
      rw [runs.useBuff]
      split
      next =>
        refine Or.inr ⟨rfl, Or.inl ?_⟩
        simp only [ConsumerPhase.turnsLeft]
        omega
      next nonzero =>
        have more : str.length < event.str.length :=
          Nat.lt_of_le_of_ne inside fun isEnd => nonzero (isZero.mpr isEnd)
        refine Or.inr ⟨rfl, Or.inl ?_⟩
        simp only [ConsumerPhase.turnsLeft, List.length_append,
          List.length_singleton]
        omega
  | callback str => exact Or.inl List.length_append
  | clear cleared => exact (finished phase id fun _ => id).elim
  | unlock => exact (finished phase id fun _ => id).elim
  | postEmpty => exact (finished phase id fun _ => id).elim
  | testExit =>
      dsimp only
      rw [if_neg (by simp [loops (by simp [phase])])]
      exact Or.inr ⟨rfl, Or.inl (Nat.lt_succ_self _)⟩
  | left => exact (finished phase id fun _ => id).elim

/-- While an event is on its way, only its producer can do anything. -/
theorem producerStep_progress {event : Event} {thread : Thread}
    (invariant : ChannelInvariant st (some event)) :
    (producerStep thread st).handled = st.handled ∧
      (producerStep thread st).acquired = st.acquired ∧
      (producerStep thread st).consumer = st.consumer ∧
      ((st.producers thread).Passive ∧ producerStep thread st = st ∨
        ∃ phase, (producerStep thread st).producers =
            Function.update st.producers thread phase ∧
          phase.turnsLeft < (st.producers thread).turnsLeft) := by
  rcases invariant with ⟨runs, baton, accounts⟩
  have active (past : ¬(st.producers thread).Passive) :=
    baton.sending_of_active past
  have empty : st.eventEmpty = 0 := by
    cases baton <;> assumption
  rw [producerStep]
  cases phase : st.producers thread with
  | outside => exact ⟨rfl, rfl, rfl, Or.inl ⟨trivial, rfl⟩⟩
  | waitEmpty call =>
      dsimp only
      rw [if_pos empty]
      exact ⟨rfl, rfl, rfl, Or.inl ⟨trivial, rfl⟩⟩
  | lock call =>
      rcases active (by rw [phase]; exact id) with ⟨_, _, _, _, _, _, sending⟩
      rw [phase] at sending
      dsimp only
      rw [if_neg (by simp [sending.2.1])]
      exact ⟨rfl, rfl, rfl, Or.inr ⟨_, rfl, Nat.lt_succ_self _⟩⟩
  | storeKey call =>
      refine ⟨rfl, rfl, rfl, Or.inr ⟨_, rfl, ?_⟩⟩
      simp only [ProducerPhase.turnsLeft]
      omega
  | copy call copied =>
      dsimp only
      split
      next more =>
        refine ⟨rfl, rfl, rfl, Or.inr ⟨_, rfl, ?_⟩⟩
        simp only [ProducerPhase.turnsLeft]
        omega
      next =>
        refine ⟨rfl, rfl, rfl, Or.inr ⟨_, rfl, ?_⟩⟩
        simp only [ProducerPhase.turnsLeft]
        omega
  | postFull call => exact ⟨rfl, rfl, rfl, Or.inr ⟨_, rfl, Nat.lt_succ_self _⟩⟩

omit [DecidableEq Thread] in
theorem turnsLeft_passive {phase : ProducerPhase} (passive : phase.Passive) :
    phase.turnsLeft = 0 := by
  cases phase <;> first | rfl | exact passive.elim

theorem callStep_same (thread : Thread) (call : Event)
    (st : ChannelState Thread) :
    (callStep thread call st).handled = st.handled ∧
      (callStep thread call st).acquired = st.acquired ∧
      (callStep thread call st).consumer = st.consumer ∧
      ∀ other, ((callStep thread call st).producers other).Passive ∧
          (st.producers other).Passive ∨
        (callStep thread call st).producers other = st.producers other := by
  rw [callStep]
  cases phase : st.producers thread with
  | outside =>
      refine ⟨rfl, rfl, rfl, fun other => ?_⟩
      by_cases same : other = thread
      · subst same
        left
        rw [phase]
        exact ⟨by rw [ChannelState.setProducer]; dsimp only
                  rw [Function.update_self]; trivial, trivial⟩
      · exact Or.inr (Function.update_of_ne same _ _)
  | _ => exact ⟨rfl, rfl, rfl, fun _ => Or.inr rfl⟩

/-- The turns that the producers need. Only one is past `eventEmpty`. -/
inductive ProducersLeft (st : ChannelState Thread) : Nat → Prop where
  | posted (passive : ∀ thread, (st.producers thread).Passive) :
      ProducersLeft st 0
  | sending {thread : Thread} (active : ¬(st.producers thread).Passive) :
      ProducersLeft st (st.producers thread).turnsLeft

/-- The next event to be handled is on its way, and needs so many turns. -/
def TurnsLeft (index amount : Nat) (st : ChannelState Thread) : Prop :=
  ∃ event, ChannelInvariant st (some event) ∧ st.handled.length = index ∧
    ∃ left, ProducersLeft st left ∧
      amount = left + st.consumer.turnsLeft event

/-- The turns of the thread that the event depends on. -/
def Helps (st : ChannelState Thread) : Turn Thread → Prop
  | .producer thread => ¬(st.producers thread).Passive
  | .consumer => ∀ thread, (st.producers thread).Passive
  | .call _ _ | .main => False

omit [DecidableEq Thread] in
theorem ProducersLeft.of_same {after : ChannelState Thread} {left : Nat}
    (producersLeft : ProducersLeft st left)
    (same : ∀ other, (after.producers other).Passive ∧
        (st.producers other).Passive ∨
      after.producers other = st.producers other) :
    ProducersLeft after left := by
  cases producersLeft with
  | posted passive =>
      apply ProducersLeft.posted
      intro thread
      rcases same thread with ⟨isPassive, _⟩ | equal
      · exact isPassive
      · exact equal ▸ passive thread
  | @sending thread active =>
      rcases same thread with ⟨_, isPassive⟩ | equal
      · exact absurd isPassive active
      · rw [← equal] at active ⊢
        exact .sending active

omit [DecidableEq Thread] in
theorem Helps.of_same {after : ChannelState Thread} {turn : Turn Thread}
    (helps : Helps st turn)
    (same : ∀ other, (after.producers other).Passive ∧
        (st.producers other).Passive ∨
      after.producers other = st.producers other) :
    Helps after turn := by
  cases turn with
  | producer thread =>
      rcases same thread with ⟨_, isPassive⟩ | equal
      · exact absurd isPassive helps
      · exact fun isPassive => helps (equal ▸ isPassive)
  | consumer =>
      intro thread
      rcases same thread with ⟨isPassive, _⟩ | equal
      · exact isPassive
      · exact equal ▸ helps thread
  | call _ _ => exact helps.elim
  | main => exact helps.elim

/-- The producer of the event on its way takes a turn. -/
theorem turnsLeft_producer {index amount : Nat} {thread : Thread}
    (remains : TurnsLeft index amount st)
    (active : ¬(st.producers thread).Passive) :
    ∃ less < amount, TurnsLeft index less (producerStep thread st) := by
  rcases remains with ⟨event, invariant, handled, left, producersLeft, isAmount⟩
  rcases @producerStep_progress _ _ st event thread invariant with
    ⟨sameHandled, sameAcquired, sameConsumer, ⟨passive, _⟩ | ⟨phase, producers,
      less⟩⟩
  · exact absurd passive active
  · rcases producerStep_invariant thread invariant with ⟨_, next⟩
    have onWay := invariant.same_event next sameAcquired sameHandled
    rcases invariant.baton.sending_of_active active with
      ⟨_, _, _, _, _, others, _⟩
    have isLeft : left = (st.producers thread).turnsLeft := by
      cases producersLeft with
      | posted passive => exact absurd (passive thread) active
      | @sending other isActive =>
          have same : other = thread := by
            by_contra apart
            exact isActive (others other apart)
          rw [same]
    have nextLeft : ProducersLeft (producerStep thread st) phase.turnsLeft := by
      by_cases passive : phase.Passive
      · rw [turnsLeft_passive passive]
        apply ProducersLeft.posted
        rw [producers]
        exact passive_update_sender passive others
      · have isPhase : (producerStep thread st).producers thread = phase := by
          rw [producers, Function.update_self]
        rw [← isPhase] at passive ⊢
        exact .sending passive
    refine ⟨phase.turnsLeft + (producerStep thread st).consumer.turnsLeft event,
      ?_, event, onWay, ?_, _, nextLeft, rfl⟩
    · rw [sameConsumer]
      omega
    · rw [sameHandled, handled]

omit [DecidableEq Thread] in
/-- The consumer takes a turn. -/
theorem turnsLeft_consumer {index amount : Nat}
    (remains : TurnsLeft index amount st) :
    index < (consumerStep st).handled.length ∨
      (∃ less < amount, TurnsLeft index less (consumerStep st)) ∨
      consumerStep st = st ∧ ∃ thread, ¬(st.producers thread).Passive := by
  rcases remains with ⟨event, invariant, handled, left, producersLeft, isAmount⟩
  rcases consumerStep_progress invariant with
    isHandled | ⟨sameHandled, less | blocked⟩
  · exact Or.inl (by omega)
  · rcases consumerStep_invariant invariant with ⟨_, next⟩
    have onWay := invariant.same_event next (consumerStep_same st).2 sameHandled
    refine Or.inr (Or.inl ⟨left + (consumerStep st).consumer.turnsLeft event, ?_,
      event, onWay, ?_, left, producersLeft.of_same fun other => Or.inr ?_, rfl⟩)
    · omega
    · rw [sameHandled, handled]
    · rw [(consumerStep_same st).1]
  · exact Or.inr (Or.inr blocked)

theorem channel_progress (index : Nat) {turn : Turn Thread} (loops : turn ≠ .main) :
    (channelModel Thread).Progress (TurnsLeft index)
      (fun st => index < st.handled.length) Helps st turn := by
  constructor
  · intro amount remains helps
    cases turn with
    | producer thread => exact Or.inr (turnsLeft_producer remains helps)
    | consumer =>
        rcases turnsLeft_consumer remains with
          handled | less | ⟨_, thread, active⟩
        · exact Or.inl handled
        · exact Or.inr less
        · exact absurd (helps thread) active
    | call _ _ => exact helps.elim
    | main => exact helps.elim
  · intro amount remains notHelps
    cases turn with
    | producer thread =>
        have passive : (st.producers thread).Passive := not_not.mp notHelps
        rcases remains with ⟨event, invariant, rest⟩
        rcases @producerStep_progress _ _ st event thread invariant with
          ⟨_, _, _, ⟨_, same⟩ | ⟨phase, _, less⟩⟩
        · right
          right
          change TurnsLeft index amount (producerStep thread st) ∧
            ∀ other, Helps st other → Helps (producerStep thread st) other
          rw [same]
          exact ⟨⟨event, invariant, rest⟩, fun _ helps => helps⟩
        · rw [turnsLeft_passive passive] at less
          cases less
    | consumer =>
        rcases turnsLeft_consumer remains with handled | less | ⟨same, _⟩
        · exact Or.inl handled
        · exact Or.inr (Or.inl less)
        · right
          right
          change TurnsLeft index amount (consumerStep st) ∧
            ∀ other, Helps st other → Helps (consumerStep st) other
          rw [same]
          exact ⟨remains, fun _ helps => helps⟩
    | call thread call =>
        rcases callStep_same thread call st with
          ⟨handled, _, consumer, producers⟩
        rcases remains with
          ⟨event, invariant, isHandled, left, producersLeft, isAmount⟩
        exact Or.inr (Or.inr ⟨⟨event, callStep_invariant thread call invariant,
          handled ▸ isHandled, left, producersLeft.of_same producers,
          by change amount = left + (callStep thread call st).consumer.turnsLeft event
             rw [consumer]; exact isAmount⟩,
          fun _ helps => helps.of_same producers⟩)
    | main => exact absurd rfl loops

/-! ### Schedules -/

/-- Every thread gets a turn again and again. -/
structure Fair (schedule : Nat → Turn Thread) : Prop where
  consumer : ∀ time, ∃ later ≥ time, schedule later = .consumer
  producers : ∀ thread time, ∃ later ≥ time, schedule later = .producer thread

theorem channelStep_acquired (turn : Turn Thread) (loops : turn ≠ .main) :
    st.acquired <+: (channelStep st turn).acquired := by
  cases turn with
  | call thread call =>
      exact (callStep_same thread call st).2.1 ▸ List.prefix_refl _
  | consumer => exact (consumerStep_same st).2 ▸ List.prefix_refl _
  | main => exact absurd rfl loops
  | producer thread =>
      change st.acquired <+: (producerStep thread st).acquired
      rw [producerStep]
      cases st.producers thread with
      | waitEmpty call =>
          dsimp only
          split
          · exact List.prefix_refl _
          · exact List.prefix_append _ _
      | _ =>
          dsimp only
          first
          | exact List.prefix_refl _
          | (split <;> exact List.prefix_refl _)

variable {start : ChannelState Thread} {schedule : Nat → Turn Thread}

/-- An event whose producer passed `eventEmpty` is handled at some later time. -/
theorem handled_later (loops : ∀ time, schedule time ≠ .main)
    (fair : Fair schedule) {time : Nat}
    (invariant : ChannelInvariant
      ((channelModel Thread).stateAt start schedule time) outstanding) :
    ∃ later ≥ time,
      ((channelModel Thread).stateAt start schedule time).acquired.length ≤
        ((channelModel Thread).stateAt start schedule later).handled.length := by
  rcases invariant.accounts with ⟨done, acquired, handled⟩
  have isDone := congrArg List.length handled
  rw [List.length_map] at isDone
  cases outstanding with
  | none =>
      refine ⟨time, Nat.le_refl _, ?_⟩
      rw [acquired, isDone]
      simp
  | some event =>
      have fairTurns : ∀ time amount, TurnsLeft done.length amount
          ((channelModel Thread).stateAt start schedule time) →
          ∃ later ≥ time, Helps ((channelModel Thread).stateAt start schedule
            time) (schedule later) := by
        rintro time amount ⟨event, invariant, _, left, producersLeft, _⟩
        cases producersLeft with
        | posted passive =>
            rcases fair.consumer time with ⟨later, order, isTurn⟩
            exact ⟨later, order, isTurn ▸ passive⟩
        | @sending thread active =>
            rcases fair.producers thread time with ⟨later, order, isTurn⟩
            exact ⟨later, order, isTurn ▸ active⟩
      have producersLeft : ∃ left, ProducersLeft
          ((channelModel Thread).stateAt start schedule time) left := by
        by_cases passive : ∀ thread,
          (((channelModel Thread).stateAt start schedule time).producers
            thread).Passive
        · exact ⟨0, .posted passive⟩
        · rw [not_forall] at passive
          rcases passive with ⟨thread, active⟩
          exact ⟨_, .sending active⟩
      rcases producersLeft with ⟨left, producersLeft⟩
      rcases (channelModel Thread).reaches_of_progress
        (fun time => channel_progress done.length (loops time)) fairTurns
        ⟨event, invariant, isDone, left, producersLeft, rfl⟩ with
        ⟨later, order, reached⟩
      refine ⟨later, order, ?_⟩
      rw [acquired, List.length_append]
      exact reached

/-- While the main loop runs, the consumer handles the events in the order in
which their producers passed `eventEmpty`, each with its own key and string and
at most once; and if every thread gets its turns, each of them. -/
theorem events_handled_in_order (entered exitEventLoop : Bool)
    (javaEvent : EventKey) (memory : Nat → Byte) (schedule : Nat → Turn Thread)
    (loops : ∀ time, schedule time ≠ .main) :
    let stateAt := (channelModel Thread).stateAt
      (.start entered exitEventLoop javaEvent memory) schedule
    (∀ time, ∃ done waiting, (stateAt time).acquired = done ++ waiting ∧
      waiting.length ≤ 1 ∧ (stateAt time).handled = done.map Event.handled) ∧
    (Fair schedule → ∀ time, ∃ later ≥ time,
      (stateAt time).acquired.map Event.handled <+: (stateAt later).handled) := by
  intro stateAt
  have invariant (time : Nat) :
      ∃ outstanding, ChannelInvariant (stateAt time) outstanding := by
    apply @Model.stateAt_invariant _ _ _ (channelModel Thread) _ schedule
      (fun st => ∃ outstanding, ChannelInvariant st outstanding)
    · exact ⟨none, channelInvariant_start entered exitEventLoop javaEvent memory⟩
    · rintro st time ⟨_, holds⟩
      exact channelStep_invariant (loops time) holds
  constructor
  · intro time
    rcases invariant time with ⟨outstanding, holds⟩
    rcases holds.accounts with ⟨done, acquired, handled⟩
    refine ⟨done, outstanding.toList, acquired, ?_, handled⟩
    cases outstanding <;> simp
  · intro fair time
    rcases invariant time with ⟨outstanding, holds⟩
    rcases handled_later loops fair holds with ⟨later, order, enough⟩
    refine ⟨later, order, ?_⟩
    have grown : (stateAt time).acquired <+: (stateAt later).acquired :=
      @Model.stateAt_stable _ _ _ (channelModel Thread) _ schedule
        (fun st => (stateAt time).acquired <+: st.acquired)
        (fun st now before =>
          before.trans (channelStep_acquired (schedule now) (loops now)))
        _ _ order (List.prefix_refl _)
    rcases invariant later with ⟨_, holdsLater⟩
    rcases holdsLater.accounts with ⟨done, acquired, handled⟩
    have isDone : (stateAt time).acquired <+: done := by
      rw [acquired] at grown
      apply List.prefix_of_prefix_length_le grown (List.prefix_append _ _)
      have isLength := congrArg List.length handled
      rw [List.length_map] at isLength
      exact isLength ▸ enough
    rw [handled]
    exact isDone.map Event.handled

/-! ### One event -/

def oneName : Event where
  key := .name
  str := [0x41]
  terminated := by decide
  short := by decide

/-- One thread sends a name; then it and the consumer take turns. -/
def oneNameSchedule : Nat → Turn Unit
  | 0 => .call () oneName
  | time + 1 => if time % 2 = 0 then .producer () else .consumer

theorem oneNameSchedule_fair : Fair oneNameSchedule := by
  constructor
  · intro time
    refine ⟨2 * time + 2, by omega, ?_⟩
    exact if_neg (by omega)
  · intro _ time
    refine ⟨2 * time + 1, by omega, ?_⟩
    exact if_pos (by omega)

theorem events_handled_in_order_one :
    ∃ later ≥ 2, [Handled.callback .name [0x41]] <+:
      ((channelModel Unit).stateAt (.start false false .noEvent fun _ => 0)
        oneNameSchedule later).handled :=
  (events_handled_in_order false false .noEvent (fun _ => 0) oneNameSchedule
    (by
      intro time
      cases time with
      | zero => exact fun absurd => by cases absurd
      | succ time =>
          rw [oneNameSchedule]
          split <;> exact fun absurd => by cases absurd)).2
    oneNameSchedule_fair 2

end Runs

end Meshctl.Gui
