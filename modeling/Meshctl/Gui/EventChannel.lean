import Meshctl.Foundation.Execution
import Meshctl.Foundation.Bytes

/-! # The event channel to the GUI

One buffer, two semaphores and a mutex between the threads that call
`sendEventToJava` and the thread in `eventCallback`. A turn of a thread is one
operation on a semaphore or the mutex, or one access to memory.
-/

namespace Meshctl.Gui

open Bytes Execution

inductive EventKey where
  | noEvent
  | name
  | uuid
  | endOfList
deriving DecidableEq

/-- The keys that `eventCallback` has a case for. -/
def EventKey.isCallback : EventKey → Bool
  | .name | .uuid => true
  | .noEvent | .endOfList => false

/-- The size of `stringBuff`. -/
def buffSize : Nat := 512

/-- The arguments of `sendEventToJava`: the string is what `strlen` counts, and
short enough for the buffer. -/
structure Event where
  key : EventKey
  str : List Byte
  terminated : ∀ byte ∈ str, byte ≠ 0
  short : str.length < buffSize

/-- What the loop of `eventCallback` does with an event. -/
inductive Handled where
  | callback (key : EventKey) (str : List Byte)
  | ignored (key : EventKey)
deriving DecidableEq

def Event.handled (event : Event) : Handled :=
  if event.key.isCallback then .callback event.key event.str
  else .ignored event.key

/-! ## Threads -/

/-- Where a thread is in `sendEventToJava`. -/
inductive ProducerPhase where
  | outside
  | waitEmpty (event : Event)
  | lock (event : Event)
  | storeKey (event : Event)
  | copy (event : Event) (copied : Nat)
  | postFull (event : Event)

/-- Where the GUI's thread is in `eventCallback`. -/
inductive ConsumerPhase where
  | outside
  | waitFull
  | lock
  | checkExit
  | dispatch
  | readString (str : List Byte)
  | callback (str : List Byte)
  | clear (cleared : Nat)
  | unlock
  | postEmpty
  | testExit
  | left
deriving DecidableEq

/-- Where the thread of `mesh_init` is, from the main loop on. -/
inductive MainPhase where
  | mainloop
  | freeBuff
  | waitEmpty
  | lock
  | setExit
  | unlock
  | postFull
  | destroyFull
  | destroyEmpty
  | finished
deriving DecidableEq

inductive Owner (Thread : Type*) where
  | producer (thread : Thread)
  | consumer
  | main
deriving DecidableEq

/-- The variables of the channel, and three histories: the events whose
producers have passed `eventEmpty`, what the consumer did with events, and
whether it used something that was gone. -/
structure ChannelState (Thread : Type*) where
  eventEmpty : Nat
  eventFull : Nat
  eventLock : Option (Owner Thread)
  exitEventLoop : Bool
  javaEvent : EventKey
  stringBuff : Nat → Byte
  freed : Bool
  emptyDestroyed : Bool
  fullDestroyed : Bool
  producers : Thread → ProducerPhase
  consumer : ConsumerPhase
  main : MainPhase
  acquired : List Event
  handled : List Handled
  misused : Bool

namespace ChannelState

variable {Thread : Type*} [DecidableEq Thread]

/-- The channel behind `sem_init`. Anything may be left from before, and follow
the buffer in memory. The consumer's thread was started before, and may have
entered its loop. -/
def start (entered exitEventLoop : Bool) (javaEvent : EventKey)
    (memory : Nat → Byte) : ChannelState Thread where
  eventEmpty := 1
  eventFull := 0
  eventLock := none
  exitEventLoop := !entered && exitEventLoop
  javaEvent := javaEvent
  stringBuff index := if index < buffSize then 0 else memory index
  freed := false
  emptyDestroyed := false
  fullDestroyed := false
  producers _ := .outside
  consumer := if entered then .waitFull else .outside
  main := .mainloop
  acquired := []
  handled := []
  misused := false

variable (st : ChannelState Thread)

def setProducer (thread : Thread) (phase : ProducerPhase) :
    ChannelState Thread :=
  { st with producers := Function.update st.producers thread phase }

def writeBuff (index : Nat) (byte : Byte) : ChannelState Thread :=
  { st with stringBuff := Function.update st.stringBuff index byte }

/-- The consumer uses something that may be gone. -/
def use (gone : Bool) : ChannelState Thread :=
  { st with misused := st.misused || gone }

omit [DecidableEq Thread] in
@[simp] theorem use_false : st.use false = st := by
  rw [use, Bool.or_false]

end ChannelState

/-! ## Turns -/

section Turns

variable {Thread : Type*} [DecidableEq Thread]

/-- A thread calls `sendEventToJava`, or some thread has its turn. -/
inductive Turn (Thread : Type*) where
  | call (thread : Thread) (event : Event)
  | producer (thread : Thread)
  | consumer
  | main

def callStep (thread : Thread) (event : Event) (st : ChannelState Thread) :
    ChannelState Thread :=
  match st.producers thread with
  | .outside => st.setProducer thread (.waitEmpty event)
  | _ => st

/-- `sendEventToJava`. A thread that has to wait changes nothing. -/
def producerStep (thread : Thread) (st : ChannelState Thread) :
    ChannelState Thread :=
  match st.producers thread with
  | .outside => st
  | .waitEmpty event =>
      if st.eventEmpty = 0 then
        st
      else
        { st.setProducer thread (.lock event) with
          eventEmpty := st.eventEmpty - 1, acquired := st.acquired ++ [event] }
  | .lock event =>
      if st.eventLock.isSome then
        st
      else
        { st.setProducer thread (.storeKey event) with
          eventLock := some (.producer thread) }
  | .storeKey event =>
      { st.setProducer thread (.copy event 0) with javaEvent := event.key }
  | .copy event copied =>
      -- `memcpy` leaves out the terminator.
      if copied < event.str.length then
        (st.writeBuff copied (get event.str copied)).setProducer thread
          (.copy event (copied + 1))
      else
        { st.setProducer thread (.postFull event) with eventLock := none }
  | .postFull _ =>
      { st.setProducer thread .outside with eventFull := st.eventFull + 1 }

/-- `eventCallback`. -/
def consumerStep (st : ChannelState Thread) : ChannelState Thread :=
  match st.consumer with
  | .outside => { st with exitEventLoop := false, consumer := .waitFull }
  | .waitFull =>
      let st := st.use st.fullDestroyed
      if st.eventFull = 0 then
        st
      else
        { st with eventFull := st.eventFull - 1, consumer := .lock }
  | .lock =>
      if st.eventLock.isSome then
        st
      else
        { st with eventLock := some .consumer, consumer := .checkExit }
  | .checkExit =>
      { st with consumer := if st.exitEventLoop then .unlock else .dispatch }
  | .dispatch =>
      if st.javaEvent.isCallback then
        { st with consumer := .readString [] }
      else
        { st with
          handled := st.handled ++ [.ignored st.javaEvent], consumer := .clear 0 }
  | .readString str =>
      -- `NewStringUTF` reads up to the terminator.
      let st := st.use st.freed
      if st.stringBuff str.length = 0 then
        { st with consumer := .callback str }
      else
        { st with consumer := .readString (str ++ [st.stringBuff str.length]) }
  | .callback str =>
      { st with
        handled := st.handled ++ [.callback st.javaEvent str]
        consumer := .clear 0 }
  | .clear cleared =>
      if cleared < buffSize then
        { (st.use st.freed).writeBuff cleared 0 with
          consumer := .clear (cleared + 1) }
      else
        { st with consumer := .unlock }
  | .unlock => { st with eventLock := none, consumer := .postEmpty }
  | .postEmpty =>
      { st.use st.emptyDestroyed with
        eventEmpty := st.eventEmpty + 1, consumer := .testExit }
  | .testExit =>
      { st with consumer := if st.exitEventLoop then .left else .waitFull }
  | .left => st

/-- `mesh_init`, from the end of the main loop on. The mutex that it destroys is
another one. -/
def mainStep (st : ChannelState Thread) : ChannelState Thread :=
  match st.main with
  | .mainloop => { st with main := .freeBuff }
  | .freeBuff => { st with freed := true, main := .waitEmpty }
  | .waitEmpty =>
      if st.eventEmpty = 0 then
        st
      else
        { st with eventEmpty := st.eventEmpty - 1, main := .lock }
  | .lock =>
      if st.eventLock.isSome then
        st
      else
        { st with eventLock := some .main, main := .setExit }
  | .setExit => { st with exitEventLoop := true, main := .unlock }
  | .unlock => { st with eventLock := none, main := .postFull }
  | .postFull => { st with eventFull := st.eventFull + 1, main := .destroyFull }
  | .destroyFull => { st with fullDestroyed := true, main := .destroyEmpty }
  | .destroyEmpty => { st with emptyDestroyed := true, main := .finished }
  | .finished => st

def channelStep (st : ChannelState Thread) :
    Turn Thread → ChannelState Thread
  | .call thread event => callStep thread event st
  | .producer thread => producerStep thread st
  | .consumer => consumerStep st
  | .main => mainStep st

/-- The channel under a scheduler. There is nothing to observe but its state. -/
def channelModel (Thread : Type*) [DecidableEq Thread] :
    Model (ChannelState Thread) (Turn Thread) Unit where
  step st turn := ⟨channelStep st turn, ()⟩

end Turns

end Meshctl.Gui
