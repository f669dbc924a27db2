import Meshctl.Prov.KeyAgreement

/-! # An exchange without authentication completes -/

namespace Meshctl.Prov

open Bytes Net Crypto Execution

/-- Nothing is on its way. -/
def Exchange.Quiet (ex : Exchange) : Prop :=
  ex.session.written.length ≤ ex.read ∧ ex.replies = []

section Progress

variable {s : Setting} {terms : Terms} {stage : SessionStage}
  {phase : DevicePhase} {ex : Exchange}

/-- A session that waits for nothing but messages. -/
def SessionStage.Untroubled : SessionStage → Prop
  | .keyAsked | .keyed | .unsent | .failed _ => False
  | _ => True

theorem SessionIn.untroubled {st : ProvState} (reached : SessionIn s terms stage st)
    (noTrouble : ¬Trouble s) : stage.Untroubled := by
  cases reached with
  | keyAsked _ _ _ _ outOfBand => exact absurd (.key outOfBand) noTrouble
  | keyed _ _ _ _ method => exact absurd (.method method) noTrouble
  | unsent _ _ trouble => exact absurd trouble noTrouble
  | failed _ _ _ _ _ _ trouble => exact absurd trouble noTrouble
  | _ => trivial

theorem length_written {st : ProvState} (reached : SessionIn s terms stage st)
    (atMost : stage.count ≤ 6) : st.written.length = stage.count := by
  rw [reached.written, List.length_take]
  exact Nat.min_eq_left atMost

/-- A device that is not behind has sent what the session waits for. -/
theorem Coupled.quiet {replies : List (List Byte)}
    (coupled : Coupled s terms stage phase replies) (noTrouble : ¬Trouble s)
    (untroubled : stage.Untroubled) (isQuiet : replies = [])
    (caughtUp : stage.count ≤ phase.count) : stage = .done := by
  have noMethod : s.start.authMethod ≠ provInputOob := by
    intro given
    apply noTrouble
    apply Trouble.method
    rw [given]
    decide
  cases coupled with
  | done => rfl
  | awaitedWaiting given => exact absurd given noMethod
  | idle => exact absurd caughtUp (by decide)
  | awaited => exact absurd caughtUp (by decide)
  | awaitedStarted => exact absurd caughtUp (by decide)
  | confirming => exact absurd caughtUp (by decide)
  | confirmingStarted => exact absurd caughtUp (by decide)
  | confirmingReady => exact absurd caughtUp (by decide)
  | revealing => exact absurd caughtUp (by decide)
  | sent => exact absurd caughtUp (by decide)
  | invited => cases isQuiet
  | awaitedReady => cases isQuiet
  | awaitedEntered => cases isQuiet
  | confirmed => cases isQuiet
  | revealed => cases isQuiet
  | refused => cases isQuiet
  | provisioned => cases isQuiet
  | _ => exact absurd untroubled id

/-- Both sides have finished. -/
def Exchange.Completed (ex : Exchange) : Prop :=
  ex.session.outcomes = [0] ∧ ex.device.data ≠ none

theorem Aligned.completed (aligned : Aligned s ex) (noTrouble : ¬Trouble s)
    (quiet : ex.Quiet) : ex.Completed := by
  have agrees := aligned.agrees
  rcases aligned with ⟨terms, stage, phase, joint⟩
  have untroubled := joint.session.untroubled noTrouble
  have atMost : stage.count ≤ 6 := by
    cases stage with
    | failed => exact absurd untroubled id
    | _ => decide
  have caughtUp := quiet.1
  rw [length_written joint.session atMost, joint.read] at caughtUp
  have isDone := joint.coupled.quiet noTrouble untroubled quiet.2 caughtUp
  subst isDone
  rcases joint.session with _ | _ | _ | _ | _ | _ | _ | _ | ⟨_, _, _, outcomes⟩
  refine ⟨outcomes, ?_⟩
  intro noData
  have unsuccessful := (agrees.unprovisioned noData).2
  rw [outcomes] at unsuccessful
  exact unsuccessful List.mem_cons_self

/-! ## Deliveries -/

/-- A device answers a message with one message at most. -/
theorem length_read (env : ProvEnv) (device : Device) (bytes : List Byte)
    (st : DeviceState) : (device.read env bytes st).2.length ≤ 1 := by
  rw [Device.read]
  split
  next => exact Nat.zero_le 1
  next =>
  split
  next =>
    rw [Device.readAwaited]
    split
    · exact Nat.le_refl 1
    · exact Nat.zero_le 1
    · rw [Device.readPubKey]
      dsimp only
      split
      · exact Nat.le_refl 1
      · exact Nat.zero_le 1
    · exact Nat.le_refl 1
    · rw [Device.readRandom]
      split
      · exact Nat.le_refl 1
      · exact Nat.le_refl 1
    · rw [Device.readData]
      split
      · exact Nat.le_refl 1
      · exact Nat.le_refl 1
    all_goals exact Nat.zero_le 1
  next => exact Nat.le_refl 1

/-- How much is left to be delivered at most. -/
def Exchange.remaining (ex : Exchange) : Nat :=
  2 * (6 - ex.read) + ex.replies.length

def ExchangeInput.Delivers : ExchangeInput → Prop
  | .toDevice | .toSession => True
  | _ => False

theorem ExchangeInput.Delivers.allows {input : ExchangeInput}
    (delivers : input.Delivers) (noTrouble : ¬Trouble s) (after : Exchange) :
    Allows s input after := by
  refine ⟨fun outOfBand => absurd (.key outOfBand) noTrouble, ?_, ?_⟩
  · intro net isNetwork
    rw [isNetwork] at delivers
    exact absurd delivers id
  · intro level isLevel
    rw [isLevel] at delivers
    exact absurd delivers id

/-- Unless nothing is on its way, something can be delivered, and less is left. -/
theorem Aligned.delivers (aligned : Aligned s ex)
    (busy : ¬ex.Quiet) :
    ∃ input : ExchangeInput, input.Delivers ∧
      (ex.next s.env s.device input).remaining < ex.remaining := by
  by_cases noReplies : ex.replies = []
  · have behind : ex.read < ex.session.written.length := by
      rw [Exchange.Quiet, not_and'] at busy
      exact Nat.lt_of_not_le (busy noReplies)
    have atMost : ex.session.written.length ≤ 6 := by
      rcases aligned with ⟨terms, stage, phase, joint⟩
      rw [joint.session.written, List.length_take]
      exact Nat.min_le_right _ _
    refine ⟨.toDevice, trivial, ?_⟩
    have isNext : ex.session.written[ex.read]? = some _ :=
      List.getElem?_eq_getElem behind
    have short := @length_read s.env s.device (ex.session.written[ex.read])
      ex.device
    rw [Exchange.next, Exchange.toDevice, isNext, Exchange.remaining,
      Exchange.remaining]
    dsimp only
    rw [List.length_append]
    omega
  · cases isReplies : ex.replies with
    | nil => exact absurd isReplies noReplies
    | cons reply rest =>
        refine ⟨.toSession, trivial, ?_⟩
        rw [Exchange.next, toSession_eq isReplies, Exchange.remaining,
          Exchange.remaining, isReplies, List.length_cons]
        exact Nat.lt_succ_self _

/-- Deliveries alone take an exchange to its end. -/
theorem Aligned.completes (sound : Sound s) (aligned : Aligned s ex)
    (noTrouble : ¬Trouble s) :
    ∃ deliveries : List ExchangeInput, (∀ input ∈ deliveries, input.Delivers) ∧
      deliveries.length ≤ ex.remaining ∧
      ((exchangeModel s.env s.device).finalState ex deliveries).Completed := by
  induction left : ex.remaining using Nat.strong_induction_on generalizing ex with
  | _ left induction =>
      by_cases quiet : ex.Quiet
      · exact ⟨[], by simp, Nat.zero_le _, aligned.completed noTrouble quiet⟩
      · rcases aligned.delivers quiet with ⟨input, delivers, less⟩
        have next := next_aligned sound aligned input
          (delivers.allows noTrouble _)
        rcases induction _ (left ▸ less) next rfl with
          ⟨deliveries, allDeliver, few, completed⟩
        refine ⟨input :: deliveries, ?_, ?_, completed⟩
        · exact List.forall_mem_cons.mpr ⟨delivers, allDeliver⟩
        · rw [List.length_cons]
          omega

end Progress

/-- A device that offers nothing to authenticate with needs nothing. -/
theorem composeStart_plain {caps : Caps} (pubType : caps.pubType = 0)
    (staticType : caps.staticType = 0) (outputSize : caps.outputSize = 0)
    (inputSize : caps.inputSize = 0) :
    composeStart caps ⟨0, 0, 0, 0, 0⟩ = ⟨0, 0, 0, 0, 0⟩ := by
  rw [composeStart]
  dsimp only
  rw [if_neg (not_not.mpr staticType), inputSize, outputSize,
    if_neg (by decide), if_neg (by decide), pubType]

end Meshctl.Prov
