import Meshctl.Prov.LoggedCallbacks

/-! # Steps and their logs

Once a session is over, its steps leave it alone, but for two kinds: an answer
that ends it, and a PDU that waited for the pipe.
-/

namespace Meshctl.Prov

open Bytes Net Crypto Execution SessionAction

section Functions

variable {env : ProvEnv} {st : ProvState}

/-! ## PDUs -/

theorem releasePromptLog_unasked (unasked : st.agent.pending.cb = none)
    (input : List Byte) : releasePromptLog env input st = [] := by
  rw [releasePromptLog]
  cases st.agent.prompt with
  | none => rfl
  | some func =>
      cases func with
      | responseOutput => rfl
      | responseAscii => simp [respondLog, answerRequestLog, unasked]
      | responseDecimal => simp [respondLog, answerRequestLog, unasked]
      | responseHexadecimal =>
          simp only [respondLog, answerRequestLog, unasked]
          split <;> rfl

theorem agentOutputRequestCancel_log (env : ProvEnv) (held : Held st) :
    ∃ agent, Held { st with agent } ∧ agentOutputRequestCancelLog env st = [] ∧
      agentOutputRequestCancel env st = { st with agent } := by
  rw [agentOutputRequestCancelLog, agentOutputRequestCancel]
  split
  next => exact ⟨st.agent, held, rfl, rfl⟩
  next isOutput =>
    rw [not_not] at isOutput
    have unasked : st.agent.pending.cb = none :=
      held.unasked (by simp [OobType.HasCallback, isOutput])
    rcases @releasePrompt_unasked env { st with agent := { st.agent with
      pending := { st.agent.pending with type := .none } } } unasked []
      with ⟨agent, noCallback, released⟩
    refine ⟨agent, held.setAgent noCallback, ?_, released⟩
    apply releasePromptLog_unasked
    exact unasked

theorem requests_gattWriteLog (log : List SessionAction) (st : ProvState) :
    requests (gattWriteLog env log st) =
      if env.gatt st.writes = .sent then requests log else [] := by
  rw [gattWriteLog]
  cases env.gatt st.writes with
  | sent => rfl
  | queued => rfl
  | refused => rfl

theorem requests_provSendConfirmLog (st : ProvState) :
    requests (provSendConfirmLog env st) = [] := by
  rw [provSendConfirmLog]
  cases st.prov with
  | none => rfl
  | some prov => simp [requests_gattWriteLog]

/-- An abort, whatever was stored before. -/
theorem provAbort_touched {middle : ProvState} (held : Held st)
    (live : st.prov ≠ none) (kept : middle.prov ≠ none)
    (agent : middle.agent = st.agent) :
    Logged (.touch :: provCompleteLog middle) st (provAbort middle).2 := by
  have known : Held { middle with prov := none } := held.ended rfl agent
  rw [provCompleteLog, provAbort, provComplete]
  cases isProv : middle.prov with
  | none => exact absurd isProv kept
  | some prov =>
      have clean : [touch, touch, free].Pairwise LeavesAlone := by decide
      exact
        { held := known.ended rfl rfl
          ends := by simp [ProvState.note]
          clean
          idle := fun ended => absurd ended live
          asks := .quiet _ _ }

/-- No capabilities are accepted whose values would not fit. -/
theorem inviteReady_logged (held : Held st) {prov : ProvData}
    (isProv : st.prov = some prov) (pdu : List Byte) :
    Logged (inviteReadyLog env prov pdu st) st (inviteReady env prov pdu st).2 := by
  have live : st.prov ≠ none := by simp [isProv]
  have anyway (middle : ProvState) (kept : middle.prov ≠ none)
      (agent : middle.agent = st.agent) :
      Logged (.touch :: provCompleteLog middle) st (provAbort middle).2 :=
    provAbort_touched held live kept agent
  rw [inviteReadyLog, inviteReady]
  dsimp only
  split
  next => exact provComplete_logged held _
  next =>
  split
  next => exact anyway _ (setProv_live _ _) rfl
  next =>
  split
  next => exact anyway _ (setProv_live _ _) rfl
  next =>
  split
  next => exact anyway _ (setProv_live _ _) rfl
  next fits =>
    refine Logged.touch (gattWriteLog_logged ?_ (setProv_live _ _) rfl ?_) live
      (setProv_live _ _) rfl
    · exact held.of_live rfl rfl (BitVec.not_lt.mp fits)
    · apply provStartCmplt_logged
      exact held.of_live rfl rfl (BitVec.not_lt.mp fits)

theorem pubKeyReady_logged (held : Held st) {prov : ProvData}
    (isProv : st.prov = some prov) (pdu : List Byte) :
    Logged (pubKeyReadyLog env prov pdu st) st (pubKeyReady env prov pdu st).2 := by
  have live : st.prov ≠ none := by simp [isProv]
  rw [pubKeyReadyLog, pubKeyReady]
  split
  next =>
    refine Logged.touch (provCalcEcdh_logged (held.setProv ?_) (setProv_live _ _)) live
      (setProv_live _ _) rfl
    exact held.session prov isProv
  next =>
  split
  next =>
    -- a request for no value is cancelled without a call
    rcases agentOutputRequestCancel_log env held with ⟨agent, known, silent, cancels⟩
    rw [silent, cancels, List.nil_append]
    have confirms := @provSendConfirm_logged env _ known
    exact
      { toSettles := confirms.toSettles.start Iff.rfl
        asks := by
          rw [requests_provSendConfirmLog]
          exact .quiet _ _ }
  next => exact provComplete_logged held _

theorem confirmReady_logged (held : Held st) {prov : ProvData}
    (isProv : st.prov = some prov) (pdu : List Byte) :
    Logged (confirmReadyLog env prov pdu st) st (confirmReady env prov pdu st).2 := by
  have live : st.prov ≠ none := by simp [isProv]
  rw [confirmReadyLog, confirmReady]
  split
  next => exact provComplete_logged held _
  next =>
    apply gattWriteOnly_logged live (held.setProv _)
    · exact setProv_live _ _
    · rfl
    · rfl
    · exact held.session prov isProv

theorem provSendProvData_logged (held : Held st) :
    Logged (provSendProvDataLog env st) st (provSendProvData env st).2 := by
  rw [provSendProvDataLog, provSendProvData]
  cases isProv : st.prov with
  | none => exact Logged.refl held
  | some prov =>
      dsimp only
      have live : st.prov ≠ none := by simp [isProv]
      have small := held.session prov isProv
      dsimp only [ProvState.note, ProvState.setProv]
      cases st.net.key prov.netIdx with
      | none =>
          apply Logged.touch (Logged.refl _) live
          · exact Option.some_ne_none _
          · rfl
          · exact held.of_live rfl rfl small
      | some key =>
          apply gattWriteOnly_logged live
          · exact held.of_live rfl rfl small
          · exact Option.some_ne_none _
          · rfl
          · rfl

theorem randomReady_logged (held : Held st) {prov : ProvData}
    (isProv : st.prov = some prov) (pdu : List Byte) :
    Logged (randomReadyLog env prov pdu st) st (randomReady env prov pdu st).2 := by
  have live : st.prov ≠ none := by simp [isProv]
  rw [randomReadyLog, randomReady]
  dsimp only
  split
  next => exact provComplete_logged held _
  next =>
  split
  next => exact provAbort_touched held live (setProv_live _ _) rfl
  next =>
    refine Logged.touch (provSendProvData_logged (held.setProv ?_)) live
      (setProv_live _ _) rfl
    exact held.session prov isProv

theorem pduReady_logged (held : Held st) {prov : ProvData}
    (isProv : st.prov = some prov) (pdu : List Byte) :
    Logged (pduReadyLog env prov pdu st) st (pduReady env prov pdu st).2 := by
  have live : st.prov ≠ none := by simp [isProv]
  rw [pduReadyLog, pduReady]
  split
  next => exact provComplete_logged held _
  next =>
  split
  next => exact provComplete_logged held _
  next =>
  split
  next => exact (inviteReady_logged held isProv pdu).touch live live rfl
  next =>
  split
  next => exact (pubKeyReady_logged held isProv pdu).touch live live rfl
  next =>
  split
  next => exact (confirmReady_logged held isProv pdu).touch live live rfl
  next =>
  split
  next => exact (randomReady_logged held isProv pdu).touch live live rfl
  next =>
  split
  next =>
    rw [dataReady]
    split
    next => exact provAbort_touched held live live rfl
    next => exact (provComplete_logged held 0).touch live live rfl
  next => exact provAbort_touched held live live rfl

theorem provDataReady_logged (held : Held st) (buf : List Byte) (len : Byte) :
    Logged (provDataReadyLog env buf len st) st
      (provDataReady env buf len st).2 := by
  rw [provDataReadyLog, provDataReady]
  cases isProv : st.prov with
  | none => exact Logged.refl held
  | some prov =>
      dsimp only
      split
      next => exact Logged.refl held
      next =>
        have noted := held.note (.received (payload buf len))
        exact (pduReady_logged noted isProv _).start Iff.rfl rfl

/-! ## Answers -/

theorem mapM_length {α β : Type} {f : α → Option β} {list : List α}
    {out : List β} (isOut : list.mapM f = some out) : out.length = list.length := by
  induction list generalizing out with
  | nil =>
      rw [← Option.some_inj.mp isOut]
      rfl
  | cons head tail induction =>
      rw [List.mapM_cons] at isOut
      simp only [Option.bind_eq_bind, Option.bind_eq_some_iff] at isOut
      rcases isOut with ⟨first, _, rest, isRest, isOut⟩
      rw [← Option.some_inj.mp isOut, List.length_cons, List.length_cons,
        induction isRest]

theorem str2hex_length {text out : List Byte} {outLen : Nat}
    (read : str2hex text outLen = some out) : out.length = outLen := by
  rw [str2hex] at read
  split at read
  next => cases read
  next => rw [mapM_length read, List.length_range]

/-- The user answers the request for a text with more than fits into the
record. -/
structure Overlong (st : ProvState) (input : List Byte) : Prop where
  live : st.prov ≠ none
  prompt : st.agent.prompt = some .responseAscii
  asked : st.agent.pending.cb = some .provOutOobDone
  long : 16 < input.length

theorem provOutOobDone_logged (held : Held st) {type : OobType} {buf : List Byte}
    (fits : st.prov ≠ none → (oobOffset type buf.length).isSome = true) :
    Logged (provOutOobDoneLog env type buf st) st
      (provOutOobDone env type buf st) := by
  rw [provOutOobDoneLog.eq_def, provOutOobDone]
  cases isProv : st.prov with
  | none => exact Logged.refl held
  | some prov =>
      dsimp only
      have live : st.prov ≠ none := by simp [isProv]
      rcases Option.isSome_iff_exists.mp (fits live) with ⟨offset, isOffset⟩
      rw [isOffset]
      refine Logged.touch (provSendConfirm_logged (Held.note (held.setProv ?_) _)) live
        ?_ ?_
      · exact held.session prov isProv
      · exact Option.some_ne_none _
      · rfl

/-- A value of the wrong length ends the session, and is then written to the
record. -/
theorem provOutOobDone_overlong (held : Held st) (live : st.prov ≠ none)
    {buf : List Byte} (long : 16 < buf.length) :
    provOutOobDoneLog env .ascii buf st = [.touch, .free, .touch] ∧
      (provOutOobDone env .ascii buf st).prov = none ∧
      Held (provOutOobDone env .ascii buf st) := by
  rcases Option.ne_none_iff_exists'.mp live with ⟨prov, isProv⟩
  have noOffset : oobOffset .ascii buf.length = none := if_pos long
  have ended : (provAbort st).2.prov = none := by
    simp [provAbort, provComplete, isProv, ProvState.note]
  have kept : (provAbort st).2.agent = st.agent := by
    simp [provAbort, provComplete, isProv, ProvState.note]
  simp only [provOutOobDoneLog, provOutOobDone, isProv, noOffset, provCompleteLog,
    provSendConfirmLog, ended]
  exact ⟨rfl, trivial, held.ended ended kept⟩

theorem Settles.setAgent {log : List SessionAction} {before after : ProvState}
    (settles : Settles log before after) {agent : Agent}
    (unasked : agent.pending.cb = none) :
    Settles log before { after with agent } where
  held := settles.held.setAgent unasked
  ends := settles.ends
  clean := settles.clean
  idle := settles.idle

theorem answerRequest_settles (held : Held st) {type : OobType} {buf : List Byte}
    (fits : st.prov ≠ none → st.agent.pending.cb = some .provOutOobDone →
      (oobOffset type buf.length).isSome = true) :
    Settles (answerRequestLog env type buf st) st
      (answerRequest env type buf st) := by
  rw [answerRequestLog, answerRequest]
  cases asked : st.agent.pending.cb with
  | none => exact (Logged.refl held).toSettles.setAgent rfl
  | some cb =>
      cases cb with
      | provOobPubKey => exact (provOobPubKey_logged held buf).toSettles.setAgent rfl
      | provOutOobDone =>
          have finished := @provOutOobDone_logged env st held type buf fun live =>
            fits live asked
          exact finished.toSettles.setAgent rfl

/-- What the callback of a request may be given. -/
inductive Given (func : PromptFunc) (input : List Byte) (len : U16) :
    OobType → List Byte → Prop where
  | hexadecimal (buf : List Byte) (length : buf.length = len.toNat) :
      Given func input len .hexadecimal buf
  | decimal (value : U32) : Given func input len .decimal (be32 value)
  | ascii (isAscii : func = .responseAscii) : Given func input len .ascii input

/-- Only a text may be too long for the record. -/
theorem Given.fits {func : PromptFunc} {input buf : List Byte} {len : U16}
    {type : OobType} (given : Given func input len type buf) (small : len ≤ 16)
    (short : func = .responseAscii → input.length ≤ 16) :
    (oobOffset type buf.length).isSome = true := by
  cases given with
  | hexadecimal buf length =>
      have fits : ¬16 < buf.length := by
        rw [length]
        bv_omega
      rw [oobOffset, if_neg fits]
      rfl
  | decimal value => rfl
  | ascii isAscii =>
      rw [oobOffset, if_neg (not_lt.mpr (short isAscii))]
      rfl

theorem respondLog_cases (func : PromptFunc) (input : List Byte) :
    respondLog env func input st = [] ∧ func.respond env input st = st ∨
      respondLog env func input st = [] ∧ func.respond env input st =
        { st with agent := st.agent.resetInputRequest } ∨
      ∃ type buf, Given func input st.agent.pending.len type buf ∧
        respondLog env func input st = answerRequestLog env type buf st ∧
        func.respond env input st = answerRequest env type buf st := by
  cases func with
  | responseHexadecimal =>
      simp only [PromptFunc.respond, respondLog]
      cases isBuf : str2hex input st.agent.pending.len.toNat with
      | none => exact Or.inl ⟨rfl, rfl⟩
      | some buf =>
          have given := @Given.hexadecimal .responseHexadecimal input
            st.agent.pending.len buf (str2hex_length isBuf)
          exact Or.inr (Or.inr ⟨_, buf, given, rfl, rfl⟩)
  | responseDecimal =>
      simp only [PromptFunc.respond, respondLog]
      split
      next => exact Or.inl ⟨rfl, rfl⟩
      next => exact Or.inr (Or.inr ⟨_, _, .decimal _, rfl, rfl⟩)
  | responseAscii => exact Or.inr (Or.inr ⟨_, _, .ascii rfl, rfl, rfl⟩)
  | responseOutput => exact Or.inr (Or.inl ⟨rfl, rfl⟩)

theorem userInput_settles (held : Held st) {input : List Byte}
    (short : ¬Overlong st input) :
    Settles (userInputLog env input st) st (userInput env input st) := by
  rw [userInputLog, userInput]
  split
  next => exact (Logged.refl held).toSettles
  next =>
  rw [releasePromptLog, releasePrompt]
  cases prompt : st.agent.prompt with
  | none => exact (Logged.refl held).toSettles
  | some func =>
      dsimp only
      have released := held.setPrompt none
      rcases @respondLog_cases env { st with agent := { st.agent with prompt := none } }
        func input with ⟨silent, same⟩ | ⟨silent, reset⟩ |
          ⟨type, buf, given, isLog, answers⟩
      · rw [silent, same]
        exact (Logged.refl released).toSettles.start Iff.rfl
      · rw [silent, reset]
        exact ((Logged.refl released).toSettles.setAgent rfl).start Iff.rfl
      · rw [isLog, answers]
        apply Settles.start
        · apply answerRequest_settles released
          intro live asked
          apply given.fits (held.asked asked)
          intro isAscii
          rw [isAscii] at prompt
          exact not_lt.mp fun long => short ⟨live, prompt, asked, long⟩
        · exact Iff.rfl

/-- An answer forgets the request that was pending, and with it every new one. -/
theorem userInput_requests (input : List Byte) :
    requests (userInputLog env input st) = [] ∨
      (userInput env input st).agent.pending = emptyRequest := by
  rw [userInputLog, userInput]
  split
  next => exact Or.inl rfl
  next =>
  rw [releasePromptLog, releasePrompt]
  cases prompt : st.agent.prompt with
  | none => exact Or.inl rfl
  | some func =>
      dsimp only
      rcases @respondLog_cases env { st with agent := { st.agent with prompt := none } }
        func input with ⟨silent, _⟩ | ⟨silent, _⟩ | ⟨type, buf, _, _, answers⟩
      · rw [silent]
        exact Or.inl rfl
      · rw [silent]
        exact Or.inl rfl
      · rw [answers]
        exact Or.inr rfl

theorem userInput_overlong (held : Held st) {input : List Byte}
    (overlong : Overlong st input) :
    userInputLog env input st = [.touch, .free, .touch] ∧
      (userInput env input st).prov = none ∧ Held (userInput env input st) := by
  have entered : ¬input.isEmpty = true := by
    intro isEmpty
    have long := overlong.long
    rw [List.isEmpty_iff.mp isEmpty] at long
    exact absurd long (by simp)
  rw [userInputLog, userInput, if_neg entered, if_neg entered, releasePromptLog,
    releasePrompt, overlong.prompt]
  simp only [respondLog, PromptFunc.respond, answerRequestLog, answerRequest,
    overlong.asked]
  rcases @provOutOobDone_overlong env _ (held.setPrompt none) overlong.live input
    overlong.long with ⟨isLog, ended, known⟩
  exact ⟨isLog, ended, known.setAgent rfl⟩

/-! ## Written PDUs -/

/-- The pipe is there for a PDU of a session that is over. -/
structure Late (st : ProvState) (index : Nat) (success : Bool) : Prop where
  ended : st.prov = none
  success : success = true
  waits : st.acquiring[index]? ≠ none

theorem acquireWriteReply_logged (held : Held st) {index : Nat} {success : Bool}
    (timely : ¬Late st index success) :
    Logged (acquireWriteReplyLog env index success st) st
      (acquireWriteReply env index success st) := by
  rw [acquireWriteReplyLog, acquireWriteReply]
  cases waits : st.acquiring[index]? with
  | none => exact Logged.refl held
  | some cb =>
      dsimp only
      have known : Held { st with acquiring := st.acquiring.eraseIdx index } :=
        held.of_same rfl rfl
      have unanswered : Logged [] st
          { st with acquiring := st.acquiring.eraseIdx index } :=
        (Logged.refl known).start Iff.rfl rfl
      cases success with
      | false => exact unanswered
      | true =>
          have live : st.prov ≠ none := fun ended =>
            timely ⟨ended, rfl, by simp [waits]⟩
          cases cb with
          | none => exact unanswered.cons trivial live live rfl
          | some cb =>
              have called := @runCallback_logged env _ known live cb
              exact called.cons trivial live live rfl

/-- Without a session the callbacks do nothing, but `prov_calc_ecdh` reads the
record all the same. -/
theorem runCallback_ended (ended : st.prov = none) (cb : WriteCallback) :
    runCallback env cb st = st ∧ .free ∉ runCallbackLog env cb st ∧
      requests (runCallbackLog env cb st) = [] := by
  cases cb with
  | provStartCmplt =>
      simp [runCallback, runCallbackLog, provStartCmplt, provStartCmpltLog, ended,
        requests]
  | provCalcEcdh =>
      simp [runCallback, runCallbackLog, provCalcEcdh, provCalcEcdhLog, ended,
        requests, asked]

theorem acquireWriteReply_late (held : Held st) {index : Nat} {success : Bool}
    (late : Late st index success) :
    .send ∈ acquireWriteReplyLog env index success st ∧
      .free ∉ acquireWriteReplyLog env index success st ∧
      requests (acquireWriteReplyLog env index success st) = [] ∧
      (acquireWriteReply env index success st).prov = none ∧
      Held (acquireWriteReply env index success st) := by
  have known : Held { st with acquiring := st.acquiring.eraseIdx index } :=
    held.of_same rfl rfl
  rcases Option.ne_none_iff_exists'.mp late.waits with ⟨cb, isCb⟩
  simp only [acquireWriteReplyLog, acquireWriteReply, isCb, late.success]
  cases cb with
  | none => exact ⟨List.mem_cons_self, by simp, rfl, late.ended, known⟩
  | some cb =>
      rcases @runCallback_ended env
        { st with acquiring := st.acquiring.eraseIdx index } late.ended cb with
        ⟨same, unfreed, silent⟩
      dsimp only
      rw [same]
      refine ⟨List.mem_cons_self, ?_, silent, late.ended, known⟩
      rw [List.mem_cons]
      exact fun isFree => isFree.elim (by simp) unfreed

end Functions

/-! ## Steps -/

/-- A step that goes on with a session that is over: an answer that ends it, or
a PDU that waited. -/
def Disturbs (st : ProvState) : ProvInput → Prop
  | .answer input => Overlong st input
  | .writeReply index success => Late st index success
  | _ => False

section Steps

variable {env : ProvEnv} {st : ProvState}

theorem step_settles (held : Held st) {input : ProvInput}
    (rests : ¬Disturbs st input) :
    Settles (stepLog env st input) st (provStep env st input).nextState := by
  cases input with
  | pdu buf len => exact (provDataReady_logged held buf len).toSettles
  | answer input => exact userInput_settles held rests
  | writeReply index success =>
      exact (acquireWriteReply_logged held rests).toSettles
  | network net =>
      have known : Held { st with net } := held.of_same rfl rfl
      exact (Logged.refl known).toSettles.start Iff.rfl
  | secLevel level =>
      rw [provStep]
      split
      · exact (Logged.refl held).toSettles
      · have known : Held { st with secLevel := level } := held.of_same rfl rfl
        exact (Logged.refl known).toSettles.start Iff.rfl

theorem step_disturbs (held : Held st) {input : ProvInput}
    (disturbs : Disturbs st input) :
    Held (provStep env st input).nextState ∧
      ((provStep env st input).nextState.prov = none ↔
        .free ∈ stepLog env st input ∨ st.prov = none) ∧
      ¬((stepLog env st input).Pairwise LeavesAlone ∧
        (st.prov = none → ∀ action ∈ stepLog env st input, ¬action.Uses)) := by
  cases input with
  | pdu buf len => exact disturbs.elim
  | network net => exact disturbs.elim
  | secLevel level => exact disturbs.elim
  | answer input =>
      rcases @userInput_overlong env st held input disturbs with
        ⟨isLog, ended, known⟩
      refine ⟨known, ?_, ?_⟩
      · rw [stepLog, isLog]
        exact iff_of_true ended (by simp)
      · rw [stepLog, isLog]
        exact fun rests => absurd rests.1 (by decide)
  | writeReply index success =>
      rcases @acquireWriteReply_late env st held index success disturbs with
        ⟨sends, _, _, ended, known⟩
      refine ⟨known, iff_of_true ended (Or.inr disturbs.ended), ?_⟩
      exact fun rests => rests.2 disturbs.ended _ sends trivial

/-- A step leaves a session that is over alone, or else it disturbs it. -/
theorem step_rests_iff (held : Held st) (input : ProvInput) :
    (stepLog env st input).Pairwise LeavesAlone ∧
        (st.prov = none → ∀ action ∈ stepLog env st input, ¬action.Uses) ↔
      ¬Disturbs st input := by
  constructor
  · exact fun rests disturbs => (step_disturbs held disturbs).2.2 rests
  · intro rests
    have settles := @step_settles env st held input rests
    exact ⟨settles.clean, settles.idle⟩

end Steps

end Meshctl.Prov
