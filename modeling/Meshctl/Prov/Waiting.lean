import Meshctl.Prov.Outcome

/-! # What a session waits for

The agent and the completions of writes may call back late and in any order. The
invariant says what has happened by the time that they may still do so.
-/

namespace Meshctl.Prov

open Bytes Net Crypto Execution History

/-! ## Authenticated confirmations -/

/-- The device gave its public key, over the air or out of band. -/
def Obtained (history : List ProvEvent) (key : Buffer 64) : Prop :=
  .received (provPubKey :: key.bytes) ∈ history ∨ .oobPubKey key ∈ history

/-- The secret was computed from a public key of the device. -/
def SecretComputed (history : List ProvEvent) : Prop :=
  ∃ early key late, history = early ++ .ecdh key true :: late ∧ Obtained early key

/-- What has to happen before a confirmation is sent. -/
structure Authenticated (before : List ProvEvent) (authMethod : Byte) :
    Prop where
  computed : SecretComputed before
  answered : authMethod = provStaticOob ∨ authMethod = provOutputOob →
    ∃ value, .oobValue value ∈ before
  generated : authMethod = provInputOob → ∃ value, .generated value ∈ before
  entered : authMethod = provInputOob → .received [provInpCmplt] ∈ before

/-- `prov_send_confirm` is called when the session is authenticated. -/
def ConfirmsAuthenticated (before : List ProvEvent) : ProvEvent → Prop
  | .sendConfirm authMethod => Authenticated before authMethod
  | _ => True

/-! ## What may still be called -/

structure Waits (st : ProvState) (prov : ProvData) : Prop where
  asked : st.agent.pending.cb = some .provOutOobDone →
    SecretComputed st.history ∧ prov.authMethod ≠ provInputOob
  queued : some .provCalcEcdh ∈ st.acquiring →
    prov.keyOutOfBand = true ∧ .oobPubKey prov.confIn.devPubKey ∈ st.history
  generated : prov.authMethod = provInputOob → SecretComputed st.history →
    ∃ value, .generated value ∈ st.history
  invited : prov.state = provInvite → st.agent.pending.cb = none ∧
    (∀ cb, some cb ∉ st.acquiring) ∧ ¬SecretComputed st.history

/-- The kinds of request that have a callback. -/
def OobType.HasCallback (type : OobType) : Prop := type ≠ .none ∧ type ≠ .output

structure Orderly (st : ProvState) : Prop where
  justified : Justified ConfirmsAuthenticated st.history
  unasked : ¬st.agent.pending.type.HasCallback → st.agent.pending.cb = none
  session : ∀ prov, st.prov = some prov → Waits st prov

/-! ## Histories -/

theorem Obtained.append {history : List ProvEvent} {key : Buffer 64}
    (obtained : Obtained history key) (events : List ProvEvent) :
    Obtained (history ++ events) key := by
  rcases obtained with received | outOfBand
  · exact Or.inl (List.mem_append_left events received)
  · exact Or.inr (List.mem_append_left events outOfBand)

theorem SecretComputed.append {history : List ProvEvent}
    (computed : SecretComputed history) (events : List ProvEvent) :
    SecretComputed (history ++ events) := by
  rcases computed with ⟨early, key, late, isHistory, obtained⟩
  refine ⟨early, key, late ++ events, ?_, obtained⟩
  rw [isHistory, List.append_assoc, List.cons_append]

/-- Only `ecdh_shared_secret` computes the secret. -/
theorem SecretComputed.of_concat {history : List ProvEvent} {event : ProvEvent}
    (computed : SecretComputed (history ++ [event]))
    (other : ∀ key, event ≠ .ecdh key true) : SecretComputed history := by
  rcases computed with ⟨early, key, late, isHistory, obtained⟩
  rcases List.eq_nil_or_concat late with isLast | ⟨rest, last, isLate⟩
  · rw [isLast] at isHistory
    have same := (List.append_inj' isHistory rfl).2
    exact absurd (List.singleton_inj.mp same) (other key)
  · rw [isLate, List.concat_eq_append, ← List.cons_append,
      ← List.append_assoc] at isHistory
    exact ⟨early, key, rest, (List.append_inj' isHistory rfl).1, obtained⟩

theorem secretComputed_concat {history : List ProvEvent} {key : Buffer 64}
    (obtained : Obtained history key) :
    SecretComputed (history ++ [.ecdh key true]) :=
  ⟨history, key, [], rfl, obtained⟩

/-! ## Changes of the state -/

theorem Orderly.of_same {before after : ProvState} (orderly : Orderly before)
    (history : after.history = before.history)
    (agent : after.agent = before.agent)
    (acquiring : after.acquiring = before.acquiring)
    (prov : after.prov = before.prov) : Orderly after := by
  constructor
  · rw [history]
    exact orderly.justified
  · rw [agent]
    exact orderly.unasked
  · intro live isLive
    have waits := orderly.session live (prov.symm.trans isLive)
    constructor
    · rw [agent, history]
      exact waits.asked
    · rw [acquiring, history]
      exact waits.queued
    · rw [history]
      exact waits.generated
    · rw [agent, acquiring, history]
      exact waits.invited

theorem Orderly.of_ended {st : ProvState}
    (justified : Justified ConfirmsAuthenticated st.history)
    (unasked : ¬st.agent.pending.type.HasCallback → st.agent.pending.cb = none)
    (ended : st.prov = none) : Orderly st := by
  refine ⟨justified, unasked, ?_⟩
  intro prov live
  rw [ended] at live
  cases live

section Changes

variable {st : ProvState}

/-- Another event than the exchange of keys. -/
theorem Orderly.note (orderly : Orderly st) (event : ProvEvent)
    (ready : ConfirmsAuthenticated st.history event)
    (other : ∀ key, event ≠ .ecdh key true) : Orderly (st.note event) := by
  refine ⟨orderly.justified.concat ready, orderly.unasked, ?_⟩
  intro prov live
  have waits := orderly.session prov live
  constructor
  · intro asked
    rcases waits.asked asked with ⟨computed, method⟩
    exact ⟨computed.append [event], method⟩
  · intro queued
    rcases waits.queued queued with ⟨outOfBand, member⟩
    exact ⟨outOfBand, List.mem_append_left [event] member⟩
  · intro method computed
    rcases waits.generated method (computed.of_concat other) with ⟨value, member⟩
    exact ⟨value, List.mem_append_left [event] member⟩
  · intro invite
    rcases waits.invited invite with ⟨unasked, idle, early⟩
    exact ⟨unasked, idle, fun computed => early (computed.of_concat other)⟩

theorem Orderly.setProv (orderly : Orderly st) {prov prov' : ProvData}
    (live : st.prov = some prov) (confIn : prov'.confIn = prov.confIn)
    (state : prov'.state = prov.state ∨ prov'.state ≠ provInvite) :
    Orderly (st.setProv prov') := by
  refine ⟨orderly.justified, orderly.unasked, ?_⟩
  intro other isOther
  rw [← Option.some_inj.mp isOther]
  have waits := orderly.session prov live
  have method : prov'.authMethod = prov.authMethod := by
    simp only [ProvData.authMethod, confIn]
  have keyGiven : prov'.keyOutOfBand = prov.keyOutOfBand := by
    simp only [ProvData.keyOutOfBand, confIn]
  constructor
  · rw [method]
    exact waits.asked
  · rw [keyGiven, confIn]
    exact waits.queued
  · rw [method]
    exact waits.generated
  · intro invite
    rcases state with same | moved
    · exact waits.invited (same.symm.trans invite)
    · exact absurd invite moved

/-- An agent that will call nothing of the session. -/
theorem Orderly.setAgent (orderly : Orderly st) {agent : Agent}
    (unasked : agent.pending.cb = none) : Orderly { st with agent } := by
  refine ⟨orderly.justified, fun _ => unasked, ?_⟩
  intro prov live
  have waits := orderly.session prov live
  constructor
  · intro asked
    exact absurd (unasked.symm.trans asked) (by simp)
  · exact waits.queued
  · exact waits.generated
  · intro invite
    exact ⟨unasked, (waits.invited invite).2⟩

theorem Orderly.setPrompt (orderly : Orderly st) (prompt : Option PromptFunc) :
    Orderly { st with agent := { st.agent with prompt } } :=
  ⟨orderly.justified, orderly.unasked, fun prov live =>
    let waits := orderly.session prov live
    ⟨waits.asked, waits.queued, waits.generated, waits.invited⟩⟩

/-- Fewer writes are waited for. -/
theorem Orderly.setAcquiring (orderly : Orderly st)
    {acquiring : List (Option WriteCallback)}
    (fewer : ∀ cb, some cb ∈ acquiring → some cb ∈ st.acquiring) :
    Orderly { st with acquiring } := by
  refine ⟨orderly.justified, orderly.unasked, ?_⟩
  intro prov live
  have waits := orderly.session prov live
  refine ⟨waits.asked, fun queued => waits.queued (fewer _ queued),
    waits.generated, ?_⟩
  intro invite
  rcases waits.invited invite with ⟨unasked, idle, early⟩
  exact ⟨unasked, fun cb queued => idle cb (fewer cb queued), early⟩

/-- The callback of a write that is waited for may be called. -/
structure MayQueue (st : ProvState) (cb : WriteCallback) : Prop where
  started : ∀ prov, st.prov = some prov → prov.state ≠ provInvite
  key : cb = .provCalcEcdh → ∀ prov, st.prov = some prov →
    prov.keyOutOfBand = true ∧ .oobPubKey prov.confIn.devPubKey ∈ st.history

theorem Orderly.enqueue (orderly : Orderly st) {cb : Option WriteCallback}
    (may : ∀ callback, cb = some callback → MayQueue st callback) :
    Orderly { st with acquiring := st.acquiring ++ [cb] } := by
  refine ⟨orderly.justified, orderly.unasked, ?_⟩
  intro prov live
  have waits := orderly.session prov live
  refine ⟨waits.asked, ?_, waits.generated, ?_⟩
  · intro queued
    rcases List.mem_append.mp queued with inOld | isNew
    · exact waits.queued inOld
    · exact (may _ (List.mem_singleton.mp isNew).symm).key rfl prov live
  · intro invite
    rcases waits.invited invite with ⟨unasked, idle, early⟩
    refine ⟨unasked, ?_, early⟩
    intro callback queued
    rcases List.mem_append.mp queued with inOld | isNew
    · exact idle callback inOld
    · exact (may _ (List.mem_singleton.mp isNew).symm).started prov live invite

end Changes

end Meshctl.Prov
