import Meshctl.Prov.ExchangeSteps

/-! # The parties of an exchange agree -/

namespace Meshctl.Prov

open Bytes Net Crypto Execution

/-- The device has no data and nothing is stored of it, or both sides have the
same address and device key, and the device has a key of the network. -/
structure Agrees (Network : NetInfo → Prop) (device : Device) (netIdx : U16)
    (before : ProvState) (ex : Exchange) : Prop where
  unprovisioned : ex.device.data = none →
    ex.session.node = before.node ∧ 0 ∉ ex.session.outcomes
  provisioned : ∀ data, ex.device.data = some data →
    ∃ net key newAddr, Network net ∧ net.key netIdx = some key ∧
      data = key.bytes ++ be16 netIdx ++ [(net.flags netIdx).getD 0] ++
        be32 net.ivIndex ++ be16 newAddr ∧
      ((∃ prov, ex.session.prov = some prov ∧ prov.newAddr = newAddr ∧
          prov.devKey = ex.device.devKey) ∨
        ex.session.prov = none ∧ ex.session.outcomes = [0] ∧
          ex.session.node =
            { numEle := device.caps.numEle, primary := newAddr
              devKey := ex.device.devKey
              netKeys := addNetKey before.node.netKeys netIdx })

section Agreement

variable {s : Setting} {terms : Terms} {stage : SessionStage} {ex : Exchange}

theorem SessionIn.unsuccessful {st : ProvState} (reached : SessionIn s terms stage st)
    (other : stage ≠ .done) : st.node = s.before.node ∧ 0 ∉ st.outcomes := by
  have ofLive : ∀ {count}, Live s terms count st →
      st.node = s.before.node ∧ 0 ∉ st.outcomes := by
    intro count live
    refine ⟨live.node, ?_⟩
    rw [live.unended]
    exact List.not_mem_nil
  cases reached with
  | invited live => exact ofLive live
  | keyAsked live => exact ofLive live
  | keyAwaited live => exact ofLive live
  | keyed live => exact ofLive live
  | confirming live => exact ofLive live
  | revealing live => exact ofLive live
  | unsent live => exact ofLive live
  | sent live => exact ofLive live
  | done => exact absurd rfl other
  | failed _ _ _ outcomes failure node =>
      refine ⟨node, ?_⟩
      rw [outcomes, List.mem_singleton]
      exact failure.symm

/-- The session has ended well only where the device has its data. -/
theorem Coupled.undone {phase : DevicePhase} {replies : List (List Byte)}
    (coupled : Coupled s terms stage phase replies) (early : phase ≠ .provisioned) :
    stage ≠ .done := by
  intro isDone
  subst isDone
  cases coupled
  exact early rfl

theorem Aligned.agrees (aligned : Aligned s ex) :
    Agrees s.Network s.device s.netIdx s.before ex := by
  rcases aligned with ⟨terms, stage, phase, joint⟩
  by_cases isProvisioned : phase = .provisioned
  · subst isProvisioned
    have isData : ex.device.data = some terms.data := by
      rw [joint.device]
      rfl
    have isDevKey : ex.device.devKey = deviceKey s.env s.secret (s.salt terms) := by
      rw [joint.device]
      rfl
    constructor
    · intro noData
      rw [isData] at noData
      cases noData
    · intro data isSome
      rw [← Option.some_inj.mp (isData.symm.trans isSome), isDevKey]
      have coupled := joint.coupled
      generalize ex.replies = replies at coupled
      cases coupled with
      | provisioned =>
          rcases joint.session with _ | _ | _ | _ | _ | _ | _ |
            ⟨_, isProv, _, _, newAddr, _, devKey, net, key, isNetwork, isKey, isData⟩
          exact ⟨net, key, terms.newAddr, isNetwork, isKey, isData,
            Or.inl ⟨_, isProv, newAddr, devKey⟩⟩
      | done =>
          rcases joint.session with _ | _ | _ | _ | _ | _ | _ | _ |
            ⟨_, ended, _, outcomes, node, net, key, isNetwork, isKey, isData⟩
          exact ⟨net, key, terms.newAddr, isNetwork, isKey, isData,
            Or.inr ⟨ended, outcomes, node⟩⟩
      | stopped few behind =>
          have early := behind.trans few
          exact absurd early (by decide)
      | rejected last => simp at last
  · have noData : ex.device.data = none := by
      rw [joint.device]
      cases phase with
      | provisioned => exact absurd rfl isProvisioned
      | _ => rfl
    constructor
    · exact fun _ => joint.session.unsuccessful (joint.coupled.undone isProvisioned)
    · intro data isSome
      rw [noData] at isSome
      cases isSome

end Agreement

/-- Every key gives the same secret, and codes are sums. -/
def pairedEnv : ProvEnv :=
  { plainProvEnv with
    makeKey := some (Buffer.zero, Buffer.zero)
    ecdhSharedSecret := fun _ _ _ _ => (true, Buffer.zero) }

/-- One element, and nothing to authenticate with. -/
def plainDevice : Device where
  caps := ⟨[1, 0, 1, 0, 0, 0, 0, 0, 0, 0, 0], rfl⟩
  pubKey := Buffer.zero
  secret _ := Buffer.zero
  random := Buffer.zero
  auth _ := Buffer.zero

/-- The security level accepts every device. -/
def lenientState : ProvState := { plainProvState with secLevel := 0 }

/-- Each message is delivered, and the network changes in the meantime. -/
def plainDeliveries : List ExchangeInput :=
  [.toDevice, .toSession, .toDevice, .toDevice, .toSession, .toDevice,
    .network { plainProvState.net with ivIndex := 6 }, .toSession, .toDevice,
    .toSession, .toDevice, .toSession]

def ProvEvent.givenKey : ProvEvent → Option (Buffer 64)
  | .oobPubKey key => some key
  | _ => none

end Meshctl.Prov
