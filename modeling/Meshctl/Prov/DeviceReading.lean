import Meshctl.Prov.Exchange

/-! # What a device reads -/

namespace Meshctl.Prov

open Bytes Net Crypto CounterMode

/-! ## Messages -/

theorem get_message (type : Byte) (payload : List Byte) (index : Nat) :
    get (message type payload) (2 + index) = get payload index := by
  rw [message, get_append_right (Nat.le_add_right 2 index)]
  exact congrArg (get payload) (Nat.add_sub_cancel_left 2 index)

theorem length_message (type : Byte) (payload : List Byte) :
    (message type payload).length = payload.length + 2 :=
  rfl

theorem read_message {size : Nat} (type : Byte) (payload : Buffer size) :
    (Buffer.read (message type payload.bytes) 2 : Buffer size) = payload := by
  apply Buffer.ext_get
  intro index inside
  rw [Buffer.get_read inside, get_message, Buffer.get]

theorem slice_message {type : Byte} {payload : List Byte} {size : Nat}
    (length : payload.length = size) : slice (message type payload) 2 size = payload := by
  apply ext_get (by rw [length_slice, length])
  intro index inside
  rw [length_slice] at inside
  rw [get_slice inside, get_message]

theorem Start.read_bytes (type : Byte) (start : Start) :
    Start.read (message type start.bytes) 2 = start :=
  rfl

/-! ## Provisioning data -/

section Data

variable (env : ProvEnv) (secret : Buffer 32) (salt : AesBlock)

/-- What is encrypted with the keys of the session is decrypted with them. -/
theorem decryptData_sealed {data : List Byte} (length : data.length = 25) :
    decryptData env secret salt (ccmSealed (env.aes (sessionKey env secret salt))
      (sessionNonce env secret salt) (fun _ => 0) 0 8 data) = some data := by
  have sealedLength := @length_ccmSealed (env.aes (sessionKey env secret salt))
    (sessionNonce env secret salt) (fun _ => 0) 0 8 (by omega) data
  generalize isSealed : ccmSealed (env.aes (sessionKey env secret salt))
    (sessionNonce env secret salt) (fun _ => 0) 0 8 data = whole at sealedLength ⊢
  have plain : ccmPlain (env.aes (sessionKey env secret salt))
      (sessionNonce env secret salt) 8 whole = data := by
    rw [← isSealed, @ccmPlain_ccmSealed _ _ _ _ _ (by omega)]
  have tag : whole.drop (whole.length - 8) =
      sentTag (env.aes (sessionKey env secret salt))
        (sessionNonce env secret salt) (fun _ => 0) 0 8 data := by
    rw [sealedLength, Nat.add_sub_cancel, ← isSealed, ccmSealed, drop_sealed]
  rw [decryptData, decrypted_eq (Or.inr rfl) (by omega) (by omega) (by decide)
    (by rw [sealedLength, length]; rfl), plain]
  dsimp only
  rw [if_pos (decide_eq_true tag)]

end Data

/-! ## The messages of a session -/

section Reading

variable (s : Setting) (terms : Terms)

/-- A message of the right size, in the phase that waits for it. -/
theorem read_awaited {st : DeviceState} {type : Byte} {payload : List Byte}
    (waits : st.phase.awaits = some type)
    (sized : expectedPduSize type = payload.length + 1) :
    s.device.read s.env (message type payload) st =
      s.device.readAwaited s.env (message type payload) st := by
  have running : st.phase ≠ .failed := by
    intro failed
    rw [failed] at waits
    cases waits
  have isType : get (message type payload) 1 = type := rfl
  rw [Device.read, if_neg running, isType,
    if_pos ⟨waits, by rw [length_message, sized]⟩]

/-- Every message is read in the phase that waits for it. -/
theorem device_reads {phase : DevicePhase} (waits : phase.awaits ≠ none)
    (shown : s.start.authMethod ≠ provInputOob →
      terms.devAuth = s.device.auth s.start)
    (sized : phase = .revealed → terms.data.length = 25) :
    ∃ bytes, (s.messages terms)[phase.count]? = some bytes ∧
      s.device.read s.env bytes (deviceAt s terms phase) =
        (deviceAt s terms (nextPhase s terms phase), answerIn s terms phase) := by
  cases phase with
  | idle =>
      refine ⟨_, rfl, ?_⟩
      rw [read_awaited s rfl rfl]
      rfl
  | invited =>
      refine ⟨_, rfl, ?_⟩
      rw [read_awaited s rfl rfl]
      rfl
  | started =>
      refine ⟨_, rfl, ?_⟩
      have keySize := s.prvPubKey.sized
      rw [read_awaited s rfl (by rw [keySize]; rfl)]
      change s.device.readPubKey (Buffer.read _ 2) _ = _
      rw [read_message]
      by_cases isInput : s.start.authMethod = provInputOob
      · rw [nextPhase, if_pos isInput]
        exact Prod.ext (if_pos isInput) rfl
      · rw [nextPhase, if_neg isInput]
        have ready : deviceReady s terms = { deviceWaiting s with
            phase := .ready, auth := s.device.auth s.start } := by
          rw [← shown isInput]
          rfl
        exact Prod.ext ((if_neg isInput).trans ready.symm) rfl
  | ready =>
      refine ⟨_, rfl, ?_⟩
      have confSize := (s.conf terms.random terms.auth).sized
      rw [read_awaited s rfl (by rw [confSize]; rfl)]
      change s.device.readConfirm s.env (Buffer.read _ 2) _ = _
      rw [read_message]
      rfl
  | confirmed =>
      refine ⟨_, rfl, ?_⟩
      have randomSize := terms.random.sized
      rw [read_awaited s rfl (by rw [randomSize]; rfl)]
      change s.device.readRandom s.env (Buffer.read _ 2) _ = _
      rw [read_message]
      by_cases accepts : Accepts s terms
      · rw [nextPhase, answerIn, if_pos accepts, if_pos accepts, Device.readRandom]
        exact if_pos accepts
      · rw [nextPhase, answerIn, if_neg accepts, if_neg accepts, Device.readRandom]
        exact if_neg accepts
  | revealed =>
      refine ⟨_, rfl, ?_⟩
      have dataSize := sized rfl
      have sealedSize : (s.sealedData terms).length = 33 := by
        rw [Setting.sealedData, length_ccmSealed (by omega), dataSize]
      rw [read_awaited s rfl (by rw [sealedSize]; rfl)]
      change s.device.readData s.env (slice _ 2 33) _ = _
      rw [slice_message sealedSize, Device.readData]
      have opens : decryptData s.env s.secret (s.salt terms) (s.sealedData terms) =
          some terms.data := decryptData_sealed s.env s.secret _ dataSize
      split
      next none => exact absurd (opens.symm.trans none) (Option.some_ne_none _)
      next data isSome =>
        have isData : data = terms.data := Option.some_inj.mp (isSome.symm.trans opens)
        rw [isData]
        rfl
  | waiting => exact absurd rfl waits
  | provisioned => exact absurd rfl waits
  | failed => exact absurd rfl waits

end Reading

end Meshctl.Prov
