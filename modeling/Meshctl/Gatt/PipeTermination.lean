import Meshctl.Foundation.Loop
import Meshctl.Gatt.SarRoundTrip

/-! # The loop of the writer ends

The loop of `pipe_write` as a list of rounds, each of which sends one fragment.
It makes progress by the fragment size, which is kept in a byte and can be zero.
-/

namespace Meshctl.Gatt

open Bytes Loop

/-! ## Accepting a message -/

/-- The copy of a message and its length, which is kept in a byte. -/
structure WriteData where
  gattData : List Byte
  gattLen : Byte
deriving DecidableEq

/-- `mesh_gatt_write` keeps the type of a message. What it returns is written by
`pipe_write`, now or once the pipe is acquired; `none` is a refusal. -/
def meshGattWrite (buf : Option (List Byte)) (len : U16) : Option WriteData :=
  match buf with
  | none => none
  | some buf =>
      if len = 0 then
        none
      else if 69 < len then
        none
      else
        some {
          gattData := sarType (get buf 0) :: slice buf 1 (len.toNat - 1)
          gattLen := len.setWidth 8
        }

/-- What is left of a message behind its first byte. -/
def payload (buf : List Byte) (len : U16) : List Byte :=
  slice buf 1 (len.toNat - 1)

/-- An accepted message is cut into fragments from a state with all of it. -/
structure Accepted (buf : List Byte) (len : U16) (data : WriteData) :
    Prop where
  positive : 1 ≤ len.toNat
  small : len.toNat ≤ 69
  gattData : data.gattData = sarType (get buf 0) :: payload buf len
  gattLen : data.gattLen = BitVec.ofNat 8 data.gattData.length

theorem accepted_of_meshGattWrite {buf : List Byte} {len : U16}
    {data : WriteData} (accepts : meshGattWrite (some buf) len = some data) :
    Accepted buf len data := by
  rw [meshGattWrite] at accepts
  by_cases empty : len = 0
  · rw [if_pos empty] at accepts
    cases accepts
  by_cases long : 69 < len
  · rw [if_neg empty, if_pos long] at accepts
    cases accepts
  rw [if_neg empty, if_neg long] at accepts
  have data := Option.some.inj accepts
  subst data
  have positive : 1 ≤ len.toNat := by
    by_contra absent
    exact empty (BitVec.eq_of_toNat_eq (by simp; omega))
  have small := BitVec.le_def.mp (BitVec.not_lt.mp long)
  constructor
  · exact positive
  · exact small
  · rfl
  · apply BitVec.eq_of_toNat_eq
    simp only [List.length_cons, length_slice, BitVec.toNat_setWidth,
      BitVec.toNat_ofNat]
    omega

/-! ## The rounds of the loop -/

/-- The rounds of `pipe_write` while `io_send` succeeds. -/
def PipeRounds (writeMtu : U16) (data : WriteData) (rounds : List PipeState) :
    Prop :=
  Rounds (pipeNext (pipeMaxLen writeMtu))
    (pipeStart data.gattData (pipeMaxLen writeMtu) data.gattLen) rounds

/-- The bytes that the fragments of some rounds carry behind their headers. -/
def sentBytes (data : WriteData) (rounds : List PipeState) : List Byte :=
  rounds.flatMap fun pipe => (pipe.fragment data.gattData).data.tail

/-- The loop ends, and by then every byte was sent once, in order. -/
def EndsAfterSending (writeMtu : U16) (data : WriteData) (bytes : List Byte) :
    Prop :=
  ∃ rounds, PipeRounds writeMtu data rounds ∧ sentBytes data rounds = bytes

/-- The loop with fuel takes the same rounds. -/
theorem pipeLoop_of_rounds {gattData : List Byte} {maxLen : Byte}
    {pipe : PipeState} {rounds : List PipeState}
    (ended : Rounds (pipeNext maxLen) pipe rounds) {fuel : Nat}
    (enough : rounds.length ≤ fuel) (round : Nat) :
    pipeLoop gattData maxLen (fun _ => true) fuel round pipe =
      ⟨rounds.map (PipeState.fragment gattData), true⟩ := by
  induction ended generalizing fuel round with
  | last ends =>
      cases fuel with
      | zero => simp at enough
      | succ fuel => simp [pipeLoop, ends]
  | more goesOn rounds induction =>
      cases fuel with
      | zero => simp at enough
      | succ fuel =>
          have later := induction (Nat.le_of_succ_le_succ enough) (round + 1)
          simp [pipeLoop, goesOn, later]

theorem slice_append_slice (buffer : List Byte) (offset first second : Nat) :
    slice buffer offset first ++ slice buffer (offset + first) second =
      slice buffer offset (first + second) := by
  apply ext_get (by simp)
  intro index inside
  simp only [List.length_append, length_slice] at inside
  rw [get_slice inside]
  by_cases before : index < first
  · rw [get_append_left (by simpa using before), get_slice before]
  · rw [get_append_right (by simpa using before), length_slice,
      get_slice (by omega)]
    congr 1
    omega

section Progress

variable {message : List Byte} {maxLen : Byte} {pipe : PipeState}

/-- With a positive fragment size, or with nothing to send behind the header, the
loop ends and sends what is left. -/
theorem exists_rounds_of_progress
    (invariant : PipeInvariant message maxLen pipe)
    (progress : 1 ≤ maxLen.toNat ∨ pipe.gattLen.toNat = 0) :
    ∃ rounds, Rounds (pipeNext maxLen) pipe rounds ∧
      (rounds.flatMap fun pipe => (pipe.fragment message).data.tail) =
        slice message pipe.base pipe.gattLen.toNat := by
  apply exists_rounds
    (fun pipe => PipeInvariant message maxLen pipe ∧
      (1 ≤ maxLen.toNat ∨ pipe.gattLen.toNat = 0))
    (fun pipe => pipe.gattLen.toNat)
    (fun pipe rounds =>
      (rounds.flatMap fun pipe => (pipe.fragment message).data.tail) =
        slice message pipe.base pipe.gattLen.toNat)
    _ _ ⟨invariant, progress⟩
  · rintro state ⟨holds, positive⟩ ends
    have len := holds.len
    have done : ¬maxLen < state.gattLen := by
      intro more
      have order := BitVec.lt_def.mp more
      rcases pipeNext_invariant holds (by omega) more with ⟨_, result, _⟩
      exact absurd (ends.symm.trans result) (by simp)
    have order := BitVec.le_def.mp (BitVec.not_lt.mp done)
    have whole : state.len = state.gattLen.toNat := by omega
    simp [PipeState.fragment, whole]
  · rintro state following ⟨holds, positive⟩ goesOn
    have len := holds.len
    have more : maxLen < state.gattLen := by
      by_contra done
      exact absurd ((pipeNext_none holds done).symm.trans goesOn) (by simp)
    have order := BitVec.lt_def.mp more
    rcases pipeNext_invariant holds (by omega) more with
      ⟨after, result, kept, base, left⟩
    have same : after = following := Option.some.inj (result.symm.trans goesOn)
    subst same
    refine ⟨⟨kept, Or.inl (by omega)⟩, by omega, ?_⟩
    intro rest sent
    have cut : state.len = maxLen.toNat := by omega
    have whole : state.gattLen.toNat = state.len + after.gattLen.toNat := by
      omega
    rw [List.flatMap_cons, sent, base, whole, ← cut, ← slice_append_slice]
    rfl

/-- A fragment size of zero sends empty fragments forever, unless there is
nothing to send behind the header. -/
theorem not_rounds_of_zero (invariant : PipeInvariant message 0 pipe)
    (some : pipe.gattLen ≠ 0) (rounds : List PipeState) :
    ¬Rounds (pipeNext 0) pipe rounds := by
  have positive : ∀ length : Byte, length ≠ 0 → 0 < length := by
    decide +kernel
  apply not_rounds fun pipe =>
    (sarKind pipe.sar = .first ∨ sarKind pipe.sar = .continuation) ∧
      pipe.gattLen ≠ 0
  · rintro state ⟨kind, left⟩
    refine ⟨_, if_pos kind, ?_⟩
    have same : state.gattLen - 0 = state.gattLen := by simp
    rw [same, pipeCut, if_pos (positive _ left)]
    exact ⟨Or.inr (sarKind_or_bits _ _), left⟩
  · have kind := invariant.kind
    rw [if_pos (positive _ some)] at kind
    refine ⟨?_, some⟩
    rw [kind]
    split
    · exact Or.inl rfl
    · exact Or.inr rfl

end Progress

/-! ## The fragment size -/

theorem pipeMaxLen_eq_zero_iff {writeMtu : U16}
    (mtu : writeMtu = 0 ∨ 23 ≤ writeMtu ∧ writeMtu ≤ 517) :
    pipeMaxLen writeMtu = 0 ↔ writeMtu = 260 ∨ writeMtu = 516 := by
  rcases mtu with absent | ⟨least, most⟩
  · subst absent
    decide
  · have least := BitVec.le_def.mp least
    have most := BitVec.le_def.mp most
    have present : writeMtu ≠ 0 := by
      intro absent
      subst absent
      exact absurd least (by decide)
    rw [pipeMaxLen, if_pos present]
    simp [← BitVec.toNat_inj, BitVec.toNat_setWidth, BitVec.toNat_sub]
      at least most ⊢
    omega

/-! ## The loop of an accepted message -/

section Written

variable {buf : List Byte} {len : U16} {data : WriteData} {writeMtu : U16}

theorem Accepted.length (accepted : Accepted buf len data) :
    data.gattData.length = len.toNat := by
  have positive := accepted.positive
  rw [accepted.gattData, List.length_cons, payload, length_slice]
  omega

theorem Accepted.invariant (accepted : Accepted buf len data) (maxLen : Byte) :
    PipeInvariant data.gattData maxLen
      (pipeStart data.gattData maxLen data.gattLen) := by
  have positive := accepted.positive
  have small := accepted.small
  have length := accepted.length
  have type : sarType (get data.gattData 0) = get data.gattData 0 := by
    rw [accepted.gattData]
    show sarType (sarType (get buf 0)) = sarType (get buf 0)
    exact sarType_sarType _
  rw [accepted.gattLen]
  exact pipeStart_invariant (by omega) (by omega) type

theorem Accepted.left (accepted : Accepted buf len data) (maxLen : Byte) :
    (pipeStart data.gattData maxLen data.gattLen).gattLen.toNat =
      len.toNat - 1 := by
  have positive := accepted.positive
  have left := (accepted.invariant maxLen).left
  rw [pipeStart_base, accepted.length] at left
  omega

end Written

/-- The loop of an accepted message ends, after every byte of the payload was
sent once in order, if and only if there is no payload or the fragment size is
positive; it is zero for two of the sizes that can be negotiated. -/
theorem write_ends_iff {buf : List Byte} {len : U16} {data : WriteData}
    (accepts : meshGattWrite (some buf) len = some data) {writeMtu : U16}
    (mtu : writeMtu = 0 ∨ 23 ≤ writeMtu ∧ writeMtu ≤ 517) :
    EndsAfterSending writeMtu data (payload buf len) ↔
      len = 1 ∨ writeMtu ≠ 260 ∧ writeMtu ≠ 516 := by
  have accepted := accepted_of_meshGattWrite accepts
  have invariant := accepted.invariant (pipeMaxLen writeMtu)
  have left := accepted.left (pipeMaxLen writeMtu)
  have positive := accepted.positive
  have isZero := pipeMaxLen_eq_zero_iff mtu
  constructor
  · rintro ⟨rounds, ended, _⟩
    by_contra fails
    simp only [not_or] at fails
    have zero : pipeMaxLen writeMtu = 0 := by
      rw [isZero]
      by_contra other
      exact fails.2 (not_or.mp other)
    rw [PipeRounds, zero] at ended
    rw [zero] at invariant left
    refine not_rounds_of_zero invariant ?_ rounds ended
    intro empty
    rw [empty] at left
    refine fails.1 (BitVec.eq_of_toNat_eq ?_)
    have none : (0 : Byte).toNat = 0 := rfl
    have one : (1 : U16).toNat = 1 := rfl
    omega
  · intro condition
    have progress : 1 ≤ (pipeMaxLen writeMtu).toNat ∨
        (pipeStart data.gattData (pipeMaxLen writeMtu)
          data.gattLen).gattLen.toNat = 0 := by
      rcases condition with single | sizes
      · right
        rw [left, single]
        rfl
      · left
        by_contra absent
        have zero : pipeMaxLen writeMtu = 0 :=
          BitVec.eq_of_toNat_eq (by simp; omega)
        rcases isZero.mp zero with first | second
        · exact sizes.1 first
        · exact sizes.2 second
    rcases exists_rounds_of_progress invariant progress with
      ⟨rounds, ended, sent⟩
    refine ⟨rounds, ended, ?_⟩
    rw [sentBytes, sent, left, pipeStart_base, accepted.gattData]
    apply ext_get (by simp [payload])
    intro index inside
    rw [length_slice] at inside
    rw [get_slice inside, Nat.add_comm]
    rfl

/-- A message of two bytes over the smallest fragments. -/
theorem write_ends_iff_two_bytes :
    EndsAfterSending 23 ⟨[0x01, 0x02], 2⟩ (payload [0x01, 0x02] 2) :=
  (@write_ends_iff [0x01, 0x02] 2 ⟨[0x01, 0x02], 2⟩ (by decide) 23
    (by decide)).mpr (by decide)

/-- With 260 bytes negotiated, the same message is never done. -/
theorem write_not_always_ends :
    meshGattWrite (some [0x01, 0x02]) 2 = some ⟨[0x01, 0x02], 2⟩ ∧
      ¬EndsAfterSending 260 ⟨[0x01, 0x02], 2⟩ (payload [0x01, 0x02] 2) := by
  have accepts : meshGattWrite (some [0x01, 0x02]) 2 =
      some ⟨[0x01, 0x02], 2⟩ := by decide
  refine ⟨accepts, ?_⟩
  rintro ⟨rounds, ended, _⟩
  exact not_rounds_of_zero ((accepted_of_meshGattWrite accepts).invariant 0)
    (by decide) rounds ended

end Meshctl.Gatt
