import Meshctl.Gatt.Sar

/-! # Fragments of a message are put together again -/

namespace Meshctl.Gatt

open Bytes Execution

/-! ## Receiving one fragment -/

/-- The static buffer holds the first bytes of a message. -/
structure GattSar.Holds (sar : GattSar) (message : List Byte) (count : Nat) :
    Prop where
  size : sar.gattSize.toNat = count
  type : sar.gattPkt.get 0 = get message 0
  bytes : ∀ index < count, sar.gattPkt.get index = get message index

section Receive

variable {sar : GattSar} {message : List Byte} {fragment : Fragment}
  {count : Nat}

theorem GattSar.holds_start (sar : GattSar) (message : List Byte) :
    (sar.start (get message 0)).Holds message 1 := by
  have room : 0 < sar.gattPkt.bytes.length := by
    rw [sar.gattPkt.sized]
    decide
  have first : (sar.start (get message 0)).gattPkt.get 0 = get message 0 :=
    get_splice_inside room (Nat.le_refl _) (by simp)
  constructor
  · rfl
  · exact first
  · intro index isFirst
    have isZero : index = 0 := by omega
    rw [isZero]
    exact first

/-- Appending the next bytes of the message. -/
theorem GattSar.Holds.append (holds : sar.Holds message count)
    (positive : 0 < count) {len : Nat} (fits : count + len ≤ maxGattSize) :
    (sar.append (slice message count len)).Holds message (count + len) := by
  have room := sar.gattPkt.sized
  have small : count + len ≤ 66 := fits
  have unchanged : ∀ index < count,
      (sar.append (slice message count len)).gattPkt.get index =
        sar.gattPkt.get index := by
    intro index before
    exact get_splice_outside (by rw [holds.size]; omega)
  constructor
  · simp only [GattSar.append, length_slice, BitVec.toNat_add,
      BitVec.toNat_ofNat, holds.size]
    omega
  · rw [unchanged 0 positive, holds.type]
  · intro index inside
    by_cases before : index < count
    · rw [unchanged index before, holds.bytes index before]
    · obtain ⟨offset, isIndex⟩ := Nat.exists_eq_add_of_le (Nat.le_of_not_lt before)
      subst isIndex
      rw [GattSar.append, holds.size, Buffer.get, Buffer.copy,
        get_splice_inside (by omega) (by omega) (by simp; omega),
        Nat.add_sub_cancel_left, get_slice (by omega)]

/-- A fragment of the message in progress is accepted. -/
theorem sarTail_holds (holds : sar.Holds message count) (positive : 0 < count)
    {len : Nat} (fits : count + len ≤ maxGattSize)
    (type : fragment.type = get message 0)
    (body : fragment.body = slice message count len) :
    ∃ next : GattSar, sarTail fragment sar = (some next.gattSize, next) ∧
      next.Holds message (count + len) := by
  have accepts : sar.Accepts fragment.type fragment.body.length := by
    rw [type, body, length_slice]
    exact ⟨holds.type, holds.size ▸ fits⟩
  exact ⟨_, by rw [sarTail, if_pos accepts], body ▸ holds.append positive fits⟩

/-- What is held in full is the packet. -/
theorem GattSar.Holds.packet (holds : sar.Holds message message.length)
    (small : message.length ≤ maxGattSize) :
    sar.packet (sar.gattSize.setWidth 16) = message := by
  have length : (sar.gattSize.setWidth 16).toNat = message.length := by
    rw [BitVec.toNat_setWidth, holds.size]
    exact Nat.mod_eq_of_lt (Nat.lt_of_le_of_lt small (by decide))
  rw [GattSar.packet, length]
  apply ext_get (by simp)
  intro index inside
  rw [length_slice] at inside
  rw [get_slice inside, Nat.zero_add]
  exact holds.bytes index inside

end Receive

/-! ## The loop of the writer -/

/-- The loop before a fragment is sent: whether it is the first one and the last
one shows in its header. -/
structure PipeInvariant (message : List Byte) (maxLen : Byte)
    (pipe : PipeState) : Prop where
  type : sarType pipe.sar = get message 0
  left : pipe.base + pipe.gattLen.toNat = message.length
  started : 1 ≤ pipe.base
  len : pipe.len = min maxLen.toNat pipe.gattLen.toNat
  kind : sarKind pipe.sar =
    if maxLen < pipe.gattLen then
      if pipe.base = 1 then .first else .continuation
    else
      if pipe.base = 1 then .complete else .last

section Loop

variable {message : List Byte} {maxLen : Byte} {pipe : PipeState}
  {sar : GattSar}

theorem pipeCut_invariant {type : Byte}
    (isType : sarType type = get message 0) {more done : SarKind} {base : Nat}
    {gattLen : Byte} (left : base + gattLen.toNat = message.length)
    (started : 1 ≤ base)
    (isMore : more = if base = 1 then .first else .continuation)
    (isDone : done = if base = 1 then .complete else .last) :
    PipeInvariant message maxLen
      (pipeCut maxLen (sarType type) more done base gattLen) := by
  rw [pipeCut]
  by_cases isLonger : maxLen < gattLen
  · have order := BitVec.lt_def.mp isLonger
    rw [if_pos isLonger]
    constructor
    · exact (sarType_or_bits _ _).trans isType
    · exact left
    · exact started
    · exact (min_eq_left (Nat.le_of_lt order)).symm
    · rw [if_pos isLonger, ← isMore]
      exact sarKind_or_bits _ _
  · have order := BitVec.le_def.mp (BitVec.not_lt.mp isLonger)
    rw [if_neg isLonger]
    constructor
    · exact (sarType_or_bits _ _).trans isType
    · exact left
    · exact started
    · exact (min_eq_right order).symm
    · rw [if_neg isLonger, ← isDone]
      exact sarKind_or_bits _ _

theorem pipeStart_invariant (nonempty : 1 ≤ message.length)
    (small : message.length < 256)
    (type : sarType (get message 0) = get message 0) :
    PipeInvariant message maxLen
      (pipeStart message maxLen (BitVec.ofNat 8 message.length)) := by
  have one : (1 : Byte).toNat = 1 := rfl
  have left : 1 + (BitVec.ofNat 8 message.length - 1 : Byte).toNat =
      message.length := by
    rw [BitVec.toNat_sub, BitVec.toNat_ofNat, one]
    omega
  exact pipeCut_invariant type left (Nat.le_refl _) rfl rfl

theorem pipeStart_base (gattData : List Byte) (maxLen gattLen : Byte) :
    (pipeStart gattData maxLen gattLen).base = 1 := by
  rw [pipeStart, pipeCut]
  split
  · rfl
  · rfl

/-- With more to send than one fragment, the loop goes on behind it. -/
theorem pipeNext_invariant (invariant : PipeInvariant message maxLen pipe)
    (positive : 1 ≤ maxLen.toNat) (more : maxLen < pipe.gattLen) :
    ∃ next, pipeNext maxLen pipe = some next ∧
      PipeInvariant message maxLen next ∧
      next.base = pipe.base + maxLen.toNat ∧
      next.gattLen.toNat + maxLen.toNat = pipe.gattLen.toNat := by
  have order := BitVec.lt_def.mp more
  have started := invariant.started
  have total := invariant.left
  have kind := invariant.kind
  rw [if_pos more] at kind
  have goesOn : sarKind pipe.sar = .first ∨
      sarKind pipe.sar = .continuation := by
    rw [kind]
    split
    · exact Or.inl rfl
    · exact Or.inr rfl
  have left : (pipe.gattLen - maxLen).toNat =
      pipe.gattLen.toNat - maxLen.toNat := by
    rw [BitVec.toNat_sub]
    omega
  have next : PipeInvariant message maxLen (pipeCut maxLen (sarType pipe.sar)
      .continuation .last (pipe.base + maxLen.toNat)
      (pipe.gattLen - maxLen)) :=
    pipeCut_invariant invariant.type (by omega) (by omega)
      (if_neg (by omega)).symm (if_neg (by omega)).symm
  have sizes : ∀ type more done base gattLen,
      (pipeCut maxLen type more done base gattLen).base = base ∧
      (pipeCut maxLen type more done base gattLen).gattLen = gattLen := by
    intro type more done base gattLen
    rw [pipeCut]
    split
    · exact ⟨rfl, rfl⟩
    · exact ⟨rfl, rfl⟩
  rw [pipeNext, if_pos goesOn]
  exact ⟨_, rfl, next, (sizes _ _ _ _ _).1,
    by rw [(sizes _ _ _ _ _).2, left]; omega⟩

/-- The last fragment ends the loop. -/
theorem pipeNext_none (invariant : PipeInvariant message maxLen pipe)
    (done : ¬maxLen < pipe.gattLen) : pipeNext maxLen pipe = none := by
  have kind := invariant.kind
  rw [if_neg done] at kind
  rw [pipeNext, if_neg]
  rw [kind]
  split
  · decide
  · decide

/-! ## The fragments of the loop -/

/-- The message in progress once the header of a fragment is read. -/
def opened (pipe : PipeState) (sar : GattSar) : GattSar :=
  if pipe.base = 1 then sar.start (sarType pipe.sar) else sar

theorem meshGattSar_fragment (invariant : PipeInvariant message maxLen pipe) :
    meshGattSar sar (pipe.fragment message) =
      if maxLen < pipe.gattLen then
        ⟨(sarTail (pipe.fragment message) (opened pipe sar)).2, 0⟩
      else
        sarEnd (pipe.fragment message) (opened pipe sar) := by
  have len := invariant.len
  have bound := pipe.gattLen.isLt
  have size : (pipe.fragment message).size.toNat = pipe.len + 1 := by
    rw [PipeState.fragment, BitVec.toNat_ofNat]
    omega
  have kind : (pipe.fragment message).kind = _ := invariant.kind
  rw [meshGattSar, if_neg (by omega), kind, opened]
  by_cases more : maxLen < pipe.gattLen
  · rw [if_pos more, if_pos more]
    by_cases isFirst : pipe.base = 1
    · rw [if_pos isFirst, if_pos isFirst]
      rfl
    · rw [if_neg isFirst, if_neg isFirst]
  · rw [if_neg more, if_neg more]
    by_cases isFirst : pipe.base = 1
    · rw [if_pos isFirst, if_pos isFirst]
      rfl
    · rw [if_neg isFirst, if_neg isFirst]

theorem body_fragment (invariant : PipeInvariant message maxLen pipe) :
    (pipe.fragment message).body = slice message pipe.base pipe.len := by
  have len := invariant.len
  have bound := pipe.gattLen.isLt
  have size : (BitVec.ofNat 16 (pipe.len + 1)).toNat - 1 = pipe.len := by
    rw [BitVec.toNat_ofNat]
    omega
  apply ext_get
  · rw [Fragment.body, length_slice, length_slice]
    exact size
  · intro index inside
    rw [Fragment.body, length_slice] at inside
    have inBody : index < pipe.len := by
      rw [← size]
      exact inside
    rw [Fragment.body, get_slice inside, get_slice inBody, Nat.add_comm 1 index]
    exact get_slice inBody

theorem opened_holds (invariant : PipeInvariant message maxLen pipe)
    (held : pipe.base ≠ 1 → sar.Holds message pipe.base) :
    (opened pipe sar).Holds message pipe.base := by
  rw [opened]
  by_cases isFirst : pipe.base = 1
  · rw [if_pos isFirst, invariant.type, isFirst]
    exact GattSar.holds_start sar message
  · rw [if_neg isFirst]
    exact held isFirst

/-- Every fragment but the last is answered with nothing, the last one with the
message. -/
def PutTogether (message : List Byte) (sar : GattSar)
    (fragments : List Fragment) : Prop :=
  ∃ front last, fragments = front ++ [last] ∧
    (∀ entry ∈ sarModel.trace sar front, entry.observation = 0) ∧
    let answer := meshGattSar (sarModel.finalState sar front) last
    answer.observation.toNat = message.length ∧
      answer.nextState.packet answer.observation = message

/-- A fragment that is not the last one goes in front. -/
theorem PutTogether.cons {fragment : Fragment} {rest : List Fragment}
    (silent : (meshGattSar sar fragment).observation = 0)
    (together : PutTogether message (meshGattSar sar fragment).nextState rest) :
    PutTogether message sar (fragment :: rest) := by
  rcases together with ⟨front, last, isRest, zeros, answer⟩
  have allZero : ∀ entry ∈ sarModel.trace sar (fragment :: front),
      entry.observation = 0 := by
    rw [Model.trace_cons, List.forall_mem_cons]
    exact ⟨silent, zeros⟩
  exact ⟨fragment :: front, last, by rw [isRest, List.cons_append], allZero,
    answer⟩

/-- The fragments from here on complete what the reassembler holds. -/
theorem pipeLoop_putTogether (small : message.length ≤ maxGattSize)
    (positive : 1 ≤ maxLen.toNat) (fuel round : Nat)
    (enough : pipe.gattLen.toNat < fuel)
    (invariant : PipeInvariant message maxLen pipe)
    (held : pipe.base ≠ 1 → sar.Holds message pipe.base) :
    (pipeLoop message maxLen (fun _ => true) fuel round pipe).completed = true ∧
      PutTogether message sar
        (pipeLoop message maxLen (fun _ => true) fuel round pipe).fragments := by
  induction fuel generalizing round pipe sar with
  | zero => omega
  | succ fuel induction =>
      have left := invariant.left
      have len := invariant.len
      have type : (pipe.fragment message).type = get message 0 := invariant.type
      have fits : pipe.base + pipe.len ≤ maxGattSize := by omega
      rcases sarTail_holds (opened_holds invariant held) invariant.started fits
        type (body_fragment invariant) with ⟨received, isTail, holds⟩
      have answer := @meshGattSar_fragment message maxLen pipe sar invariant
      rw [pipeLoop, if_pos rfl]
      by_cases more : maxLen < pipe.gattLen
      · have order := BitVec.lt_def.mp more
        rcases pipeNext_invariant invariant positive more with
          ⟨next, isNext, nextInvariant, base, rest⟩
        rw [if_pos more, isTail] at answer
        have isEnd : pipe.base + pipe.len = next.base := by omega
        have tail := @induction next received (round + 1) (by omega)
          nextInvariant (fun _ => isEnd ▸ holds)
        rw [isNext]
        have silent : (meshGattSar sar (pipe.fragment message)).observation =
            0 := by rw [answer]
        have receives : (meshGattSar sar (pipe.fragment message)).nextState =
            received := by rw [answer]
        exact ⟨tail.1, PutTogether.cons silent (receives ▸ tail.2)⟩
      · have order := BitVec.le_def.mp (BitVec.not_lt.mp more)
        have isWhole : pipe.base + pipe.len = message.length := by omega
        rw [isWhole] at holds
        rw [if_neg more, sarEnd, isTail] at answer
        rw [pipeNext_none invariant more]
        have total : (meshGattSar sar
            (pipe.fragment message)).observation.toNat = message.length := by
          rw [answer, ← holds.size]
          show (received.gattSize.setWidth 16).toNat = _
          rw [BitVec.toNat_setWidth]
          exact Nat.mod_eq_of_lt (Nat.lt_trans received.gattSize.isLt
            (by decide : 2 ^ 8 < 2 ^ 16))
        have packet := holds.packet small
        rw [answer] at total
        exact ⟨rfl, [], _, rfl, fun _ absurd => (by cases absurd), by
          rw [Model.finalState_nil, answer]
          exact ⟨total, packet⟩⟩

end Loop

/-- A message that is written to the pipe is put together again, whatever the
fragment size and whatever the reassembler received before. -/
theorem fragments_put_together {message : List Byte}
    (nonempty : 1 ≤ message.length) (small : message.length ≤ maxGattSize)
    (type : get message 0 &&& 0xc0 = 0) {writeMtu : U16}
    (positive : 1 ≤ (pipeMaxLen writeMtu).toNat) (prior : GattSar) :
    let written := pipeWrite message (pipeMaxLen writeMtu) (fun _ => true)
      (BitVec.ofNat 8 message.length)
    written.completed = true ∧
      PutTogether message prior written.fragments := by
  have isType : sarType (get message 0) = get message 0 := by
    revert type
    rw [sarType]
    generalize get message 0 = header
    revert header
    decide +kernel
  have short : message.length ≤ 66 := small
  have invariant := @pipeStart_invariant message (pipeMaxLen writeMtu) nonempty
    (by omega) isType
  exact pipeLoop_putTogether small positive 256 0 (BitVec.isLt _) invariant
    fun later => (later (pipeStart_base _ _ _)).elim

/-! ### A public key -/

/-- The largest message: the provisioning PDU that carries a public key. -/
def publicKeyPdu : List Byte := 0x03 :: 0x03 :: List.replicate 64 0x55

theorem fragments_put_together_public_key :
    let written := pipeWrite publicKeyPdu (pipeMaxLen 0) (fun _ => true) 66
    written.completed = true ∧
      PutTogether publicKeyPdu .zero written.fragments :=
  @fragments_put_together publicKeyPdu (by decide) (by decide) (by decide) 0
    (by decide) .zero

end Meshctl.Gatt
