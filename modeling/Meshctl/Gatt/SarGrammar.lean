import Meshctl.Gatt.SarRoundTrip

/-! # What the reassembler accepts

The type and size of a message stay behind when it is complete, so a fragment
that belongs to no message can be taken for its continuation.
-/

namespace Meshctl.Gatt

open Bytes Execution

/-! ## Fragments that were received -/

/-- The role of a fragment; an empty value has none. -/
def Fragment.part (fragment : Fragment) : Option SarKind :=
  if fragment.size.toNat < 1 then none else some fragment.kind

/-- The reassembler and the fragments it was called with, latest first. -/
structure SarHistory where
  sar : GattSar
  received : List Fragment

def SarHistory.zero : SarHistory where
  sar := .zero
  received := []

def historyModel : Model SarHistory Fragment U16 where
  step history fragment :=
    let answer := meshGattSar history.sar fragment
    ⟨⟨answer.nextState, fragment :: history.received⟩, answer.observation⟩

/-- The latest fragments are one first and then continuing ones, all of one
type; the message they begin. -/
inductive Begun (type : Byte) : List Fragment → List Byte → Prop
  | first {fragment : Fragment} {older : List Fragment}
      (part : fragment.part = some .first) (isType : fragment.type = type) :
      Begun type (fragment :: older) (type :: fragment.body)
  | continuation {fragment : Fragment} {older : List Fragment}
      {message : List Byte} (part : fragment.part = some .continuation)
      (isType : fragment.type = type) (begun : Begun type older message) :
      Begun type (fragment :: older) (message ++ fragment.body)

/-- A message that is returned is a complete fragment, or what the latest
fragments begin and this one ends. -/
def Grammatical (entry : Entry SarHistory Fragment U16) : Prop :=
  let fragment := entry.input
  let packet := entry.after.sar.packet entry.observation
  entry.observation ≠ 0 →
    fragment.part = some .complete ∧ packet = fragment.type :: fragment.body ∨
    fragment.part = some .last ∧ ∃ message,
      Begun fragment.type entry.before.received message ∧
        packet = message ++ fragment.body

/-- The latest fragment that does not continue a message begins one. -/
def IsOpen : List Fragment → Prop
  | [] => False
  | fragment :: older =>
      fragment.part = some .first ∨
        fragment.part = some .continuation ∧ IsOpen older

/-- The last fragment of no message, of the type and within the size that are
left in the static variables. -/
structure StrayLast (entry : Entry SarHistory Fragment U16) : Prop where
  part : entry.input.part = some .last
  accepts : entry.before.sar.Accepts entry.input.type entry.input.body.length
  nonempty : 0 < entry.before.sar.gattSize.toNat + entry.input.body.length
  stray : ¬IsOpen entry.before.received

/-! ## The message in progress -/

section Progress

variable {sar : GattSar} {fragment : Fragment} {received : List Fragment}
  {type : Byte} {message : List Byte}

theorem Begun.isOpen (begun : Begun type received message) :
    IsOpen received := by
  induction begun with
  | first part _ => exact Or.inl part
  | continuation part _ _ induction => exact Or.inr ⟨part, induction⟩

theorem Begun.get_zero (begun : Begun type received message) :
    get message 0 = type ∧ 1 ≤ message.length := by
  induction begun with
  | first => exact ⟨rfl, by simp⟩
  | continuation _ _ _ induction =>
      constructor
      · rw [get_append_left (by omega)]
        exact induction.1
      · rw [List.length_append]
        omega

/-- As long as a message is open, the static variables hold it, or they are
invalid. -/
def KeepsOpen (history : SarHistory) : Prop :=
  IsOpen history.received →
    history.sar.gattPkt.get 0 = gattTypeInvalid ∨
    ∃ type message, Begun type history.received message ∧
      message.length ≤ maxGattSize ∧
      history.sar.Holds message message.length

theorem get_invalidate (sar : GattSar) :
    sar.invalidate.gattPkt.get 0 = gattTypeInvalid := by
  have room : 0 < sar.gattPkt.bytes.length := by
    rw [sar.gattPkt.sized]
    decide
  exact get_splice_inside room (Nat.le_refl _) (by simp)

theorem sarTail_accepted
    (accepts : sar.Accepts fragment.type fragment.body.length) :
    sarTail fragment sar =
      (some (sar.append fragment.body).gattSize, sar.append fragment.body) :=
  if_pos accepts

theorem sarTail_rejected
    (rejects : ¬sar.Accepts fragment.type fragment.body.length) :
    sarTail fragment sar = (none, sar.invalidate) :=
  if_neg rejects

/-- An accepted fragment extends what is held. -/
theorem GattSar.Holds.extend (holds : sar.Holds message message.length)
    (nonempty : 1 ≤ message.length)
    (accepts : sar.Accepts type fragment.body.length) :
    (message ++ fragment.body).length ≤ maxGattSize ∧
      (sar.append fragment.body).Holds (message ++ fragment.body)
        (message ++ fragment.body).length := by
  have fits := accepts.2
  rw [holds.size] at fits
  have longer : sar.Holds (message ++ fragment.body) message.length := by
    constructor
    · exact holds.size
    · rw [holds.type, get_append_left (by omega)]
    · intro index inside
      rw [holds.bytes index inside, get_append_left inside]
  have rest : slice (message ++ fragment.body) message.length
      fragment.body.length = fragment.body := by
    apply ext_get (by simp)
    intro index inside
    rw [length_slice] at inside
    rw [get_slice inside, get_append_right (by omega), Nat.add_sub_cancel_left]
  have extended := longer.append (by omega) fits
  rw [rest] at extended
  rw [List.length_append]
  exact ⟨fits, extended⟩

/-- A first fragment begins a message. -/
theorem sarTail_start
    (accepts : (sar.start fragment.type).Accepts fragment.type
      fragment.body.length) :
    ((sar.start fragment.type).append fragment.body).Holds
      (fragment.type :: fragment.body) (fragment.type :: fragment.body).length ∧
      (fragment.type :: fragment.body).length ≤ maxGattSize := by
  have started := GattSar.holds_start sar [fragment.type]
  have extended := started.extend (Nat.le_refl _) accepts
  exact ⟨extended.2, extended.1⟩

/-- An empty value invalidates; any other one is handled by its role. -/
theorem meshGattSar_part (sar : GattSar) (fragment : Fragment) :
    meshGattSar sar fragment =
      match fragment.part with
      | none => ⟨sar.invalidate, 0⟩
      | some .first => ⟨(sarTail fragment (sar.start fragment.type)).2, 0⟩
      | some .continuation => ⟨(sarTail fragment sar).2, 0⟩
      | some .complete => sarEnd fragment (sar.start fragment.type)
      | some .last => sarEnd fragment sar := by
  rw [meshGattSar, Fragment.part]
  by_cases empty : fragment.size.toNat < 1
  · rw [if_pos empty, if_pos empty]
  · rw [if_neg empty, if_neg empty]
    cases fragment.kind with
    | complete => rfl
    | first => rfl
    | continuation => rfl
    | last => rfl

/-- Every fragment keeps what the static variables hold. -/
theorem historyModel_keepsOpen (history : SarHistory) (fragment : Fragment)
    (keeps : KeepsOpen history) :
    KeepsOpen (historyModel.step history fragment).nextState := by
  rintro (begins | ⟨continues, wasOpen⟩)
  · have step : (historyModel.step history fragment).nextState.sar =
        (sarTail fragment (history.sar.start fragment.type)).2 := by
      show (meshGattSar history.sar fragment).nextState = _
      rw [meshGattSar_part, begins]
    rw [step]
    by_cases accepts : (history.sar.start fragment.type).Accepts fragment.type
        fragment.body.length
    · have held := sarTail_start accepts
      rw [sarTail_accepted accepts]
      exact Or.inr ⟨_, _, Begun.first begins rfl, held.2, held.1⟩
    · rw [sarTail_rejected accepts]
      exact Or.inl (get_invalidate _)
  · have step : (historyModel.step history fragment).nextState.sar =
        (sarTail fragment history.sar).2 := by
      show (meshGattSar history.sar fragment).nextState = _
      rw [meshGattSar_part, continues]
    rw [step]
    by_cases accepts : history.sar.Accepts fragment.type fragment.body.length
    · rw [sarTail_accepted accepts]
      rcases keeps wasOpen with invalid | ⟨type, message, begun, _, held⟩
      · exact absurd (invalid.symm.trans accepts.1).symm (sarType_valid _)
      · have isType : fragment.type = type := by
          rw [← accepts.1, held.type, begun.get_zero.1]
        have extended := held.extend begun.get_zero.2 accepts
        exact Or.inr ⟨_, _, Begun.continuation continues isType begun,
          extended.1, extended.2⟩
    · rw [sarTail_rejected accepts]
      exact Or.inl (get_invalidate _)

end Progress

/-! ## What is returned -/

section Returned

variable {sar : GattSar} {fragment : Fragment} {message : List Byte}

/-- A rejected fragment returns nothing. -/
theorem sarEnd_rejected
    (rejects : ¬sar.Accepts fragment.type fragment.body.length) :
    (sarEnd fragment sar).observation = 0 := by
  rw [sarEnd, sarTail_rejected rejects]
  rfl

theorem sarEnd_accepted
    (accepts : sar.Accepts fragment.type fragment.body.length) :
    (sarEnd fragment sar).nextState = sar.append fragment.body ∧
      (sarEnd fragment sar).observation.toNat =
        sar.gattSize.toNat + fragment.body.length := by
  have fits : sar.gattSize.toNat + fragment.body.length ≤ 66 := accepts.2
  rw [sarEnd, sarTail_accepted accepts]
  constructor
  · rfl
  · show ((sar.append fragment.body).gattSize.setWidth 16).toNat = _
    rw [GattSar.append, BitVec.toNat_setWidth, BitVec.toNat_add,
      BitVec.toNat_ofNat]
    omega

/-- What is held and the end of the message are the packet. -/
theorem sarEnd_packet (holds : sar.Holds message message.length)
    (nonempty : 1 ≤ message.length)
    (accepts : sar.Accepts fragment.type fragment.body.length) :
    (sarEnd fragment sar).nextState.packet (sarEnd fragment sar).observation =
      message ++ fragment.body := by
  have extended := holds.extend nonempty accepts
  rw [sarEnd, sarTail_accepted accepts]
  exact extended.2.packet extended.1

/-- Exactly a stray last fragment breaks the grammar. -/
theorem grammatical_iff (history : SarHistory) (fragment : Fragment)
    (keeps : KeepsOpen history) :
    Grammatical (historyModel.entry history fragment) ↔
      ¬StrayLast (historyModel.entry history fragment) := by
  have answer := meshGattSar_part history.sar fragment
  constructor
  · intro grammatical stray
    have part : fragment.part = some .last := stray.part
    rw [part] at answer
    have accepted := sarEnd_accepted stray.accepts
    have returned : (meshGattSar history.sar fragment).observation ≠ 0 := by
      intro isZero
      rw [answer] at isZero
      have nonempty := stray.nonempty
      have zeroLength := accepted.2.symm.trans (congrArg BitVec.toNat isZero)
      exact Nat.ne_of_gt nonempty zeroLength
    rcases grammatical returned with ⟨isComplete, _⟩ | ⟨_, _, begun, _⟩
    · have isLast := part.symm.trans isComplete
      cases isLast
    · exact stray.stray begun.isOpen
  · intro notStray returned
    have nonzero : (meshGattSar history.sar fragment).observation ≠ 0 := returned
    show fragment.part = some .complete ∧
        (meshGattSar history.sar fragment).nextState.packet
          (meshGattSar history.sar fragment).observation = _ ∨
      fragment.part = some .last ∧ ∃ message, _ ∧
        (meshGattSar history.sar fragment).nextState.packet
          (meshGattSar history.sar fragment).observation = _
    cases part : fragment.part with
    | none => exact absurd (by rw [answer, part]) nonzero
    | some kind =>
        rw [part] at answer
        cases kind with
        | first => exact absurd (by rw [answer]) nonzero
        | continuation => exact absurd (by rw [answer]) nonzero
        | complete =>
            rw [answer] at nonzero ⊢
            by_cases accepts : (history.sar.start fragment.type).Accepts
                fragment.type fragment.body.length
            · have started := GattSar.holds_start history.sar [fragment.type]
              exact Or.inl ⟨rfl, sarEnd_packet started (Nat.le_refl _) accepts⟩
            · exact absurd (sarEnd_rejected accepts) nonzero
        | last =>
            rw [answer] at nonzero ⊢
            by_cases accepts : history.sar.Accepts fragment.type
                fragment.body.length
            · have length := (sarEnd_accepted accepts).2
              have nonempty : 0 <
                  history.sar.gattSize.toNat + fragment.body.length := by
                rw [← length]
                exact Nat.pos_of_ne_zero fun isZero =>
                  nonzero (BitVec.eq_of_toNat_eq isZero)
              have isOpen : IsOpen history.received := by
                by_contra closed
                exact notStray ⟨part, accepts, nonempty, closed⟩
              rcases keeps isOpen with invalid | ⟨type, message, begun, _, held⟩
              · exact absurd (invalid.symm.trans accepts.1).symm
                  (sarType_valid _)
              · have isType : type = fragment.type := by
                  rw [← accepts.1, held.type, begun.get_zero.1]
                subst isType
                exact Or.inr ⟨rfl, message, begun,
                  sarEnd_packet held begun.get_zero.2 accepts⟩
            · exact absurd (sarEnd_rejected accepts) nonzero

end Returned

/-- Two fragments of a provisioning message, and a second end. -/
def endsTwice : List Fragment :=
  [⟨[0x43, 0x01], 2⟩, ⟨[0xc3, 0x02], 2⟩, ⟨[0xc3, 0x03], 2⟩]

end Meshctl.Gatt
