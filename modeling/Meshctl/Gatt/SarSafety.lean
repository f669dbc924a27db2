import Meshctl.Gatt.SarGrammar

/-! # The buffer of the reassembler

What `mesh_gatt_sar` writes, and what it does with the rest of a message of which it
refused a fragment.
-/

namespace Meshctl.Gatt

open Bytes Execution

/-! ## Noting what is written -/

/-- The static variables and the indices of `gatt_pkt` that were written. -/
structure NotedSar where
  sar : GattSar
  writes : List Nat

namespace NotedSar

def zero : NotedSar where
  sar := .zero
  writes := []

variable (noted : NotedSar)

/-- `memcpy` to `gatt_pkt`; the indices need not be inside. -/
def copy (offset : Nat) (source : List Byte) : NotedSar where
  sar := { noted.sar with gattPkt := noted.sar.gattPkt.copy offset source }
  writes := noted.writes ++ List.range' offset source.length

def invalidate : NotedSar := noted.copy 0 [gattTypeInvalid]

def start (type : Byte) : NotedSar :=
  { noted with sar := { noted.sar with gattSize := 1 } }.copy 0 [type]

def append (body : List Byte) : NotedSar :=
  let copied := noted.copy noted.sar.gattSize.toNat body
  { copied with
    sar := { copied.sar with
      gattSize := copied.sar.gattSize + BitVec.ofNat 8 body.length } }

end NotedSar

def sarTailNoted (fragment : Fragment) (noted : NotedSar) : Option Byte × NotedSar :=
  if noted.sar.Accepts fragment.type fragment.body.length then
    let noted := noted.append fragment.body
    (some noted.sar.gattSize, noted)
  else
    (none, noted.invalidate)

def sarEndNoted (fragment : Fragment) (noted : NotedSar) : StepResult NotedSar U16 :=
  let (gattSize, noted) := sarTailNoted fragment noted
  ⟨noted, (gattSize.getD 0).setWidth 16⟩

def meshGattSarNoted (noted : NotedSar) (fragment : Fragment) :
    StepResult NotedSar U16 :=
  if fragment.size.toNat < 1 then
    ⟨noted.invalidate, 0⟩
  else
    match fragment.kind with
    | .first => ⟨(sarTailNoted fragment (noted.start fragment.type)).2, 0⟩
    | .continuation => ⟨(sarTailNoted fragment noted).2, 0⟩
    | .complete => sarEndNoted fragment (noted.start fragment.type)
    | .last => sarEndNoted fragment noted

def notedModel : Model NotedSar Fragment U16 where
  step := meshGattSarNoted

theorem sarTailNoted_eq (fragment : Fragment) (noted : NotedSar) :
    (sarTailNoted fragment noted).1 = (sarTail fragment noted.sar).1 ∧
      (sarTailNoted fragment noted).2.sar = (sarTail fragment noted.sar).2 := by
  rw [sarTailNoted, sarTail]
  split
  · exact ⟨rfl, rfl⟩
  · exact ⟨rfl, rfl⟩

/-- The notes are the only difference. -/
theorem meshGattSarNoted_eq (noted : NotedSar) (fragment : Fragment) :
    (meshGattSarNoted noted fragment).nextState.sar =
        (meshGattSar noted.sar fragment).nextState ∧
      (meshGattSarNoted noted fragment).observation =
        (meshGattSar noted.sar fragment).observation := by
  rw [meshGattSarNoted, meshGattSar]
  split
  next => exact ⟨rfl, rfl⟩
  next =>
    cases fragment.kind with
    | first => exact ⟨(sarTailNoted_eq fragment (noted.start fragment.type)).2, rfl⟩
    | continuation => exact ⟨(sarTailNoted_eq fragment noted).2, rfl⟩
    | complete =>
        have tail := sarTailNoted_eq fragment (noted.start fragment.type)
        exact ⟨tail.2, congrArg (fun size => (size.getD 0).setWidth 16) tail.1⟩
    | last =>
        have tail := sarTailNoted_eq fragment noted
        exact ⟨tail.2, congrArg (fun size => (size.getD 0).setWidth 16) tail.1⟩

/-! ## What is refused -/

/-- The fragment begins a message, or is one. -/
def Fragment.Begins (fragment : Fragment) : Prop :=
  fragment.part = some .first ∨ fragment.part = some .complete

instance (fragment : Fragment) : Decidable fragment.Begins :=
  inferInstanceAs (Decidable (_ ∨ _))

/-- The static variables as they are when a fragment is checked. -/
def GattSar.opened (sar : GattSar) (fragment : Fragment) : GattSar :=
  if fragment.Begins then sar.start fragment.type else sar

/-- An empty value is refused, and a fragment that does not belong to the message in
progress or does not fit. -/
def GattSar.Refuses (sar : GattSar) (fragment : Fragment) : Prop :=
  fragment.part = none ∨
    ¬(sar.opened fragment).Accepts fragment.type fragment.body.length

/-! ## One fragment -/

/-- The variables are opened, and then the fragment is checked. -/
theorem meshGattSarNoted_tail (noted : NotedSar) {fragment : Fragment}
    (notEmpty : fragment.part ≠ none) :
    (meshGattSarNoted noted fragment).nextState =
      (sarTailNoted fragment
        (if fragment.Begins then noted.start fragment.type else noted)).2 := by
  have part : fragment.part = some fragment.kind := by
    rw [Fragment.part] at notEmpty ⊢
    split
    next empty => exact absurd (if_pos empty) notEmpty
    next => rfl
  have size : ¬fragment.size.toNat < 1 := fun empty =>
    notEmpty (by rw [Fragment.part, if_pos empty])
  have begins : fragment.Begins ↔ fragment.kind = .first ∨ fragment.kind = .complete := by
    unfold Fragment.Begins
    rw [part, Option.some_inj, Option.some_inj]
  rw [meshGattSarNoted, if_neg size]
  cases kind : fragment.kind with
  | first => rw [if_pos (begins.mpr (Or.inl kind))]
  | complete => rw [if_pos (begins.mpr (Or.inr kind))]; rfl
  | continuation => rw [if_neg (by simp [begins, kind])]
  | last => rw [if_neg (by simp [begins, kind])]; rfl

/-- What a step does to the static variables, and what it writes. -/
structure SarStep (noted : NotedSar) (fragment : Fragment) (next : NotedSar) : Prop where
  refused : noted.sar.Refuses fragment → next.sar.gattPkt.get 0 = gattTypeInvalid ∧
    (next.sar.gattSize = noted.sar.gattSize ∨ next.sar.gattSize = 1)
  accepted : ¬noted.sar.Refuses fragment →
    next.sar = (noted.sar.opened fragment).append fragment.body
  writes : ∃ written, next.writes = noted.writes ++ written ∧
    ∀ index ∈ written, index < 67

theorem sarStep_opened {noted opened : NotedSar} {fragment : Fragment}
    (notEmpty : fragment.part ≠ none)
    (isOpened : opened.sar = noted.sar.opened fragment)
    (size : opened.sar.gattSize = noted.sar.gattSize ∨ opened.sar.gattSize = 1)
    (writes : ∃ written, opened.writes = noted.writes ++ written ∧
      ∀ index ∈ written, index < 67) :
    SarStep noted fragment (sarTailNoted fragment opened).2 := by
  rcases writes with ⟨written, isWritten, inside⟩
  by_cases accepts : opened.sar.Accepts fragment.type fragment.body.length
  · have tail : (sarTailNoted fragment opened).2 = opened.append fragment.body := by
      rw [sarTailNoted, if_pos accepts]
    rw [tail]
    refine ⟨fun refused => ?_, fun _ => congrArg (·.append fragment.body) isOpened, ?_⟩
    · rw [GattSar.Refuses, ← isOpened] at refused
      exact absurd accepts (refused.resolve_left notEmpty)
    · refine ⟨written ++ List.range' opened.sar.gattSize.toNat fragment.body.length, ?_, ?_⟩
      · rw [← List.append_assoc, ← isWritten]
        rfl
      · have fits := accepts.2
        rw [maxGattSize] at fits
        rw [List.forall_mem_append]
        refine ⟨inside, fun index inBody => ?_⟩
        rw [List.mem_range'_1] at inBody
        omega
  · have tail : (sarTailNoted fragment opened).2 = opened.invalidate := by
      rw [sarTailNoted, if_neg accepts]
    rw [tail]
    refine ⟨fun _ => ⟨get_invalidate opened.sar, size⟩, fun taken => ?_, ?_⟩
    · rw [GattSar.Refuses, ← isOpened] at taken
      exact absurd (Or.inr accepts) taken
    · refine ⟨written ++ [0], ?_, ?_⟩
      · rw [← List.append_assoc, ← isWritten]
        rfl
      · rw [List.forall_mem_append, List.forall_mem_singleton]
        exact ⟨inside, by decide⟩

theorem sarStep (noted : NotedSar) (fragment : Fragment) :
    SarStep noted fragment (meshGattSarNoted noted fragment).nextState := by
  by_cases empty : fragment.part = none
  · have size : fragment.size.toNat < 1 := by
      rw [Fragment.part] at empty
      by_contra notEmpty
      rw [if_neg notEmpty] at empty
      cases empty
    have step : (meshGattSarNoted noted fragment).nextState = noted.invalidate := by
      rw [meshGattSarNoted, if_pos size]
    rw [step]
    refine ⟨fun _ => ⟨get_invalidate noted.sar, Or.inl rfl⟩, fun taken => ?_,
      [0], rfl, by decide⟩
    exact absurd (Or.inl empty) taken
  · rw [meshGattSarNoted_tail noted empty]
    by_cases begins : fragment.Begins
    · rw [if_pos begins]
      exact sarStep_opened empty (if_pos begins).symm (Or.inr rfl) ⟨[0], rfl, by decide⟩
    · rw [if_neg begins]
      exact sarStep_opened empty (if_neg begins).symm (Or.inl rfl)
        ⟨[], (List.append_nil _).symm, List.forall_mem_nil _⟩

/-- The size of what is kept is never more than a byte can hold. -/
theorem gattSize_append {sar : GattSar} {type : Byte} {body : List Byte}
    (accepts : sar.Accepts type body.length) :
    (sar.append body).gattSize.toNat = sar.gattSize.toNat + body.length := by
  have fits := accepts.2
  rw [maxGattSize] at fits
  rw [GattSar.append, BitVec.toNat_add, BitVec.toNat_ofNat]
  omega

/-! ## Runs -/

/-- No byte outside the buffer is written and the size is right, in every run; and what
follows a refused fragment is refused up to the next beginning of a message. -/
structure SarSafe (fragments : List Fragment) : Prop where
  inside : ∀ noted ∈ notedModel.reached .zero fragments, ∀ index ∈ noted.writes, index < 67
  bounded : ∀ noted ∈ notedModel.reached .zero fragments,
    noted.sar.gattSize.toNat ≤ maxGattSize
  unwrapped : ∀ entry ∈ notedModel.trace .zero fragments,
    ¬entry.before.sar.Refuses entry.input →
    entry.after.sar.gattSize.toNat =
      (entry.before.sar.opened entry.input).gattSize.toNat + entry.input.body.length
  refusing : ∀ before refused between later after,
    notedModel.trace .zero fragments =
      before ++ refused :: (between ++ later :: after) →
    refused.before.sar.Refuses refused.input →
    (∀ entry ∈ between, ¬entry.input.Begins) → ¬later.input.Begins →
    later.before.sar.Refuses later.input

/-- What is kept by every step of a run. -/
structure SarInvariant (noted : NotedSar) : Prop where
  inside : ∀ index ∈ noted.writes, index < 67
  bounded : noted.sar.gattSize.toNat ≤ maxGattSize

theorem SarInvariant.step {noted : NotedSar} (invariant : SarInvariant noted)
    (fragment : Fragment) :
    SarInvariant (meshGattSarNoted noted fragment).nextState := by
  rcases sarStep noted fragment with ⟨refused, accepted, written, isWritten, inside⟩
  constructor
  · rw [isWritten, List.forall_mem_append]
    exact ⟨invariant.inside, inside⟩
  · by_cases refuses : noted.sar.Refuses fragment
    · rcases (refused refuses).2 with same | one
      · rw [same]
        exact invariant.bounded
      · rw [one]
        decide
    · have accepts := not_not.mp (not_or.mp refuses).2
      rw [accepted refuses, gattSize_append accepts]
      exact accepts.2

/-- Once invalid, the variables stay invalid until a message begins. -/
theorem refuses_of_invalid {sar : GattSar} (invalid : sar.gattPkt.get 0 = gattTypeInvalid)
    {fragment : Fragment} (notBegins : ¬fragment.Begins) : sar.Refuses fragment := by
  refine Or.inr fun accepts => ?_
  have isType := accepts.1
  rw [GattSar.opened, if_neg notBegins, invalid] at isType
  exact sarType_valid _ isType.symm

theorem sar_safe (fragments : List Fragment) : SarSafe fragments := by
  have initial : SarInvariant .zero := ⟨List.forall_mem_nil _, by decide⟩
  have kept (entry) (member : entry ∈ notedModel.trace .zero fragments) :=
    notedModel.invariant_of_mem_trace SarInvariant (fun _ => True)
      (fun noted fragment invariant _ => invariant.step fragment) initial
      (fun _ _ => trivial) member
  constructor
  · rw [Model.forall_reached_iff]
    exact ⟨initial.inside, fun entry member => (kept entry member).2.inside⟩
  · rw [Model.forall_reached_iff]
    exact ⟨initial.bounded, fun entry member => (kept entry member).2.bounded⟩
  · intro entry member taken
    have accepts := not_not.mp (not_or.mp taken).2
    rw [Model.entry_of_mem_trace notedModel member]
    change (meshGattSarNoted entry.before entry.input).nextState.sar.gattSize.toNat = _
    rw [(sarStep entry.before entry.input).accepted taken, gattSize_append accepts]
    rfl
  · intro before refused between later after split refuses notBegins laterNot
    have isEntry : refused = notedModel.entry refused.before refused.input :=
      notedModel.entry_of_mem_trace
        (split ▸ List.mem_append_right before List.mem_cons_self)
    have invalid : refused.after.sar.gattPkt.get 0 = gattTypeInvalid := by
      rw [isEntry]
      exact ((sarStep refused.before refused.input).refused refuses).1
    rcases notedModel.exists_trace_of_split split with ⟨rest, isRest⟩
    have stays := notedModel.invariant_until
      (fun noted => noted.sar.gattPkt.get 0 = gattTypeInvalid)
      (fun entry => ¬entry.input.Begins)
      (fun noted fragment invalid notBegins =>
        ((sarStep noted fragment).refused (refuses_of_invalid invalid notBegins)).1)
      invalid isRest.symm notBegins
    exact refuses_of_invalid stays laterNot

end Meshctl.Gatt
