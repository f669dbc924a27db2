import Mathlib

/-! # Putting off a step

Steps that may fail. A step that commutes with those behind it can be taken after
them, so that a change in the middle of a loop shows only in the end.
-/

namespace Meshctl.Commutation

variable {State Item : Type*}

/-- Where `step` succeeds, `other` may as well be taken after it. -/
def PutOff (step other : State → Option State) : Prop :=
  ∀ state next, step state = some next → (other state).bind step = other next

theorem PutOff.skip (other : State → Option State) : PutOff some other := by
  intro state next same
  cases same
  cases other state with
  | none => rfl
  | some after => rfl

theorem PutOff.bind {first second other : State → Option State}
    (one : PutOff first other) (two : PutOff second other) :
    PutOff (fun state => (first state).bind second) other := by
  intro state next both
  rcases Option.bind_eq_some_iff.mp both with ⟨between, isFirst, isSecond⟩
  rw [← two between next isSecond, ← one state between isFirst, Option.bind_assoc]

theorem PutOff.foldlM {step : State → Item → Option State}
    {other : State → Option State} {items : List Item}
    (each : ∀ item ∈ items, PutOff (fun state => step state item) other) :
    PutOff (fun state => items.foldlM step state) other := by
  induction items with
  | nil => exact PutOff.skip other
  | cons item items induction =>
      simp only [List.foldlM_cons]
      exact (each item List.mem_cons_self).bind
        (induction fun later member => each later (List.mem_cons_of_mem _ member))

/-- A loop over a list with one item changed, when the change shows as a step that
can be put off. -/
theorem foldlM_modify {step : State → Item → Option State}
    {other : State → Option State} {items : List Item} {index : Nat} {item : Item}
    {change : Item → Item} (atIndex : items[index]? = some item)
    (changed : ∀ state next, step state item = some next →
      step state (change item) = other next)
    (later : ∀ position behind, index < position → items[position]? = some behind →
      PutOff (fun state => step state behind) other)
    {start final : State} (runs : items.foldlM step start = some final) :
    (items.modify index change).foldlM step start = other final := by
  induction items generalizing index start with
  | nil => cases atIndex
  | cons first items induction =>
      rw [List.foldlM_cons] at runs
      rcases Option.bind_eq_some_iff.mp runs with ⟨next, stepped, rest⟩
      cases index with
      | zero =>
          cases atIndex
          have putOff : PutOff (fun state => items.foldlM step state) other := by
            refine PutOff.foldlM fun behind member => ?_
            rcases List.mem_iff_getElem?.mp member with ⟨position, isBehind⟩
            exact later (position + 1) behind (Nat.succ_pos _) isBehind
          rw [List.modify_zero_cons, List.foldlM_cons, changed start next stepped]
          exact putOff next final rest
      | succ index =>
          rw [List.modify_succ_cons, List.foldlM_cons, stepped]
          refine induction atIndex (fun position behind after isBehind => ?_) rest
          exact later (position + 1) behind (Nat.succ_lt_succ after) isBehind

/-- What `step` does is lost when `other` follows it. -/
def LostIn (step other : State → Option State) : Prop :=
  ∀ state next, step state = some next → other next = other state

/-! ## Steps on a part -/

section Parts

variable {Part : Type*}

/-- A step on a part of a state. -/
def onPart (get : State → Part) (set : State → Part → State)
    (step : Part → Option Part) (state : State) : Option State :=
  (step (get state)).map (set state)

/-- What is put into a state is there, and nothing else of the part is left. -/
structure Lens (get : State → Part) (set : State → Part → State) : Prop where
  get_set : ∀ state part, get (set state part) = part
  set_set : ∀ state first second, set (set state first) second = set state second

theorem PutOff.onPart {get : State → Part} {set : State → Part → State}
    (lens : Lens get set) {step other : Part → Option Part}
    (putOff : PutOff step other) :
    PutOff (onPart get set step) (onPart get set other) := by
  intro state next stepped
  rcases Option.map_eq_some_iff.mp stepped with ⟨part, isPart, rfl⟩
  have both := putOff (get state) part isPart
  simp only [Commutation.onPart, lens.get_set]
  rw [← both]
  cases other (get state) with
  | none => rfl
  | some after =>
      simp only [Option.map_some, Option.bind_some, Commutation.onPart, lens.get_set]
      cases step after with
      | none => rfl
      | some last =>
          simp only [Option.map_some, lens.set_set]

/-- A step that neither looks at a part nor changes it. -/
def Ignores (set : State → Part → State) (step : State → Option State) : Prop :=
  ∀ state part, step (set state part) = (step state).map fun next => set next part

theorem Ignores.bind {set : State → Part → State}
    {first second : State → Option State} (one : Ignores set first)
    (two : Ignores set second) :
    Ignores set fun state => (first state).bind second := by
  intro state part
  dsimp only
  rw [one state part]
  cases first state with
  | none => rfl
  | some next => exact two next part

theorem Ignores.foldlM {set : State → Part → State}
    {step : State → Item → Option State} {items : List Item}
    (each : ∀ item ∈ items, Ignores set fun state => step state item) :
    Ignores set fun state => items.foldlM step state := by
  induction items with
  | nil => exact fun _ _ => rfl
  | cons item items induction =>
      simp only [List.foldlM_cons]
      exact (each item List.mem_cons_self).bind
        (induction fun later member => each later (List.mem_cons_of_mem _ member))

/-- A step may be refused for reasons that have nothing to do with the part. -/
theorem Ignores.guarded {set : State → Part → State} {guard : State → Prop}
    [DecidablePred guard] {step : State → Option State}
    (unseen : ∀ state part, guard (set state part) ↔ guard state)
    (ignores : Ignores set step) :
    Ignores set fun state => if guard state then none else step state := by
  intro state part
  dsimp only
  by_cases refused : guard state
  · rw [if_pos refused, if_pos ((unseen state part).mpr refused)]
    rfl
  · rw [if_neg refused, if_neg (mt (unseen state part).mp refused)]
    exact ignores state part

/-- A step may depend on something that is known. -/
theorem Ignores.given {Known : Type*} {set : State → Part → State}
    {known : Option Known} {step : Known → State → Option State}
    (each : ∀ value, Ignores set (step value)) :
    Ignores set fun state => known.bind fun value => step value state := by
  cases known with
  | none => exact fun _ _ => rfl
  | some value => exact each value

/-- A step on another part does not look at this one. -/
theorem ignores_onPart {Other : Type*} {get : State → Other}
    {set : State → Other → State} {setPart : State → Part → State}
    (unseen : ∀ state part, get (setPart state part) = get state)
    (apart : ∀ state part other,
      set (setPart state part) other = setPart (set state other) part)
    (step : Other → Option Other) :
    Ignores setPart (Commutation.onPart get set step) := by
  intro state part
  simp only [Commutation.onPart, unseen]
  cases step (get state) with
  | none => rfl
  | some other => exact congrArg some (apart state part other)

/-- Such a step does not disturb one on the part. -/
theorem Ignores.putOff {get : State → Part} {set : State → Part → State}
    (lens : Lens get set) (set_get : ∀ state, set state (get state) = state)
    {step : State → Option State} (ignores : Ignores set step)
    (other : Part → Option Part) : PutOff step (Commutation.onPart get set other) := by
  intro state next stepped
  have kept : get next = get state := by
    have same := ignores state (get state)
    rw [set_get, stepped, Option.map_some] at same
    rw [Option.some_inj.mp same, lens.get_set]
  rw [Commutation.onPart, Commutation.onPart, kept]
  cases other (get state) with
  | none => rfl
  | some part =>
      rw [Option.map_some, Option.bind_some, ignores state part, stepped]
      rfl

theorem LostIn.onPart {get : State → Part} {set : State → Part → State}
    (lens : Lens get set) {step other : Part → Option Part}
    (lost : LostIn step other) :
    LostIn (onPart get set step) (onPart get set other) := by
  intro state next stepped
  rcases Option.map_eq_some_iff.mp stepped with ⟨part, isPart, rfl⟩
  simp only [Commutation.onPart, lens.get_set]
  rw [lost (get state) part isPart]
  congr 1
  funext after
  exact lens.set_set state part after

end Parts

/-! ## Updates of an entry -/

section Entries

/-- Update the first entry that a search finds. -/
def updateFirst (found : Item → Bool) (update : Item → Option Item) :
    List Item → Option (List Item)
  | [] => none
  | entry :: rest =>
      if found entry then (update entry).map (· :: rest)
      else (updateFirst found update rest).map (entry :: ·)

/-- An update that a search does not notice. -/
def Unseen (found : Item → Bool) (update : Item → Option Item) : Prop :=
  ∀ entry next, update entry = some next → found next = found entry

variable {found elsewhere : Item → Bool} {step other : Item → Option Item}

theorem updateFirst_found {update : Item → Option Item} {entry : Item}
    (isFound : found entry = true) (rest : List Item) :
    updateFirst found update (entry :: rest) = (update entry).map (· :: rest) :=
  if_pos isFound

theorem updateFirst_other {update : Item → Option Item} {entry : Item}
    (notFound : found entry = false) (rest : List Item) :
    updateFirst found update (entry :: rest) =
      (updateFirst found update rest).map (entry :: ·) := by
  rw [updateFirst, notFound]
  rfl

theorem PutOff.updateFirst (putOff : PutOff step other)
    (stepUnseen : Unseen found step) (otherUnseen : Unseen found other) :
    PutOff (updateFirst found step) (updateFirst found other) := by
  intro entries
  induction entries with
  | nil =>
      intro next stepped
      cases stepped
  | cons entry rest induction =>
      intro next stepped
      cases isFound : found entry with
      | true =>
          rw [updateFirst_found isFound] at stepped ⊢
          rcases Option.map_eq_some_iff.mp stepped with ⟨after, isAfter, rfl⟩
          rw [updateFirst_found ((stepUnseen entry after isAfter).trans isFound),
            ← putOff entry after isAfter]
          cases isOther : other entry with
          | none => rfl
          | some changed =>
              simp only [Option.map_some, Option.bind_some]
              exact updateFirst_found
                ((otherUnseen entry changed isOther).trans isFound) rest
      | false =>
          rw [updateFirst_other isFound] at stepped ⊢
          rcases Option.map_eq_some_iff.mp stepped with ⟨after, isAfter, rfl⟩
          rw [updateFirst_other isFound, ← induction after isAfter]
          cases Commutation.updateFirst found other rest with
          | none => rfl
          | some changed =>
              simp only [Option.map_some, Option.bind_some]
              exact updateFirst_other isFound changed

theorem LostIn.updateFirst (lost : LostIn step other)
    (stepUnseen : Unseen found step) :
    LostIn (updateFirst found step) (updateFirst found other) := by
  intro entries
  induction entries with
  | nil =>
      intro next stepped
      cases stepped
  | cons entry rest induction =>
      intro next stepped
      cases isFound : found entry with
      | true =>
          rw [updateFirst_found isFound] at stepped ⊢
          rcases Option.map_eq_some_iff.mp stepped with ⟨after, isAfter, rfl⟩
          rw [updateFirst_found ((stepUnseen entry after isAfter).trans isFound),
            lost entry after isAfter]
      | false =>
          rw [updateFirst_other isFound] at stepped ⊢
          rcases Option.map_eq_some_iff.mp stepped with ⟨after, isAfter, rfl⟩
          rw [updateFirst_other isFound, induction after isAfter]

/-- Updates of entries that are found by different searches. -/
theorem putOff_updateFirst
    (apart : ∀ entry, found entry = true → elsewhere entry = false)
    (stepUnseen : Unseen elsewhere step) (otherUnseen : Unseen found other) :
    PutOff (updateFirst found step) (updateFirst elsewhere other) := by
  intro entries
  induction entries with
  | nil =>
      intro next stepped
      cases stepped
  | cons entry rest induction =>
      intro next stepped
      cases isFound : found entry with
      | true =>
          have passed := apart entry isFound
          rw [updateFirst_found isFound] at stepped
          rcases Option.map_eq_some_iff.mp stepped with ⟨after, isAfter, rfl⟩
          rw [updateFirst_other passed,
            updateFirst_other ((stepUnseen entry after isAfter).trans passed)]
          cases updateFirst elsewhere other rest with
          | none => rfl
          | some changed =>
              simp only [Option.map_some, Option.bind_some]
              rw [updateFirst_found isFound, isAfter]
              rfl
      | false =>
          rw [updateFirst_other isFound] at stepped
          rcases Option.map_eq_some_iff.mp stepped with ⟨after, isAfter, rfl⟩
          cases isElsewhere : elsewhere entry with
          | true =>
              rw [updateFirst_found isElsewhere, updateFirst_found isElsewhere]
              cases isOther : other entry with
              | none => rfl
              | some changed =>
                  simp only [Option.map_some, Option.bind_some]
                  rw [updateFirst_other ((otherUnseen entry changed isOther).trans isFound),
                    isAfter]
                  rfl
          | false =>
              rw [updateFirst_other isElsewhere, updateFirst_other isElsewhere,
                ← induction after isAfter]
              cases updateFirst elsewhere other rest with
              | none => rfl
              | some changed =>
                  simp only [Option.map_some, Option.bind_some]
                  exact updateFirst_other isFound changed

/-- What a search finds behind an update of what it finds. -/
theorem find?_updateFirst_self {update : Item → Option Item}
    (unseen : Unseen found update) {entries next : List Item}
    (updated : updateFirst found update entries = some next) :
    next.find? found = (entries.find? found).bind update := by
  induction entries generalizing next with
  | nil => cases updated
  | cons entry rest induction =>
      cases isFound : found entry with
      | true =>
          rw [updateFirst_found isFound] at updated
          rcases Option.map_eq_some_iff.mp updated with ⟨after, isAfter, rfl⟩
          rw [List.find?_cons_of_pos ((unseen entry after isAfter).trans isFound),
            List.find?_cons_of_pos isFound, Option.bind_some, isAfter]
      | false =>
          rw [updateFirst_other isFound] at updated
          rcases Option.map_eq_some_iff.mp updated with ⟨after, isAfter, rfl⟩
          rw [List.find?_cons_of_neg (by simp [isFound]),
            List.find?_cons_of_neg (by simp [isFound])]
          exact induction isAfter

theorem find?_updateFirst_other {update : Item → Option Item}
    (apart : ∀ entry, found entry = true → elsewhere entry = false)
    (unseen : Unseen elsewhere update) {entries next : List Item}
    (updated : updateFirst found update entries = some next) :
    next.find? elsewhere = entries.find? elsewhere := by
  induction entries generalizing next with
  | nil => cases updated
  | cons entry rest induction =>
      cases isFound : found entry with
      | true =>
          have passed := apart entry isFound
          rw [updateFirst_found isFound] at updated
          rcases Option.map_eq_some_iff.mp updated with ⟨after, isAfter, rfl⟩
          rw [List.find?_cons_of_neg (by simp [unseen entry after isAfter, passed]),
            List.find?_cons_of_neg (by simp [passed])]
      | false =>
          rw [updateFirst_other isFound] at updated
          rcases Option.map_eq_some_iff.mp updated with ⟨after, isAfter, rfl⟩
          rw [List.find?_cons, List.find?_cons, induction isAfter]

/-- An update succeeds where it does for the entry that is found. -/
theorem updateFirst_isSome_iff {update : Item → Option Item}
    {entries : List Item} :
    (updateFirst found update entries).isSome =
      ((entries.find? found).bind update).isSome := by
  induction entries with
  | nil => rfl
  | cons entry rest induction =>
      cases isFound : found entry with
      | true =>
          rw [updateFirst_found isFound, List.find?_cons_of_pos isFound,
            Option.isSome_map, Option.bind_some]
      | false =>
          rw [updateFirst_other isFound, List.find?_cons_of_neg (by simp [isFound]),
            Option.isSome_map, induction]

end Entries

end Meshctl.Commutation
