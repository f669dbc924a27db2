import Mathlib

/-! Lists of records that are told apart by a key, kept in the order in which
they were added. -/

namespace Meshctl

structure KeyedList {α κ : Type*} (key : α → κ) where
  records : List α
  distinct : (records.map key).Nodup

namespace KeyedList

variable {α κ : Type*} [DecidableEq κ] {key : α → κ}

def empty : KeyedList key := ⟨[], List.nodup_nil⟩

/-- The record with a key. -/
def find (list : KeyedList key) (k : κ) : Option α :=
  list.records.find? (key · = k)

def remove (list : KeyedList key) (k : κ) : KeyedList key where
  records := list.records.filter (key · ≠ k)
  distinct := list.distinct.sublist (List.filter_sublist.map _)

theorem mem_of_find {list : KeyedList key} {k : κ} {record : α}
    (found : list.find k = some record) : record ∈ list.records :=
  List.mem_of_find?_eq_some found

theorem key_of_find {list : KeyedList key} {k : κ} {record : α}
    (found : list.find k = some record) : key record = k := by
  simpa using List.find?_some found

omit [DecidableEq κ] in
theorem eq_of_key {list : KeyedList key} {first second : α}
    (inFirst : first ∈ list.records) (inSecond : second ∈ list.records)
    (same : key first = key second) : first = second :=
  List.inj_on_of_nodup_map list.distinct inFirst inSecond same

theorem find_eq_some_iff (list : KeyedList key) (k : κ) (record : α) :
    list.find k = some record ↔ record ∈ list.records ∧ key record = k := by
  constructor
  · intro found
    exact ⟨mem_of_find found, key_of_find found⟩
  · intro ⟨member, isKey⟩
    cases found : list.find k with
    | none =>
        have absent := List.find?_eq_none.mp found record member
        simp [isKey] at absent
    | some other =>
        rw [eq_of_key (mem_of_find found) member
          ((key_of_find found).trans isKey.symm)]

theorem find_eq_none_iff (list : KeyedList key) (k : κ) :
    list.find k = none ↔ ∀ record ∈ list.records, key record ≠ k := by
  simp [find, List.find?_eq_none]

@[simp] theorem mem_remove (list : KeyedList key) (k : κ) (record : α) :
    record ∈ (list.remove k).records ↔
      record ∈ list.records ∧ key record ≠ k := by
  simp [remove]

/-- Append a record; one with the same key goes first. -/
def append (list : KeyedList key) (record : α) : KeyedList key where
  records := (list.remove (key record)).records ++ [record]
  distinct := by
    rw [List.map_append, List.nodup_append]
    refine ⟨(list.remove (key record)).distinct, by simp, ?_⟩
    intro first inList second isNew equal
    rcases List.mem_map.mp inList with ⟨other, member, isKey⟩
    have apart := ((mem_remove _ _ _).mp member).2
    have isRecord : second = key record := by simpa using isNew
    exact apart (isKey.trans (equal.trans isRecord))

@[simp] theorem mem_append (list : KeyedList key) (new record : α) :
    record ∈ (list.append new).records ↔
      record ∈ list.records ∧ key record ≠ key new ∨ record = new := by
  simp [append]

/-- Change the record with a key in place. -/
def update (list : KeyedList key) (k : κ) (change : α → α)
    (keeps : ∀ record, key record = k → key (change record) = k) :
    KeyedList key where
  records := list.records.map fun record =>
    if key record = k then change record else record
  distinct := by
    have sameKeys : key ∘ (fun record =>
        if key record = k then change record else record) = key := by
      funext record
      change key (if key record = k then change record else record) = key record
      split
      next isKey => exact (keeps record isKey).trans isKey.symm
      next => rfl
    rw [List.map_map, sameKeys]
    exact list.distinct

/-- Write a record back to its place. -/
def set (list : KeyedList key) (record : α) : KeyedList key :=
  list.update (key record) (fun _ => record) (fun _ _ => rfl)

theorem mem_update {list : KeyedList key} {k : κ} {change : α → α}
    {keeps : ∀ record, key record = k → key (change record) = k} {record : α}
    (member : record ∈ (list.update k change keeps).records) :
    ∃ old ∈ list.records,
      record = if key old = k then change old else old := by
  rcases List.mem_map.mp member with ⟨old, oldMember, equal⟩
  exact ⟨old, oldMember, equal.symm⟩

theorem mem_set {list : KeyedList key} {new record : α}
    (member : record ∈ (list.set new).records) :
    record = new ∨ record ∈ list.records ∧ key record ≠ key new := by
  rcases mem_update member with ⟨old, oldMember, equal⟩
  split at equal
  next => exact Or.inl equal
  next apart => exact Or.inr ⟨equal ▸ oldMember, equal ▸ apart⟩

theorem mem_set_self {list : KeyedList key} {old new : α}
    (present : old ∈ list.records) (same : key old = key new) :
    new ∈ (list.set new).records :=
  List.mem_map.mpr ⟨old, present, if_pos same⟩

/-! ## Finding a record after a change -/

theorem find_remove_self (list : KeyedList key) (k : κ) :
    (list.remove k).find k = none := by
  rw [find_eq_none_iff]
  intro record member
  exact ((mem_remove _ _ _).mp member).2

theorem find_remove_ne (list : KeyedList key) {k other : κ}
    (apart : other ≠ k) : (list.remove k).find other = list.find other := by
  apply Option.ext
  intro record
  rw [find_eq_some_iff, find_eq_some_iff, mem_remove]
  constructor
  · intro ⟨⟨member, _⟩, isKey⟩
    exact ⟨member, isKey⟩
  · intro ⟨member, isKey⟩
    exact ⟨⟨member, isKey ▸ apart⟩, isKey⟩

theorem find_append_self (list : KeyedList key) (new : α) :
    (list.append new).find (key new) = some new := by
  rw [find_eq_some_iff, mem_append]
  exact ⟨Or.inr rfl, rfl⟩

theorem find_append_ne (list : KeyedList key) {new : α} {k : κ}
    (apart : k ≠ key new) : (list.append new).find k = list.find k := by
  apply Option.ext
  intro record
  rw [find_eq_some_iff, find_eq_some_iff, mem_append]
  constructor
  · intro ⟨member, isKey⟩
    rcases member with ⟨member, _⟩ | isNew
    · exact ⟨member, isKey⟩
    · exact absurd (isNew ▸ isKey).symm apart
  · intro ⟨member, isKey⟩
    exact ⟨Or.inl ⟨member, isKey ▸ apart⟩, isKey⟩

theorem find_set_self {list : KeyedList key} {old new : α} {k : κ}
    (found : list.find k = some old) (isKey : key new = k) :
    (list.set new).find k = some new := by
  rw [find_eq_some_iff]
  refine ⟨mem_set_self (mem_of_find found) ?_, isKey⟩
  exact (key_of_find found).trans isKey.symm

theorem find_set_ne (list : KeyedList key) {new : α} {k : κ}
    (apart : k ≠ key new) : (list.set new).find k = list.find k := by
  apply Option.ext
  intro record
  rw [find_eq_some_iff, find_eq_some_iff]
  constructor
  · intro ⟨member, isKey⟩
    rcases mem_set member with isNew | ⟨member, _⟩
    · exact absurd (isNew ▸ isKey).symm apart
    · exact ⟨member, isKey⟩
  · intro ⟨member, isKey⟩
    refine ⟨List.mem_map.mpr ⟨record, member, if_neg ?_⟩, isKey⟩
    exact isKey ▸ apart

end KeyedList

end Meshctl
