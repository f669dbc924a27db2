import Mathlib

namespace Meshctl.Coverage

/-! Families of finite sets that partition a whole. The number of members of
the family that contain an element adds up over concatenation, so an operation
that moves elements between members is checked one element at a time. -/

variable {α : Type*} [DecidableEq α]

/-- How many members of the family contain `element`. -/
def coverCount (family : List (Finset α)) (element : α) : Nat :=
  family.countP (element ∈ ·)

/-- The members are pairwise disjoint and cover exactly `whole`. -/
structure Partitions (family : List (Finset α)) (whole : Finset α) : Prop where
  disjoint : family.Pairwise Disjoint
  covers : ∀ element, element ∈ whole ↔ ∃ member ∈ family, element ∈ member

/-- Everything that some member contains. -/
def union (family : List (Finset α)) : Finset α :=
  family.foldr (· ∪ ·) ∅

theorem mem_union (family : List (Finset α)) (element : α) :
    element ∈ union family ↔ ∃ member ∈ family, element ∈ member := by
  induction family with
  | nil => simp [union]
  | cons head tail induction =>
      change element ∈ head ∪ union tail ↔ _
      rw [Finset.mem_union, induction]
      simp

@[simp] theorem coverCount_nil (element : α) :
    coverCount [] element = 0 := rfl

@[simp] theorem coverCount_cons (member : Finset α)
    (family : List (Finset α)) (element : α) :
    coverCount (member :: family) element =
      coverCount family element + if element ∈ member then 1 else 0 := by
  simp [coverCount, List.countP_cons]

@[simp] theorem coverCount_append (left right : List (Finset α))
    (element : α) :
    coverCount (left ++ right) element =
      coverCount left element + coverCount right element := by
  simp [coverCount]

theorem coverCount_perm {left right : List (Finset α)}
    (permutation : left.Perm right) (element : α) :
    coverCount left element = coverCount right element :=
  permutation.countP_eq _

theorem coverCount_pos_iff (family : List (Finset α)) (element : α) :
    0 < coverCount family element ↔ ∃ member ∈ family, element ∈ member := by
  simp [coverCount, List.countP_pos_iff]

theorem pairwise_disjoint_iff (family : List (Finset α)) :
    family.Pairwise Disjoint ↔ ∀ element, coverCount family element ≤ 1 := by
  induction family with
  | nil => simp
  | cons head tail induction =>
      rw [List.pairwise_cons, induction]
      constructor
      · intro ⟨apart, tailOnce⟩ element
        have once := tailOnce element
        by_cases inHead : element ∈ head
        · have notInTail : ¬0 < coverCount tail element := by
            rw [coverCount_pos_iff]
            intro ⟨member, inFamily, inMember⟩
            exact Finset.disjoint_left.mp (apart member inFamily) inHead inMember
          simp only [coverCount_cons, inHead, if_true]
          omega
        · simpa [inHead] using once
      · intro once
        refine ⟨fun member inFamily => ?_, fun element => ?_⟩
        · rw [Finset.disjoint_left]
          intro element inHead inMember
          have inTail : 0 < coverCount tail element :=
            (coverCount_pos_iff tail element).mpr ⟨member, inFamily, inMember⟩
          have bound := once element
          simp only [coverCount_cons, inHead, if_true] at bound
          omega
        · have bound := once element
          rw [coverCount_cons] at bound
          omega

/-- A family partitions `whole` exactly when every element of `whole` lies in
one member and every other element in none. -/
theorem partitions_iff_coverCount (family : List (Finset α))
    (whole : Finset α) :
    Partitions family whole ↔ ∀ element,
      coverCount family element = if element ∈ whole then 1 else 0 := by
  constructor
  · intro ⟨disjoint, covers⟩ element
    have once := (pairwise_disjoint_iff family).mp disjoint element
    have covered := (covers element).trans
      (coverCount_pos_iff family element).symm
    by_cases inWhole : element ∈ whole
    · have positive := covered.mp inWhole
      simp only [inWhole, if_true]
      omega
    · have notPositive := mt covered.mpr inWhole
      simp only [inWhole, if_false]
      omega
  · intro exactly
    refine ⟨(pairwise_disjoint_iff family).mpr fun element => ?_,
      fun element => ?_⟩
    · rw [exactly element]
      split <;> omega
    · rw [← coverCount_pos_iff, exactly element]
      split <;> simp_all

theorem partitions_union {family : List (Finset α)}
    (disjoint : family.Pairwise Disjoint) : Partitions family (union family) where
  disjoint := disjoint
  covers := mem_union family

/-- Families with the same multiplicities partition the same wholes. -/
theorem Partitions.of_coverCount {left right : List (Finset α)}
    {whole : Finset α} (partitions : Partitions left whole)
    (same : ∀ element,
      coverCount right element = coverCount left element) :
    Partitions right whole := by
  rw [partitions_iff_coverCount] at partitions ⊢
  exact fun element => (same element).trans (partitions element)

/-- An element gained by a family that partitioned a whole is either foreign
to the whole or owned twice. -/
theorem Partitions.not_of_gained {left right : List (Finset α)}
    {whole : Finset α} (partitions : Partitions left whole) {element : α}
    (gained : coverCount right element = coverCount left element + 1) :
    ¬Partitions right whole := by
  rw [partitions_iff_coverCount] at partitions ⊢
  intro stillPartitions
  have before := partitions element
  have after := stillPartitions element
  omega

end Meshctl.Coverage
