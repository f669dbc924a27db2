import Mathlib

/-! # Counters that restart

Numbers that are handed out, with a counter that may restart when a new epoch
begins. An epoch and a count make a stamp; stamps are ordered by their epochs
first. What is handed out is in order as long as the counter is ahead of it.
-/

namespace Meshctl.Epochs

section Handed

variable {Mark : Type*} [Preorder Mark] {handed : List Mark} {mark next : Mark}

/-- Everything that was handed out comes before a mark. -/
def Ahead (handed : List Mark) (next : Mark) : Prop :=
  ∀ mark ∈ handed, mark < next

theorem ahead_nil (next : Mark) : Ahead [] next := by
  intro mark member
  cases member

theorem Ahead.mono (ahead : Ahead handed mark) (later : mark ≤ next) :
    Ahead handed next :=
  fun earlier member => lt_of_lt_of_le (ahead earlier member) later

theorem Ahead.concat (ahead : Ahead handed mark) (later : mark < next) :
    Ahead (handed ++ [mark]) next := by
  intro earlier member
  rcases List.mem_append.mp member with before | last
  · exact (ahead earlier before).trans later
  · rw [List.mem_singleton.mp last]
    exact later

/-- Handing out a mark that is ahead keeps the order. -/
theorem Ahead.pairwise_concat (ahead : Ahead handed mark)
    (ordered : handed.Pairwise (· < ·)) : (handed ++ [mark]).Pairwise (· < ·) := by
  rw [List.pairwise_append]
  refine ⟨ordered, List.pairwise_singleton _ _, ?_⟩
  intro earlier member last isLast
  rw [List.mem_singleton.mp isLast]
  exact ahead earlier member

end Handed

abbrev Stamp := ℕ ×ₗ ℕ

def stamp (epoch count : ℕ) : Stamp := toLex (epoch, count)

section Stamps

variable {epoch epoch' count count' : ℕ}

theorem stamp_lt_iff :
    stamp epoch count < stamp epoch' count' ↔
      epoch < epoch' ∨ epoch = epoch' ∧ count < count' :=
  Prod.Lex.toLex_lt_toLex

theorem stamp_lt_of_count (less : count < count') :
    stamp epoch count < stamp epoch count' :=
  stamp_lt_iff.mpr (Or.inr ⟨rfl, less⟩)

/-- The count may be anything in a later epoch. -/
theorem stamp_le_of_epoch (later : epoch ≤ epoch')
    (same : epoch = epoch' → count ≤ count') :
    stamp epoch count ≤ stamp epoch' count' := by
  apply Prod.Lex.toLex_le_toLex.mpr
  rcases Nat.lt_or_eq_of_le later with less | equal
  · exact Or.inl less
  · exact Or.inr ⟨equal, same equal⟩

end Stamps

end Meshctl.Epochs
