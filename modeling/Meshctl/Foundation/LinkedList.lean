import Mathlib

namespace Meshctl.LinkedList

/-! Linked lists whose cells point to records, with the accesses to memory that
the operations on them make. -/

/-! ## Accesses to memory -/

/-- What memory is allocated for. -/
inductive Place where
  | cell (address : Nat)
  | record (address : Nat)
deriving DecidableEq

inductive Access where
  | read (place : Place)
  | free (place : Place)

namespace Access

def place : Access → Place
  | read place => place
  | free place => place

def freed : Access → Option Place
  | read _ => none
  | free place => some place

end Access

/-- The places that are freed, in order. -/
def frees (accesses : List Access) : List Place :=
  accesses.filterMap Access.freed

/-- Nothing is accessed after it was freed. -/
def Clean (accesses : List Access) : Prop :=
  accesses.Pairwise fun earlier later => earlier.freed ≠ some later.place

@[simp] theorem frees_nil : frees [] = [] := rfl

@[simp] theorem frees_read (place : Place) (accesses : List Access) :
    frees (.read place :: accesses) = frees accesses := rfl

@[simp] theorem frees_free (place : Place) (accesses : List Access) :
    frees (.free place :: accesses) = place :: frees accesses := rfl

@[simp] theorem frees_append (first second : List Access) :
    frees (first ++ second) = frees first ++ frees second :=
  List.filterMap_append

theorem clean_append_iff (first second : List Access) :
    Clean (first ++ second) ↔ Clean first ∧ Clean second ∧
      ∀ later ∈ second, later.place ∉ frees first := by
  rw [Clean, List.pairwise_append, Clean, Clean]
  refine and_congr_right fun _ => and_congr_right fun _ => ?_
  simp only [frees, List.mem_filterMap, not_exists, not_and]
  exact ⟨fun apart later inSecond earlier inFirst =>
      apart earlier inFirst later inSecond,
    fun apart earlier inFirst later inSecond =>
      apart later inSecond earlier inFirst⟩

/-! ## Lists -/

structure Cell where
  address : Nat
  data : Nat

/-- What is allocated for a cell: itself and its record. -/
def Cell.places (cell : Cell) : List Place :=
  [.cell cell.address, .record cell.data]

def places (list : List Cell) : List Place :=
  list.flatMap Cell.places

/-- The first cell of a list that is given by any of its cells is looked for by
following the pointers backwards. -/
def first (list : List Cell) : Option Nat :=
  list.head?.map Cell.address

def firstAccesses (list : List Cell) : List Access :=
  list.head?.toList.map fun cell => .read (.cell cell.address)

/-- Remove the first cell that points to a record, and free it. Its neighbours
are connected with each other. -/
def remove : List Cell → Nat → List Cell × List Access
  | [], _ => ([], [])
  | cell :: rest, data =>
      if cell.data = data then
        (rest, .read (.cell cell.address) :: firstAccesses rest ++
          [.free (.cell cell.address)])
      else
        let (remaining, accesses) := remove rest data
        (cell :: remaining, .read (.cell cell.address) :: accesses)

@[simp] theorem places_cons (cell : Cell) (rest : List Cell) :
    places (cell :: rest) = .cell cell.address :: .record cell.data ::
      places rest := rfl

@[simp] theorem places_append (left right : List Cell) :
    places (left ++ right) = places left ++ places right :=
  List.flatMap_append

@[simp] theorem frees_firstAccesses (list : List Cell) :
    frees (firstAccesses list) = [] := by
  cases list with
  | nil => rfl
  | cons cell rest => rfl

theorem mem_places_of_firstAccesses {list : List Cell} {access : Access}
    (member : access ∈ firstAccesses list) : access.place ∈ places list := by
  cases list with
  | nil => cases member
  | cons cell rest =>
      rw [List.mem_singleton.mp member]
      exact List.mem_cons_self

/-- Reading the first cell is clean as long as no cell of the list was freed. -/
theorem clean_append_firstAccesses {accesses : List Access}
    (clean : Clean accesses) {list : List Cell}
    (apart : ∀ place ∈ places list, place ∉ frees accesses) :
    Clean (accesses ++ firstAccesses list) := by
  rw [clean_append_iff]
  refine ⟨clean, ?_, fun later member =>
    apart _ (mem_places_of_firstAccesses member)⟩
  cases list with
  | nil => exact List.Pairwise.nil
  | cons cell rest => exact List.pairwise_singleton _ _

theorem remove_head (cell : Cell) (rest : List Cell) :
    remove (cell :: rest) cell.data =
      (rest, .read (.cell cell.address) :: firstAccesses rest ++
        [.free (.cell cell.address)]) :=
  if_pos rfl

end Meshctl.LinkedList
