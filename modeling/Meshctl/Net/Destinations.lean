import Meshctl.Foundation.Execution
import Meshctl.Net.Types

/-! # Counted destinations

The destinations of the whitelist are kept in a list, each with the number of its
references. The number is kept in sixteen bits.
-/

namespace Meshctl.Net

open Execution

/-! ## References and releases -/

/-- Look a destination up and change its entry, or remove it. -/
def changeDestination (dst : U16) (change : MeshDestination → Option MeshDestination) :
    List MeshDestination → Option (List MeshDestination)
  | [] => none
  | dest :: rest =>
      if dest.dst = dst then
        some ((change dest).toList ++ rest)
      else
        (changeDestination dst change rest).map (dest :: ·)

def netDestRef (dst : U16) (dests : List MeshDestination) : List MeshDestination :=
  if dst = 0 then
    dests
  else
    (changeDestination dst (fun dest => some { dest with cnt := dest.cnt + 1 }) dests).getD
      (dests ++ [{ cnt := 1, dst }])

/-- What is left of an entry after a release. -/
def releaseEntry (dest : MeshDestination) : Option MeshDestination :=
  let dest := { dest with cnt := dest.cnt - 1 }
  if dest.cnt = 0 then none else some dest

def netDestUnref (dst : U16) (dests : List MeshDestination) : List MeshDestination :=
  (changeDestination dst releaseEntry dests).getD dests

theorem changeDestination_eq_none_iff {dst : U16}
    {change : MeshDestination → Option MeshDestination} {dests : List MeshDestination} :
    changeDestination dst change dests = none ↔ dst ∉ dests.map MeshDestination.dst := by
  induction dests with
  | nil => simp [changeDestination]
  | cons dest rest induction =>
      rw [changeDestination, List.map_cons, List.mem_cons, not_or]
      by_cases same : dest.dst = dst
      · rw [if_pos same]
        exact iff_of_false (Option.some_ne_none _) fun apart => apart.1 same.symm
      · rw [if_neg same, Option.map_eq_none_iff, induction]
        exact (and_iff_right (Ne.symm same)).symm

/-- One entry is changed, and the others stay in their order. -/
theorem changeDestination_split {dst : U16}
    {change : MeshDestination → Option MeshDestination}
    {dests changed : List MeshDestination}
    (isChanged : changeDestination dst change dests = some changed) :
    ∃ before dest after, dests = before ++ dest :: after ∧ dest.dst = dst ∧
      changed = before ++ (change dest).toList ++ after := by
  induction dests generalizing changed with
  | nil => cases isChanged
  | cons dest rest induction =>
      rw [changeDestination] at isChanged
      by_cases same : dest.dst = dst
      · rw [if_pos same] at isChanged
        cases isChanged
        exact ⟨[], dest, rest, rfl, same, rfl⟩
      · rw [if_neg same] at isChanged
        rcases Option.map_eq_some_iff.mp isChanged with ⟨tail, isTail, rfl⟩
        rcases induction isTail with ⟨before, found, after, rfl, isDst, rfl⟩
        exact ⟨dest :: before, found, after, rfl, isDst, rfl⟩

/-! ## What the list keeps track of -/

/-- The list has one entry for every address with outstanding references, and the entry
has their number as far as sixteen bits hold it. -/
structure Tracks (dests : List MeshDestination) (outstanding : U16 → Nat) : Prop where
  distinct : (dests.map MeshDestination.dst).Nodup
  counts : ∀ dest ∈ dests, 0 < outstanding dest.dst ∧
    dest.cnt = BitVec.ofNat 16 (outstanding dest.dst)
  present : ∀ dst, 0 < outstanding dst → dst ∈ dests.map MeshDestination.dst

section Tracks

variable {dests : List MeshDestination} {outstanding : U16 → Nat} {dst : U16}

theorem Tracks.mem_iff (tracks : Tracks dests outstanding) :
    dst ∈ dests.map MeshDestination.dst ↔ 0 < outstanding dst := by
  refine ⟨fun member => ?_, tracks.present dst⟩
  rcases List.mem_map.mp member with ⟨dest, inDests, rfl⟩
  exact (tracks.counts dest inDests).1

/-- An entry that is put in the place of another one, with a new number. -/
theorem Tracks.replace {before after : List MeshDestination} {dest : MeshDestination}
    {count : Nat} (tracks : Tracks (before ++ dest :: after) outstanding)
    (positive : 0 < count) :
    Tracks (before ++ { dest with cnt := BitVec.ofNat 16 count } :: after)
      (Function.update outstanding dest.dst count) := by
  have sameAddresses : (before ++ { dest with cnt := BitVec.ofNat 16 count } :: after).map
      MeshDestination.dst = (before ++ dest :: after).map MeshDestination.dst := by
    rw [List.map_append, List.map_append]
    rfl
  have distinct := tracks.distinct
  rw [List.map_append, List.map_cons, List.nodup_middle, List.nodup_cons,
    ← List.map_append] at distinct
  refine ⟨sameAddresses ▸ tracks.distinct, ?_, fun other some => ?_⟩
  · intro entry member
    rcases List.mem_append.mp member with earlier | isEntry
    · have apart : entry.dst ≠ dest.dst := fun same => distinct.1
        (same ▸ List.mem_map_of_mem (List.mem_append_left after earlier))
      rw [Function.update_of_ne apart]
      exact tracks.counts entry (List.mem_append_left _ earlier)
    · rcases List.mem_cons.mp isEntry with isChanged | later
      · subst isChanged
        rw [Function.update_self]
        exact ⟨positive, rfl⟩
      · have apart : entry.dst ≠ dest.dst := fun same => distinct.1
          (same ▸ List.mem_map_of_mem (List.mem_append_right before later))
        rw [Function.update_of_ne apart]
        exact tracks.counts entry
          (List.mem_append_right before (List.mem_cons_of_mem dest later))
  · rw [sameAddresses]
    by_cases same : other = dest.dst
    · rw [same]
      exact List.mem_map_of_mem (List.mem_append_right before List.mem_cons_self)
    · rw [Function.update_of_ne same] at some
      exact tracks.present other some

/-- An entry that is removed. -/
theorem Tracks.remove {before after : List MeshDestination} {dest : MeshDestination}
    (tracks : Tracks (before ++ dest :: after) outstanding) :
    Tracks (before ++ after) (Function.update outstanding dest.dst 0) := by
  have distinct := tracks.distinct
  rw [List.map_append, List.map_cons, List.nodup_middle, List.nodup_cons,
    ← List.map_append] at distinct
  refine ⟨distinct.2, fun entry member => ?_, fun other some => ?_⟩
  · have apart : entry.dst ≠ dest.dst := fun same =>
      distinct.1 (same ▸ List.mem_map_of_mem member)
    rw [Function.update_of_ne apart]
    refine tracks.counts entry (List.mem_append.mpr ?_)
    exact (List.mem_append.mp member).imp_right (List.mem_cons_of_mem dest)
  · by_cases same : other = dest.dst
    · rw [same, Function.update_self] at some
      exact absurd some (lt_irrefl 0)
    · rw [Function.update_of_ne same] at some
      have inDests := tracks.present other some
      rw [List.map_append, List.map_cons, List.mem_append, List.mem_cons] at inDests
      rw [List.map_append, List.mem_append]
      exact inDests.imp_right fun found => found.resolve_left same

theorem Tracks.ref (tracks : Tracks dests outstanding) (notZero : dst ≠ 0) :
    Tracks (netDestRef dst dests) (Function.update outstanding dst (outstanding dst + 1)) := by
  rw [netDestRef, if_neg notZero]
  cases changed : changeDestination dst
    (fun dest => some { dest with cnt := dest.cnt + 1 }) dests with
  | none =>
      have absent := changeDestination_eq_none_iff.mp changed
      have none : outstanding dst = 0 := by
        by_contra some
        exact absent (tracks.present dst (Nat.pos_of_ne_zero some))
      rw [Option.getD_none, none]
      refine ⟨?_, fun entry member => ?_, fun other some => ?_⟩
      · rw [List.map_append, List.map_singleton, List.nodup_append]
        refine ⟨tracks.distinct, List.nodup_singleton _, fun address member other isDst => ?_⟩
        rw [List.mem_singleton.mp isDst]
        rintro rfl
        exact absent member
      · rcases List.mem_append.mp member with inDests | isNew
        · have apart : entry.dst ≠ dst := fun same =>
            absent (same ▸ List.mem_map_of_mem inDests)
          rw [Function.update_of_ne apart]
          exact tracks.counts entry inDests
        · rw [List.mem_singleton.mp isNew, Function.update_self]
          exact ⟨Nat.one_pos, rfl⟩
      · rw [List.map_append, List.mem_append]
        by_cases same : other = dst
        · exact Or.inr (List.mem_singleton.mpr same)
        · rw [Function.update_of_ne same] at some
          exact Or.inl (tracks.present other some)
  | some next =>
      rcases changeDestination_split changed with ⟨before, dest, after, rfl, rfl, rfl⟩
      have count := (tracks.counts dest
        (List.mem_append_right before List.mem_cons_self)).2
      have next : dest.cnt + 1 = BitVec.ofNat 16 (outstanding dest.dst + 1) := by
        rw [count, BitVec.ofNat_add]
        rfl
      have replaced := tracks.replace (Nat.succ_pos (outstanding dest.dst))
      rw [Option.getD_some, next, Option.toList_some, List.append_assoc,
        List.singleton_append]
      exact replaced

/-- The number of references is one more than what sixteen bits hold as zero. -/
def WrapsToZero (count : Nat) : Prop := ∃ rounds, count = 0x10000 * (rounds + 1) + 1

/-- A release of an address with references: the entry goes when its number, as it is
kept, becomes zero. -/
theorem netDestUnref_present (tracks : Tracks dests outstanding)
    (some : 0 < outstanding dst) :
    (¬WrapsToZero (outstanding dst) → Tracks (netDestUnref dst dests)
      (Function.update outstanding dst (outstanding dst - 1))) ∧
    (WrapsToZero (outstanding dst) →
      dst ∉ (netDestUnref dst dests).map MeshDestination.dst) := by
  cases changed : changeDestination dst releaseEntry dests with
  | none =>
      exact absurd (tracks.present dst some) (changeDestination_eq_none_iff.mp changed)
  | some next =>
      rw [netDestUnref, changed, Option.getD_some]
      rcases changeDestination_split changed with ⟨before, dest, after, rfl, rfl, rfl⟩
      have count := (tracks.counts dest
        (List.mem_append_right before List.mem_cons_self)).2
      have released : dest.cnt - 1 = BitVec.ofNat 16 (outstanding dest.dst - 1) := by
        apply BitVec.eq_of_toNat_eq
        rw [count, BitVec.toNat_sub, BitVec.toNat_ofNat, BitVec.toNat_ofNat]
        change (2 ^ 16 - 1 + _) % _ = _
        omega
      have isZero : dest.cnt - 1 = 0 ↔
          outstanding dest.dst = 1 ∨ WrapsToZero (outstanding dest.dst) := by
        rw [released, ← BitVec.toNat_inj, BitVec.toNat_ofNat]
        change _ % 65536 = 0 ↔ _
        constructor
        · intro divides
          by_cases single : outstanding dest.dst = 1
          · exact Or.inl single
          · refine Or.inr ⟨(outstanding dest.dst - 1) / 65536 - 1, ?_⟩
            omega
        · rintro (single | ⟨rounds, wraps⟩)
          · omega
          · omega
      have removed : Tracks (before ++ after) (Function.update outstanding dest.dst 0) :=
        tracks.remove
      by_cases zero : dest.cnt - 1 = 0
      · have entry : releaseEntry dest = none := if_pos zero
        rw [entry, Option.toList_none, List.append_nil]
        constructor
        · intro notWraps
          rw [(isZero.mp zero).resolve_right notWraps]
          exact removed
        · intro _ member
          rw [removed.mem_iff, Function.update_self] at member
          exact lt_irrefl 0 member
      · have entry : releaseEntry dest =
            .some { dest with cnt := BitVec.ofNat 16 (outstanding dest.dst - 1) } := by
          rw [← released]
          exact if_neg zero
        rw [entry, Option.toList_some, List.append_assoc, List.singleton_append]
        rw [isZero, not_or] at zero
        refine ⟨fun _ => tracks.replace ?_, fun wraps => absurd wraps zero.2⟩
        omega

theorem netDestUnref_absent (tracks : Tracks dests outstanding)
    (none : outstanding dst = 0) : netDestUnref dst dests = dests := by
  have absent : dst ∉ dests.map MeshDestination.dst := by
    rw [tracks.mem_iff, none]
    exact lt_irrefl 0
  rw [netDestUnref, changeDestination_eq_none_iff.mpr absent, Option.getD_none]

end Tracks

/-! ## Runs -/

inductive DestinationCall where
  | ref (dst : U16)
  | unref (dst : U16)

/-- The list with the numbers of references and of releases of each address. A release
of an address that is absent does not count. -/
structure DestinationHistory where
  dest : List MeshDestination
  references : U16 → Nat
  releases : U16 → Nat

namespace DestinationHistory

def start : DestinationHistory where
  dest := []
  references _ := 0
  releases _ := 0

variable (history : DestinationHistory)

def outstanding (dst : U16) : Nat := history.references dst - history.releases dst

def ref (dst : U16) : DestinationHistory :=
  { history with
    dest := netDestRef dst history.dest
    references := if dst = 0 then history.references
      else Function.update history.references dst (history.references dst + 1) }

def holds (dst : U16) : Bool := history.dest.any fun dest => dest.dst = dst

def unref (dst : U16) : DestinationHistory :=
  { history with
    dest := netDestUnref dst history.dest
    releases := if history.holds dst then
        Function.update history.releases dst (history.releases dst + 1)
      else history.releases }

theorem holds_iff (dst : U16) :
    history.holds dst = true ↔ dst ∈ history.dest.map MeshDestination.dst := by
  simp [holds]

end DestinationHistory

def destinationModel : Model DestinationHistory DestinationCall Unit where
  step history
    | .ref dst => ⟨history.ref dst, ()⟩
    | .unref dst => ⟨history.unref dst, ()⟩

/-- No address twice, never the unassigned one, and an address is in the list when it has
more references than releases. -/
structure CountsReferences (history : DestinationHistory) : Prop where
  distinct : (history.dest.map MeshDestination.dst).Nodup
  assigned : 0 ∉ history.dest.map MeshDestination.dst
  held : ∀ dst, dst ∈ history.dest.map MeshDestination.dst ↔
    history.releases dst < history.references dst

/-- The references are not brought down to a multiple of what sixteen bits hold. -/
def ReleasesInRange (entry : Entry DestinationHistory DestinationCall Unit) : Prop :=
  ∀ dst, entry.input = .unref dst → ¬WrapsToZero (entry.before.outstanding dst)

structure DestinationInvariant (history : DestinationHistory) : Prop where
  tracks : Tracks history.dest history.outstanding
  ordered : ∀ dst, history.releases dst ≤ history.references dst
  assigned : history.references 0 = 0

theorem destinationInvariant_start : DestinationInvariant .start := by
  refine ⟨⟨List.nodup_nil, List.forall_mem_nil _, fun dst some => ?_⟩,
    fun _ => Nat.le_refl 0, rfl⟩
  exact absurd some (lt_irrefl 0)

section Steps

variable {history : DestinationHistory} (invariant : DestinationInvariant history)
include invariant

theorem DestinationInvariant.counted : CountsReferences history := by
  have held : ∀ dst, dst ∈ history.dest.map MeshDestination.dst ↔
      history.releases dst < history.references dst := fun dst => by
    rw [invariant.tracks.mem_iff]
    exact Nat.sub_pos_iff_lt
  refine ⟨invariant.tracks.distinct, ?_, held⟩
  rw [held, invariant.assigned]
  exact Nat.not_lt_zero _

theorem DestinationInvariant.ref (dst : U16) : DestinationInvariant (history.ref dst) := by
  by_cases zero : dst = 0
  · have same : history.ref dst = history := by
      rw [DestinationHistory.ref, netDestRef, if_pos zero, if_pos zero]
    rw [same]
    exact invariant
  · have ordered := invariant.ordered dst
    have references : (history.ref dst).references =
        Function.update history.references dst (history.references dst + 1) := if_neg zero
    have more : (history.ref dst).outstanding =
        Function.update history.outstanding dst (history.outstanding dst + 1) := by
      funext other
      rw [DestinationHistory.outstanding, references]
      by_cases same : other = dst
      · rw [same, Function.update_self, Function.update_self]
        exact Nat.sub_add_comm ordered
      · rw [Function.update_of_ne same, Function.update_of_ne same]
        rfl
    refine ⟨more ▸ invariant.tracks.ref zero, fun other => ?_, ?_⟩
    · rw [references]
      by_cases same : other = dst
      · rw [same, Function.update_self]
        exact Nat.le_succ_of_le ordered
      · rw [Function.update_of_ne same]
        exact invariant.ordered other
    · rw [references, Function.update_of_ne (Ne.symm zero)]
      exact invariant.assigned

theorem DestinationInvariant.unref {dst : U16}
    (inRange : ¬WrapsToZero (history.outstanding dst)) :
    DestinationInvariant (history.unref dst) := by
  by_cases present : dst ∈ history.dest.map MeshDestination.dst
  · have some := invariant.tracks.mem_iff.mp present
    have releases : (history.unref dst).releases =
        Function.update history.releases dst (history.releases dst + 1) :=
      if_pos ((history.holds_iff dst).mpr present)
    have fewer : (history.unref dst).outstanding =
        Function.update history.outstanding dst (history.outstanding dst - 1) := by
      funext other
      rw [DestinationHistory.outstanding, releases]
      by_cases same : other = dst
      · rw [same, Function.update_self, Function.update_self]
        rfl
      · rw [Function.update_of_ne same, Function.update_of_ne same]
        rfl
    refine ⟨fewer ▸ (netDestUnref_present invariant.tracks some).1 inRange, fun other => ?_,
      invariant.assigned⟩
    rw [releases]
    by_cases same : other = dst
    · rw [same, Function.update_self]
      exact Nat.lt_of_sub_pos some
    · rw [Function.update_of_ne same]
      exact invariant.ordered other
  · have none : history.outstanding dst = 0 := by
      rw [invariant.tracks.mem_iff] at present
      exact Nat.eq_zero_of_not_pos present
    have same : history.unref dst = history := by
      rw [DestinationHistory.unref, netDestUnref_absent invariant.tracks none,
        if_neg (mt (history.holds_iff dst).mp present)]
    rw [same]
    exact invariant

/-- An entry that goes although the address has references. -/
theorem not_counted_unref {dst : U16} (wraps : WrapsToZero (history.outstanding dst)) :
    ¬CountsReferences (history.unref dst) := by
  rcases wraps with ⟨rounds, count⟩
  have some : 0 < history.outstanding dst := by omega
  have present := invariant.tracks.mem_iff.mpr some
  have absent := (netDestUnref_present invariant.tracks some).2 ⟨rounds, count⟩
  have releases : (history.unref dst).releases dst = history.releases dst + 1 := by
    rw [DestinationHistory.unref, if_pos ((history.holds_iff dst).mpr present)]
    exact Function.update_self _ _ _
  have references : (history.unref dst).references = history.references := rfl
  intro counted
  rw [DestinationHistory.outstanding] at count
  refine absent ((counted.held dst).mpr ?_)
  rw [releases, references]
  omega

theorem counted_step_iff (call : DestinationCall) :
    CountsReferences (destinationModel.step history call).nextState ↔
      ReleasesInRange (destinationModel.entry history call) := by
  cases call with
  | ref dst =>
      refine iff_of_true (invariant.ref dst).counted fun other same => ?_
      cases same
  | unref dst =>
      constructor
      · intro counted other same
        cases same
        exact fun wraps => not_counted_unref invariant wraps counted
      · intro inRange
        exact (invariant.unref (inRange dst rfl)).counted

theorem DestinationInvariant.step {call : DestinationCall}
    (inRange : ReleasesInRange (destinationModel.entry history call)) :
    DestinationInvariant (destinationModel.step history call).nextState := by
  cases call with
  | ref dst => exact invariant.ref dst
  | unref dst => exact invariant.unref (inRange dst rfl)

end Steps

/-- The destinations are counted right in every state of a run, if and only if no release
brings the references of an address down to a positive multiple of 65536. -/
theorem destinations_counted_iff (calls : List DestinationCall) :
    (∀ history ∈ destinationModel.reached .start calls, CountsReferences history) ↔
      ∀ entry ∈ destinationModel.trace .start calls, ReleasesInRange entry := by
  rw [Model.forall_reached_iff, and_iff_right destinationInvariant_start.counted]
  exact Model.forall_trace_iff destinationModel DestinationInvariant ReleasesInRange
    (fun entry => CountsReferences entry.after)
    (fun _ _ invariant inRange => invariant.step inRange)
    (fun _ call invariant => counted_step_iff invariant call) calls
    destinationInvariant_start

/-! ### Too many references -/

/-- After references of one address only, the others have none. -/
theorem references_replicate (count : Nat) {dst : U16} (notZero : dst ≠ 0)
    (history : DestinationHistory) :
    (destinationModel.finalState history (List.replicate count (.ref dst))).references dst =
        history.references dst + count ∧
      (destinationModel.finalState history (List.replicate count (.ref dst))).releases =
        history.releases := by
  induction count generalizing history with
  | zero => exact ⟨rfl, rfl⟩
  | succ count induction =>
      have once : (history.ref dst).references dst = history.references dst + 1 := by
        rw [DestinationHistory.ref, if_neg notZero]
        exact Function.update_self _ _ _
      rcases induction (history.ref dst) with ⟨references, releases⟩
      rw [List.replicate_succ]
      refine ⟨references.trans ?_, releases⟩
      rw [once]
      omega

/-- So many references of one address are not released rightly. -/
theorem not_releasesInRange {count : Nat} (wraps : WrapsToZero count) :
    ¬∀ entry ∈ destinationModel.trace .start
      (List.replicate count (.ref 1) ++ [.unref 1]), ReleasesInRange entry := by
  intro inRange
  rcases references_replicate count (by decide : (1 : U16) ≠ 0) .start with
    ⟨references, releases⟩
  refine inRange _ (Model.entry_mem_trace_concat destinationModel .start
    (List.replicate count (.ref 1)) (.unref 1)) 1 rfl ?_
  rw [Model.entry_before, DestinationHistory.outstanding, references, releases]
  rcases wraps with ⟨rounds, isCount⟩
  exact ⟨rounds, (Nat.zero_add count).trans isCount⟩

theorem destinations_not_always_counted :
    ¬∀ calls : List DestinationCall,
      ∀ history ∈ destinationModel.reached .start calls, CountsReferences history := by
  intro always
  have wraps : WrapsToZero 0x10001 := ⟨0, rfl⟩
  exact not_releasesInRange wraps ((destinations_counted_iff _).mp (always _))

end Meshctl.Net
