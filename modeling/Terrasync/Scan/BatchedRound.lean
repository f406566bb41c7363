import Terrasync.Scan.ComparisonProperties

/-! What the tables of a round hold after any number of batches, as a function of the last
observation of each key. This needs that a key changes its identity only where the base
still tells its old identity apart. -/

set_option autoImplicit false

namespace Terrasync.Scan

open Catalogue (BaseTable NativeScanRecord)
open Lib (latest latest_append)

variable {blake3Hex : SyncDelta.Bytes → List Char}

/-- The last observation of a key. -/
def lastObserved (entries : List ObservedEntry) (key : PathKey) : Option ObservedItem :=
  latest itemKey (deliveredItems entries) key

/-- How the observations of a key may follow its live row. With another identity than the
row's they do so only if none has the row's, and not if the row took over the committed
identity in this round or gives way to it. With the row's identity among them, the last has
it, and if others do not, the batch displaces no committed row. -/
def SteadyAt (committed : BaseTable) (round : ScanRound) (items : List ObservedItem)
    (row : NativeScanRecord) (last : ObservedItem) : Prop :=
  if Unseen items row then
    round.previousGeneration row = true ∨ ∀ before, committed.row row.key = some before →
      before.fileHandle ≠ row.fileHandle ∧ before.fileHandle ≠ last.entry.fileHandle
  else
    last.entry.fileHandle = row.fileHandle ∧ (round.previousGeneration row = true →
      (∀ item ∈ items, itemKey item = row.key → item.entry.fileHandle = row.fileHandle) ∨
        ¬round.Displaces items)

/-- A batch that meets the condition at each of its keys with a live row, if identities
are compared at all. -/
def Steady (committed : BaseTable) (round : ScanRound) (batch : List ObservedEntry) : Prop :=
  round.typedHandles = true → ∀ key row last, round.base.row key = some row →
    lastObserved batch key = some last → SteadyAt committed round (deliveredItems batch) row last

/-- The rows of a committed base: one generation, each with a typed handle. -/
structure Committed (committed : BaseTable) (generation : Nat) : Prop where
  previous : ∀ row ∈ committed, row.currentState ≠ generation
  typed : ∀ row ∈ committed, row.fileHandle.isSome = true

/-- What the walk delivers: stable identities, under normal paths. -/
structure Deliverable (entries : List ObservedEntry) : Prop where
  identified : Identified (deliveredItems entries)
  normal : ∀ entry ∈ entries, NormalPath entry

/-- The live row of a key, given its last observation. -/
def rowAfter (committed : BaseTable) (generation : Nat) (key : PathKey)
    (observed : Option ObservedItem) : Option NativeScanRecord :=
  (observed.map fun item => ⟨item, generation⟩).or (committed.row key)

/-- The handle of the candidate of a key. -/
def candidateAfter (committed : BaseTable) (key : PathKey) (observed : Option ObservedItem) :
    Option (Option FileHandle) :=
  observed.bind fun item =>
    if (committed.row key).any fun row => row.fileHandle = item.entry.fileHandle then none
    else some item.entry.fileHandle

def displacedAfter (committed : BaseTable) (key : PathKey) (observed : Option ObservedItem) :
    Option EventRecord :=
  (committed.row key).bind fun row =>
    if observed.any fun item => item.entry.fileHandle ≠ row.fileHandle then
      some ⟨.displacedOld, row.view, none⟩
    else none

/-- The tables show exactly the last observations seen so far. -/
structure Tracks (committed : BaseTable) (generation : Nat) (seen : PathKey → Option ObservedItem)
    (round : ScanRound) : Prop where
  working : round.generation = generation
  typed : round.typedHandles = true
  rows : ∀ key, round.base.row key = rowAfter committed generation key (seen key)
  candidates : ∀ key, (round.candidateLog key).map (fun record => record.view.entry.fileHandle) =
    candidateAfter committed key (seen key)
  displaced : ∀ key, round.displacedLog key = displacedAfter committed key (seen key)
  operations : ∀ record ∈ round.events, record.operation = .changed ∨
    record.operation = .candidateNew ∨ record.operation = .displacedOld
  identified : ∀ key item, seen key = some item → item.entry.fileHandle.isSome = true

section Step

variable {committed : BaseTable} {generation : Nat} {seen : PathKey → Option ObservedItem}
variable {round : ScanRound} {items : List ObservedItem} {key : PathKey} {row : NativeScanRecord}

theorem committed_of_row (base : Committed committed generation) (found : committed.row key = some row) :
    row.currentState ≠ generation ∧ row.fileHandle.isSome = true :=
  ⟨base.previous row (Lib.mem_of_latest found), base.typed row (Lib.mem_of_latest found)⟩

/-- A live row is the last observation of its key, or else the committed row. -/
theorem Tracks.row_cases (tracks : Tracks committed generation seen round)
    (base : Committed committed generation) (found : round.base.row key = some row) :
    (∃ item, seen key = some item ∧ row = ⟨item, generation⟩ ∧ round.previousGeneration row = false) ∨
      (seen key = none ∧ committed.row key = some row ∧ round.previousGeneration row = true) := by
  rw [tracks.rows, rowAfter] at found
  cases observed : seen key with
  | some item =>
      rw [observed, Option.map_some, Option.some_or, Option.some.injEq] at found
      refine .inl ⟨item, rfl, found.symm, ?_⟩
      simp only [ScanRound.previousGeneration, tracks.working, ← found, ne_eq, not_true_eq_false,
        decide_false]
  | none =>
      rw [observed, Option.map_none, Option.none_or] at found
      refine .inr ⟨rfl, found, ?_⟩
      simp only [ScanRound.previousGeneration, tracks.working, ne_eq, decide_eq_true_eq]
      exact (committed_of_row base found).1

theorem Tracks.handled (tracks : Tracks committed generation seen round)
    (base : Committed committed generation) (found : round.base.row key = some row) :
    row.fileHandle.isSome = true := by
  obtain ⟨item, observed, rfl, -⟩ | ⟨-, before, -⟩ := tracks.row_cases base found
  · exact tracks.identified key item observed
  · exact (committed_of_row base before).2

theorem Tracks.unseen_of_no_row (tracks : Tracks committed generation seen round)
    (missing : round.base.row key = none) : seen key = none ∧ committed.row key = none := by
  rw [tracks.rows, rowAfter, Option.or_eq_none_iff, Option.map_eq_none_iff] at missing
  exact missing

theorem latest_displaced (key : PathKey) :
    latest NativeScanRecord.key
        (if round.hasDisplaced true items then round.displacedRows items else []) key = some row ↔
      round.base.row key = some row ∧ round.hasDisplaced true items = true ∧
        row ∈ round.displacedRows items := by
  cases round.hasDisplaced true items with
  | false => simp [latest]
  | true =>
      rw [if_pos rfl, ScanRound.displacedRows, Lib.latest_filter_surviving, Option.filter_eq_some_iff,
        List.mem_filter, Lib.mem_surviving]
      constructor
      · rintro ⟨found, kept⟩
        exact ⟨found, rfl, by rw [Lib.key_of_latest found, found], kept⟩
      · rintro ⟨found, -, -, kept⟩
        exact ⟨found, kept⟩

theorem steadyAt_congr {others : List ObservedItem} (same : ∀ item, item ∈ items ↔ item ∈ others)
    {last : ObservedItem} :
    SteadyAt committed round items row last ↔ SteadyAt committed round others row last := by
  have unseen : ∀ row, Unseen items row ↔ Unseen others row := fun row => by
    simp only [Unseen, same]
  have displaces : round.Displaces items ↔ round.Displaces others := by
    simp only [ScanRound.Displaces, same, unseen]
  by_cases fresh : Unseen items row
  · rw [SteadyAt, SteadyAt, if_pos fresh, if_pos ((unseen row).1 fresh)]
  · rw [SteadyAt, SteadyAt, if_neg fresh, if_neg ((unseen row).not.1 fresh), displaces]
    simp only [same]

section Keys

variable (tracks : Tracks committed generation seen round) (base : Committed committed generation)
  (identified : Identified items) {last : ObservedItem}
  (observed : latest itemKey items key = some last)
  (steady : ∀ row, round.base.row key = some row → SteadyAt committed round items row last)

include tracks base identified observed

theorem identityChanged_at (found : round.base.row key = some row) :
    identityChanged (stage items) row = true ↔ Unseen items row :=
  identityChanged_iff identified (tracks.handled base found) (Lib.mem_of_latest observed)
    ((Lib.key_of_latest observed).trans (ScanRound.row_key found).symm)

include steady

theorem candidate_step :
    ((if round.candidateAt items key then
        some (⟨.candidateNew, last, none⟩ : EventRecord)
      else none).or (round.candidateLog key)).map (fun record => record.view.entry.fileHandle) =
        candidateAfter committed key (some last) := by
  simp only [candidateAfter, Option.bind_some]
  cases found : round.base.row key with
  | none =>
      simp only [ScanRound.candidateAt, found, if_true, Option.some_or, Option.map_some,
        (tracks.unseen_of_no_row found).2, Option.any_none, Bool.false_eq_true, if_false]
  | some row =>
      have changed := identityChanged_at tracks base identified observed found
      have here := ScanRound.row_key found
      have steadyHere := steady row found
      have logged := tracks.candidates key
      simp only [SteadyAt, here] at steadyHere
      simp only [ScanRound.candidateAt, found]
      by_cases unseen : Unseen items row
      · have different : last.entry.fileHandle ≠ row.fileHandle :=
          unseen last (Lib.mem_of_latest observed) ((Lib.key_of_latest observed).trans here.symm)
        have fresh : (committed.row key).any
            (fun row => decide (row.fileHandle = last.entry.fileHandle)) = false := by
          rw [if_pos unseen] at steadyHere
          cases known : committed.row key with
          | none => rfl
          | some before =>
              rw [Option.any_some, decide_eq_false_iff_not]
              obtain ⟨item, -, -, current⟩ | ⟨-, same, -⟩ := tracks.row_cases base found
              · rw [current] at steadyHere
                exact (steadyHere.resolve_left Bool.false_ne_true before known).2
              · rw [known, Option.some.injEq] at same
                exact fun equal => different (by rw [← equal, same])
        rw [if_pos (changed.2 unseen), fresh, Option.some_or, Option.map_some,
          if_neg Bool.false_ne_true]
      · rw [if_neg unseen] at steadyHere
        rw [if_neg (changed.not.2 unseen), Option.none_or, logged, candidateAfter]
        obtain ⟨item, known, rfl, -⟩ | ⟨unknown, same, -⟩ := tracks.row_cases base found
        · rw [known, Option.bind_some, steadyHere.1]
          rfl
        · rw [unknown, Option.bind_none, same, Option.any_some, steadyHere.1,
            if_pos (decide_eq_true rfl)]

theorem displaced_step :
    ((latest NativeScanRecord.key
        (if round.hasDisplaced true items then round.displacedRows items else []) key).map
          (fun row => (⟨.displacedOld, row.view, none⟩ : EventRecord))).or (round.displacedLog key) =
      displacedAfter committed key (some last) := by
  simp only [displacedAfter, Option.any_some]
  rw [tracks.displaced, displacedAfter]
  cases found : round.base.row key with
  | none =>
      have unlogged : latest NativeScanRecord.key
          (if round.hasDisplaced true items then round.displacedRows items else []) key = none := by
        rw [Option.eq_none_iff_forall_ne_some]
        intro row here
        have known := (latest_displaced key).1 here
        rw [found] at known
        exact Option.some_ne_none _ known.1.symm
      rw [unlogged, (tracks.unseen_of_no_row found).2]
      rfl
  | some row =>
      have here := ScanRound.row_key found
      have steadyHere := steady row found
      have member := Lib.mem_of_latest observed
      have lastHere : itemKey last = row.key := (Lib.key_of_latest observed).trans here.symm
      simp only [SteadyAt, here] at steadyHere
      obtain ⟨item, known, shape, current⟩ | ⟨unknown, same, previous⟩ := tracks.row_cases base found
      · have unlogged : latest NativeScanRecord.key
            (if round.hasDisplaced true items then round.displacedRows items else []) key = none := by
          rw [Option.eq_none_iff_forall_ne_some]
          intro other listed
          obtain ⟨same, -, inside⟩ := (latest_displaced key).1 listed
          rw [found, Option.some.injEq] at same
          have previous := ((ScanRound.mem_displacedRows identified).1 inside).2.1
          rw [← same, current] at previous
          cases previous
        rw [unlogged, Option.map_none, Option.none_or, known]
        simp only [Option.any_some]
        cases before : committed.row key with
        | none => rfl
        | some old =>
            have handle : item.entry.fileHandle = row.fileHandle := by rw [shape]; rfl
            simp only [Option.bind_some, handle]
            by_cases unseen : Unseen items row
            · rw [if_pos unseen, current] at steadyHere
              obtain ⟨left, right⟩ := steadyHere.resolve_left Bool.false_ne_true old before
              simp only [left.symm, right.symm, ne_eq, not_false_eq_true, decide_true, if_true]
            · rw [if_neg unseen] at steadyHere
              simp only [steadyHere.1]
      · rw [unknown, same, Option.bind_some, Option.bind_some, Option.any_none,
          if_neg Bool.false_ne_true, Option.or_none]
        by_cases unseen : Unseen items row
        · have different : last.entry.fileHandle ≠ row.fileHandle := unseen last member lastHere
          have displaces : round.hasDisplaced true items = true :=
            (ScanRound.hasDisplaced_iff identified fun _ _ => tracks.handled base).2
              ⟨last, member, row, by rw [lastHere, here, found], previous, unseen⟩
          have inside : row ∈ round.displacedRows items :=
            (ScanRound.mem_displacedRows identified).2 ⟨by rw [here, found], previous,
              tracks.handled base found, last, member, lastHere, different⟩
          rw [(latest_displaced key).2 ⟨found, displaces, inside⟩, if_pos (decide_eq_true different)]
          rfl
        · rw [if_neg unseen] at steadyHere
          have unlogged : latest NativeScanRecord.key
              (if round.hasDisplaced true items then round.displacedRows items else []) key = none := by
            rw [Option.eq_none_iff_forall_ne_some]
            intro other listed
            obtain ⟨equal, displaces, inside⟩ := (latest_displaced key).1 listed
            rw [found, Option.some.injEq] at equal
            subst equal
            obtain ⟨-, -, -, other, otherMember, otherHere, different⟩ :=
              (ScanRound.mem_displacedRows identified).1 inside
            obtain alike | quiet := steadyHere.2 previous
            · exact different (alike other otherMember (otherHere.trans here))
            · exact quiet ((ScanRound.hasDisplaced_iff identified fun _ _ => tracks.handled base).1 displaces)
          rw [unlogged, if_neg (by simp [steadyHere.1])]
          rfl

end Keys

theorem operation_batchRecords (typed : round.typedHandles = true) (identified : Identified items)
    (nonempty : items ≠ []) {record : EventRecord} (member : record ∈ round.batchRecords blake3Hex items) :
    record.operation = .changed ∨ record.operation = .candidateNew ∨
      record.operation = .displacedOld := by
  rw [ScanRound.batchRecords, ScanRound.compare_typed typed identified nonempty] at member
  obtain displaced | compared := List.mem_append.1 member
  · obtain ⟨row, -, rfl⟩ := List.mem_map.1 displaced
    exact .inr (.inr rfl)
  · obtain ⟨event, known, rfl⟩ := List.mem_map.1 compared
    obtain direct | absent := List.mem_append.1 known
    · obtain ⟨item, kind, rfl⟩ := ScanRound.compareDirect_changed direct
      exact .inl rfl
    · obtain ⟨item, -, rfl⟩ := List.mem_map.1 absent
      exact .inr (.inl rfl)

theorem flushItems_nil (round : ScanRound) : round.flushItems blake3Hex [] = round := by
  have compared : round.compare blake3Hex [] = ⟨[], []⟩ := by
    simp [ScanRound.compare, ScanRound.compareDirect, ScanRound.comparePaths,
      ScanRound.compareAbsent, ScanRound.hasDisplaced]
  simp only [ScanRound.flushItems, compared, List.map_nil, List.append_nil, BaseTable.insertViews]

theorem Tracks.flushItems (blake3Hex : SyncDelta.Bytes → List Char)
    (tracks : Tracks committed generation seen round)
    (base : Committed committed generation) (identified : Identified items)
    (steady : ∀ key row last, round.base.row key = some row → latest itemKey items key = some last →
      SteadyAt committed round items row last) :
    Tracks committed generation (fun key => (latest itemKey items key).or (seen key))
      (round.flushItems blake3Hex items) := by
  by_cases empty : items = []
  · subst empty
    rw [flushItems_nil]
    exact tracks
  · rw [ScanRound.flushItems_eq]
    refine ⟨tracks.working, tracks.typed, fun key => ?_, fun key => ?_, fun key => ?_, ?_, ?_⟩
    · rw [ScanRound.row_insertViews, tracks.rows, tracks.working, rowAfter, rowAfter,
        ← Option.or_assoc, ← Option.map_or]
    · rw [ScanRound.candidateLog, latest_append,
        ScanRound.candidate_batchRecords tracks.typed identified empty]
      cases here : latest itemKey items key with
      | none =>
          simp only [Option.map_none, ite_self, Option.none_or]
          exact tracks.candidates key
      | some last =>
          exact candidate_step tracks base identified here fun row found => steady key row last found here
    · rw [ScanRound.displacedLog, latest_append,
        ScanRound.displaced_batchRecords tracks.typed identified empty]
      cases here : latest itemKey items key with
      | none =>
          have unlogged : latest NativeScanRecord.key
              (if round.hasDisplaced true items then round.displacedRows items else []) key = none := by
            rw [Option.eq_none_iff_forall_ne_some]
            intro row listed
            obtain ⟨found, -, inside⟩ := (latest_displaced key).1 listed
            obtain ⟨-, -, -, item, member, same, -⟩ := (ScanRound.mem_displacedRows identified).1 inside
            exact Lib.latest_eq_none.1 here item member (same.trans (ScanRound.row_key found))
          rw [unlogged, Option.map_none, Option.none_or, Option.none_or]
          exact tracks.displaced key
      | some last =>
          exact displaced_step tracks base identified here fun row found => steady key row last found here
    · intro record member
      obtain earlier | new := List.mem_append.1 member
      · exact tracks.operations record earlier
      · exact operation_batchRecords tracks.typed identified empty new
    · intro key item known
      obtain last | earlier := Option.or_eq_some_iff.1 known
      · exact identified item (Lib.mem_of_latest last)
      · exact tracks.identified key item earlier.2

/-- A steady batch keeps the tables on the last observations. -/
theorem Tracks.flush (blake3Hex : SyncDelta.Bytes → List Char)
    (tracks : Tracks committed generation seen round)
    (base : Committed committed generation) {batch : List ObservedEntry}
    (deliverable : Deliverable batch) (steady : Steady committed round batch) :
    Tracks committed generation (fun key => (lastObserved batch key).or (seen key))
      (round.flushBatch blake3Hex batch) := by
  rw [ScanRound.flushBatch]
  split
  · next empty =>
      subst empty
      exact tracks
  · have same : ∀ item, item ∈ deliveredItems batch ↔ item ∈ batchItems batch :=
      fun _ => mem_batchItems.symm
    have observed : ∀ key, latest itemKey (batchItems batch) key = lastObserved batch key :=
      latest_batchItems deliverable.normal
    have flushed := tracks.flushItems blake3Hex base
      (fun item member => deliverable.identified item ((same item).2 member))
      (fun key row last found here => (steadyAt_congr same).1
        (steady tracks.typed key row last found ((observed key).symm.trans here)))
    simp only [observed] at flushed
    exact flushed

end Step

end Terrasync.Scan
