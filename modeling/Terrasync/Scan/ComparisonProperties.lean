import Terrasync.Scan.Comparison

/-! What one batch does to the base row, the logged candidate and the logged displaced row
of each key. -/

set_option autoImplicit false

namespace Terrasync.Scan

open Catalogue (BaseTable NativeScanRecord)
open Lib (latest surviving latest_append latest_filter latest_map latest_eq_none)

variable {blake3Hex : SyncDelta.Bytes → List Char}

/-- The observations of a batch as they were delivered. -/
def deliveredItems (batch : List ObservedEntry) : List ObservedItem := batch.flatMap ObservedItem.all

section Sorting

/-- The path of the entries whose items have a key. -/
def entryPath (key : PathKey) : RelativePath :=
  if key.1.getLast? = some '/' then key.1.dropLast else key.1

/-- Storage paths do not end with a separator. -/
def NormalPath (entry : ObservedEntry) : Prop := entry.path.getLast? ≠ some '/'

theorem entry_of_mem_all {entry : ObservedEntry} {item : ObservedItem}
    (member : item ∈ ObservedItem.all entry) : item.entry = entry := by
  unfold ObservedItem.all at member
  split at member
  · rw [List.mem_singleton.1 member]
  · obtain ⟨index, -, rfl⟩ := List.mem_map.1 member
    rfl

theorem entryPath_itemKey {entry : ObservedEntry} (normal : NormalPath entry) {item : ObservedItem}
    (member : item ∈ ObservedItem.all entry) : entryPath (itemKey item) = entry.path := by
  obtain rfl := entry_of_mem_all member
  simp only [entryPath, itemKey, ObservedItem.pathKey, ObservedView.pathKey]
  split
  · simp
  · exact if_neg normal

theorem filter_sortBatch (batch : List ObservedEntry) (path : RelativePath) :
    (sortBatch batch).filter (fun entry => entry.path = path) =
      batch.filter fun entry => entry.path = path := by
  have sorted : (batch.filter fun entry => entry.path = path).Pairwise
      fun first second => decide (first.path ≤ second.path) = true := by
    refine List.pairwise_of_forall_mem_list fun first firstMember second secondMember => ?_
    have firstPath := of_decide_eq_true (List.mem_filter.1 firstMember).2
    have secondPath := of_decide_eq_true (List.mem_filter.1 secondMember).2
    rw [firstPath, secondPath]
    exact decide_eq_true (le_refl _)
  have inside : (batch.filter fun entry => entry.path = path).Sublist (sortBatch batch) := by
    refine List.sublist_mergeSort (fun first second third => ?_) (fun first second => ?_) sorted
      List.filter_sublist
    · simpa only [decide_eq_true_eq] using le_trans
    · simpa only [Bool.or_eq_true, decide_eq_true_eq] using le_total first.path second.path
  have kept := inside.filter fun entry : ObservedEntry => decide (entry.path = path)
  simp only [List.filter_filter, Bool.and_self] at kept
  have perm : (sortBatch batch).Perm batch := List.mergeSort_perm batch _
  have same := (perm.filter fun entry : ObservedEntry => decide (entry.path = path)).length_eq
  exact (kept.eq_of_length same.symm).symm

theorem filter_flatMap_of_path {batch : List ObservedEntry} (normal : ∀ entry ∈ batch, NormalPath entry)
    (key : PathKey) :
    (batch.flatMap ObservedItem.all).filter (fun item => itemKey item = key) =
      ((batch.filter fun entry => entry.path = entryPath key).flatMap ObservedItem.all).filter
        fun item => itemKey item = key := by
  induction batch with
  | nil => rfl
  | cons entry rest ih =>
      have here := normal entry List.mem_cons_self
      rw [List.flatMap_cons, List.filter_append, ih fun other member => normal other (List.mem_cons_of_mem _ member)]
      by_cases same : entry.path = entryPath key
      · simp only [List.filter_cons, same, decide_true, if_true, List.flatMap_cons, List.filter_append]
      · have none : (ObservedItem.all entry).filter (fun item => itemKey item = key) = [] := by
          refine List.filter_eq_nil_iff.2 fun item member equal => same ?_
          rw [← of_decide_eq_true equal, entryPath_itemKey here member]
        rw [none, List.nil_append]
        simp only [List.filter_cons, same, decide_false, Bool.false_eq_true, if_false]

/-- Sorting a batch keeps the order of the observations of a key. -/
theorem latest_batchItems {batch : List ObservedEntry} (normal : ∀ entry ∈ batch, NormalPath entry)
    (key : PathKey) :
    latest itemKey (batchItems batch) key = latest itemKey (deliveredItems batch) key := by
  have sortedNormal : ∀ entry ∈ sortBatch batch, NormalPath entry :=
    fun entry member => normal entry (List.mem_mergeSort.1 member)
  rw [Lib.latest_eq_getLast?, Lib.latest_eq_getLast?, batchItems, deliveredItems,
    filter_flatMap_of_path sortedNormal, filter_flatMap_of_path normal, filter_sortBatch]

theorem mem_batchItems {batch : List ObservedEntry} {item : ObservedItem} :
    item ∈ batchItems batch ↔ item ∈ deliveredItems batch := by
  simp only [batchItems, deliveredItems, List.mem_flatMap, sortBatch, List.mem_mergeSort]

end Sorting

/-- Every item carries an identity that is stable across scans. -/
def Identified (items : List ObservedItem) : Prop :=
  ∀ item ∈ items, item.entry.fileHandle.isSome = true

/-- No observation of the row's key has its identity. -/
def Unseen (items : List ObservedItem) (row : NativeScanRecord) : Prop :=
  ∀ item ∈ items, itemKey item = row.key → item.entry.fileHandle ≠ row.fileHandle

instance (items : List ObservedItem) (row : NativeScanRecord) : Decidable (Unseen items row) :=
  inferInstanceAs (Decidable (∀ item ∈ items, _))

theorem identityChanged_iff {items : List ObservedItem} {row : NativeScanRecord} {item : ObservedItem}
    (identified : Identified items) (handled : row.fileHandle.isSome = true) (member : item ∈ items)
    (here : itemKey item = row.key) :
    identityChanged (stage items) row = true ↔ Unseen items row := by
  have staged : (stage items).any (fun other => other.key = row.key && other.fileHandle.isSome) = true := by
    refine List.any_eq_true.2 ⟨_, List.mem_map.2 ⟨item, member, rfl⟩, ?_⟩
    simp only [here, decide_true, Bool.true_and]
    exact identified item member
  rw [identityChanged, handled, staged]
  simp only [Bool.true_and, Bool.not_eq_true', List.any_eq_false, stage, List.mem_map,
    Bool.and_eq_true, decide_eq_true_eq, not_and, Unseen]
  constructor
  · intro fresh other known same
    exact fresh ⟨itemKey other, other.entry.fileHandle⟩ ⟨other, known, rfl⟩ same
  · rintro unseen _ ⟨other, known, rfl⟩ same
    exact unseen other known same

namespace ScanRound

/-- Whether the observations of a key become candidates. -/
def candidateAt (round : ScanRound) (items : List ObservedItem) (key : PathKey) : Bool :=
  match round.base.row key with
  | some old => identityChanged (stage items) old
  | none => true

section Compare

variable {round : ScanRound} {items : List ObservedItem}

theorem compareAbsent_eq (identified : Identified items) :
    round.compareAbsent blake3Hex true items =
      (items.filter fun item => round.candidateAt items (itemKey item)).map .candidate := by
  rw [compareAbsent, List.filterMap_filter, ← List.filterMap_eq_map, List.filterMap_filter]
  refine List.filterMap_congr fun item member => ?_
  simp only [hasCrossScanIdentity, identified item member, Bool.and_true, candidateAt, changedAt,
    Bool.true_and]
  obtain found | ⟨old, found⟩ := Option.eq_none_or_eq_some (round.base.row (itemKey item))
  · simp [found]
  · cases changed : identityChanged (stage items) old <;> simp [found, changed, Option.filter]

theorem comparePaths_eq (identified : Identified items) : round.comparePaths blake3Hex true items = [] := by
  rw [comparePaths, List.filter_eq_nil_iff.2, List.filterMap_nil]
  intro item member
  rw [hasCrossScanIdentity, identified item member]
  simp only [Bool.and_self, Bool.not_true, Bool.and_false, Bool.false_eq_true, not_false_eq_true]

theorem compareDirect_changed {byHandle : Bool} {event : ObservedScanEvent}
    (member : event ∈ round.compareDirect blake3Hex byHandle items) : ∃ item kind, event = .changed item kind := by
  obtain ⟨item, -, compared⟩ := List.mem_filterMap.1 member
  split at compared
  · split at compared
    · cases compared
    · obtain ⟨kind, -, rfl⟩ := Option.map_eq_some_iff.1 compared
      exact ⟨item, kind, rfl⟩
  · cases compared

/-- Some key of the batch loses a row of the previous generation. -/
def Displaces (round : ScanRound) (items : List ObservedItem) : Prop :=
  ∃ item ∈ items, ∃ row, round.base.row (itemKey item) = some row ∧
    round.previousGeneration row = true ∧ Unseen items row

theorem row_key {base : BaseTable} {key : PathKey} {row : NativeScanRecord}
    (found : base.row key = some row) : row.key = key := Lib.key_of_latest found

theorem hasDisplaced_iff (identified : Identified items)
    (handled : ∀ key row, round.base.row key = some row → row.fileHandle.isSome = true) :
    round.hasDisplaced true items = true ↔ round.Displaces items := by
  rw [hasDisplaced, List.any_eq_true]
  refine exists_congr fun item => and_congr_right fun member => ?_
  rw [changedAt]
  cases found : round.base.row (itemKey item) with
  | none => simp
  | some row =>
      have changed := identityChanged_iff identified (handled _ _ found) member (row_key found).symm
      simp only [Option.filter, Bool.true_and, Option.some.injEq, exists_eq_left']
      by_cases unseen : Unseen items row
      · simp [changed.2 unseen, unseen]
      · have kept : identityChanged (stage items) row = false := by
          rw [← Bool.not_eq_true, changed]
          exact unseen
        simp [kept, unseen]

theorem mem_displacedRows {row : NativeScanRecord} (identified : Identified items) :
    row ∈ round.displacedRows items ↔ round.base.row row.key = some row ∧
      round.previousGeneration row = true ∧ row.fileHandle.isSome = true ∧
      ∃ item ∈ items, itemKey item = row.key ∧ item.entry.fileHandle ≠ row.fileHandle := by
  simp only [displacedRows, List.mem_filter, Lib.mem_surviving, Bool.and_eq_true, List.any_eq_true,
    stage, List.mem_map, decide_eq_true_eq]
  constructor
  · rintro ⟨found, ⟨previous, handled⟩, other, ⟨item, member, rfl⟩, ⟨here, -⟩, different⟩
    exact ⟨found, previous, handled, item, member, here, different⟩
  · rintro ⟨found, previous, handled, item, member, here, different⟩
    exact ⟨found, ⟨previous, handled⟩, _, ⟨item, member, rfl⟩, ⟨here, identified item member⟩, different⟩

end Compare

/-- The candidate logged for a key. -/
def candidateLog (round : ScanRound) (key : PathKey) : Option EventRecord :=
  latest EventRecord.key round.events (.candidateNew, key)

/-- The displaced row logged for a key. -/
def displacedLog (round : ScanRound) (key : PathKey) : Option EventRecord :=
  latest EventRecord.key round.events (.displacedOld, key)

section Flush

variable {round : ScanRound}

theorem row_insertViews (generation : Nat) (base : BaseTable) (items : List ObservedItem) (key : PathKey) :
    (base.insertViews generation items).row key =
      ((latest itemKey items key).map fun item => ⟨item, generation⟩).or (base.row key) := by
  rw [BaseTable.insertViews, BaseTable.row_append]
  congr 1
  exact latest_map _ _ _

/-- The records a batch logs. -/
def batchRecords (blake3Hex : SyncDelta.Bytes → List Char) (round : ScanRound)
    (items : List ObservedItem) : List EventRecord :=
  (round.compare blake3Hex items).displaced.map (fun row => ⟨.displacedOld, row.view, none⟩) ++
    (round.compare blake3Hex items).events.map ObservedScanEvent.record

theorem flushItems_eq (round : ScanRound) (items : List ObservedItem) :
    round.flushItems blake3Hex items =
      { round with
        events := round.events ++ round.batchRecords blake3Hex items
        base := round.base.insertViews round.generation items } := by
  rw [flushItems, batchRecords, ← List.append_assoc]

variable {items : List ObservedItem}

theorem compare_typed (typed : round.typedHandles = true) (identified : Identified items)
    (nonempty : items ≠ []) :
    round.compare blake3Hex items =
      { events := round.compareDirect blake3Hex true items ++
          (items.filter fun item => round.candidateAt items (itemKey item)).map .candidate
        displaced := if round.hasDisplaced true items then round.displacedRows items else [] } := by
  have byHandle : (items.any fun item => hasCrossScanIdentity item.entry) = true := by
    obtain ⟨item, member⟩ := List.exists_mem_of_ne_nil items nonempty
    exact List.any_eq_true.2 ⟨item, member, identified item member⟩
  rw [compare, typed, byHandle, Bool.and_self, comparePaths_eq identified,
    compareAbsent_eq identified, List.append_nil]

theorem candidate_batchRecords (typed : round.typedHandles = true) (identified : Identified items)
    (nonempty : items ≠ []) (key : PathKey) :
    latest EventRecord.key (round.batchRecords blake3Hex items) (.candidateNew, key) =
      if round.candidateAt items key then
        (latest itemKey items key).map fun item => ⟨.candidateNew, item, none⟩
      else none := by
  rw [batchRecords, compare_typed typed identified nonempty, latest_append, List.map_append,
    latest_append, List.map_map]
  have direct : latest EventRecord.key ((round.compareDirect blake3Hex true items).map ObservedScanEvent.record)
      (.candidateNew, key) = none := by
    refine latest_eq_none.2 fun record member same => ?_
    obtain ⟨event, known, rfl⟩ := List.mem_map.1 member
    obtain ⟨item, kind, rfl⟩ := compareDirect_changed known
    cases congrArg Prod.fst same
  have displaced : ∀ rows : List NativeScanRecord, latest EventRecord.key
      (rows.map fun row => (⟨.displacedOld, row.view, none⟩ : EventRecord)) (.candidateNew, key) = none := by
    refine fun rows => latest_eq_none.2 fun record member same => ?_
    obtain ⟨row, -, rfl⟩ := List.mem_map.1 member
    cases congrArg Prod.fst same
  rw [direct, displaced, Option.or_none, Option.or_none, latest_map]
  have sameKey : latest (fun item => EventRecord.key
      ((ObservedScanEvent.record ∘ ObservedScanEvent.candidate) item))
      (items.filter fun item => round.candidateAt items (itemKey item)) (.candidateNew, key) =
        latest itemKey (items.filter fun item => round.candidateAt items (itemKey item)) key := by
    rw [latest, latest]
    congr 1
    funext item
    simp only [Function.comp, ObservedScanEvent.record, EventRecord.key, Prod.mk.injEq, true_and]
  rw [sameKey, latest_filter]
  split
  · rfl
  · rfl

theorem displaced_batchRecords (typed : round.typedHandles = true) (identified : Identified items)
    (nonempty : items ≠ []) (key : PathKey) :
    latest EventRecord.key (round.batchRecords blake3Hex items) (.displacedOld, key) =
      ((latest NativeScanRecord.key
        (if round.hasDisplaced true items then round.displacedRows items else []) key).map
          fun row => ⟨.displacedOld, row.view, none⟩) := by
  rw [batchRecords, compare_typed typed identified nonempty, latest_append]
  have events : latest EventRecord.key ((round.compareDirect blake3Hex true items ++
      (items.filter fun item => round.candidateAt items (itemKey item)).map
        ObservedScanEvent.candidate).map ObservedScanEvent.record) (.displacedOld, key) = none := by
    refine latest_eq_none.2 fun record member same => ?_
    obtain ⟨event, known, rfl⟩ := List.mem_map.1 member
    rcases List.mem_append.1 known with direct | absent
    · obtain ⟨item, kind, rfl⟩ := compareDirect_changed direct
      cases congrArg Prod.fst same
    · obtain ⟨item, -, rfl⟩ := List.mem_map.1 absent
      cases congrArg Prod.fst same
  rw [events, Option.none_or, latest_map]
  congr 1
  rw [latest, latest]
  congr 1
  funext row
  simp only [EventRecord.key, Prod.mk.injEq, true_and]
  rfl

end Flush

end ScanRound

end Terrasync.Scan
