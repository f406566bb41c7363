import Terrasync.Scan.RoundOutcome
import Terrasync.Scan.NamespaceDifference

/-! The log of a round in which every path and version is observed once: what each key
adds to it depends on the committed row and the observation alone, however the batches
fall and whether or not the access compares identities, as long as it does where the
committed rows have them. -/

set_option autoImplicit false

namespace Terrasync.Scan

open Catalogue (BaseTable NativeScanRecord)
open Lib (latest)

variable {blake3Hex : SyncDelta.Bytes → List Char}

/-- The row that `FINAL` shows of an operation at a key. -/
def ScanRound.log (round : ScanRound) (operation : OperationType) (key : PathKey) : Option EventRecord :=
  latest EventRecord.key round.events (operation, key)

/-- Some committed row has a handle. -/
def Handled (before : Namespace) : Prop :=
  ∃ key row, before key = some row ∧ row.entry.fileHandle.isSome = true

/-- The live row of a key: the observation, or else the row of the other generation. -/
def liveAfter (generation : Nat) (before observed : Namespace) (key : PathKey) : Option NativeScanRecord :=
  ((observed key).map fun item => ⟨item, generation⟩).or
    ((before key).map fun row => ⟨row, 1 - generation⟩)

/-- Every entry of the namespace is filed under its own path and version. -/
def Keyed (entries : Namespace) : Prop := ∀ key item, entries key = some item → itemKey item = key

/-- The log of a key, given its last observation. -/
structure LogAt (blake3Hex : SyncDelta.Bytes → List Char) (before : Namespace) (round : ScanRound) (key : PathKey) (seen : Option ObservedItem) :
    Prop where
  changed : (round.log .changed key).isSome = true ↔ ∃ row item, before key = some row ∧
    seen = some item ∧ ¬Displaced row item ∧ (change blake3Hex row item).isSome = true
  displaced : ∀ record, round.log .displacedOld key = some record ↔ ∃ row item,
    before key = some row ∧ seen = some item ∧ Displaced row item ∧ record = ⟨.displacedOld, row, none⟩
  arrived : (round.log .new key).isSome = true ∨ (round.log .candidateNew key).isSome = true ↔
    ∃ item, seen = some item ∧ ∀ row, before key = some row → Displaced row item
  new : ∀ record, round.log .new key = some record → seen = some record.view ∧
    round.log .candidateNew key = none ∧ (Handled before → record.view.entry.fileHandle = none)
  candidate : ∀ record, round.log .candidateNew key = some record → seen = some record.view

structure RoundLog (blake3Hex : SyncDelta.Bytes → List Char) (before observed : Namespace) (round : ScanRound) : Prop where
  bit : round.generation ≤ 1
  beforeKeyed : Keyed before
  keyed : Keyed observed
  rows : ∀ key, round.base.row key = liveAfter round.generation before observed key
  logs : ∀ key, LogAt blake3Hex before round key (observed key)
  comments : ∀ record ∈ round.events, record.comment = none
  operations : ∀ record ∈ round.events, record.operation = .changed ∨ record.operation = .new ∨
    record.operation = .candidateNew ∨ record.operation = .displacedOld

/-- What an observation logs. -/
def Logs (blake3Hex : SyncDelta.Bytes → List Char) (before : Namespace) (byHandle : Bool) (item : ObservedItem) (record : EventRecord) : Prop :=
  (∃ row, before (itemKey item) = some row ∧ Displaced row item ∧
    (record = ⟨.displacedOld, row, none⟩ ∨ record = ⟨.candidateNew, item, none⟩)) ∨
  (∃ row, before (itemKey item) = some row ∧ ¬Displaced row item ∧
    (change blake3Hex row item).isSome = true ∧ record = ⟨.changed, item, none⟩) ∨
  (before (itemKey item) = none ∧
    record = ⟨if byHandle && hasCrossScanIdentity item.entry then .candidateNew else .new, item, none⟩)

theorem logs_key {before : Namespace} (keyed : Keyed before) {byHandle : Bool} {item : ObservedItem} {record : EventRecord}
    (logs : Logs blake3Hex before byHandle item record) : itemKey record.view = itemKey item := by
  obtain ⟨row, found, -, rfl | rfl⟩ | ⟨row, -, -, -, rfl⟩ | ⟨-, rfl⟩ := logs
  · exact keyed _ _ found
  · rfl
  · rfl
  · rfl

theorem logs_unique {before : Namespace} {byHandle : Bool} {item : ObservedItem} {first second : EventRecord}
    (logs : Logs blake3Hex before byHandle item first) (also : Logs blake3Hex before byHandle item second)
    (same : first.operation = second.operation) : first = second := by
  obtain ⟨row, found, displaced, rfl | rfl⟩ | ⟨row, found, kept, -, rfl⟩ | ⟨absent, rfl⟩ := logs <;>
    obtain ⟨other, known, replaced, rfl | rfl⟩ | ⟨other, known, stays, -, rfl⟩ | ⟨missing, rfl⟩ := also <;>
      simp_all

section Batch

variable {before observed : Namespace} {round : ScanRound} {items : List ObservedItem}

/-- Whether the batch is compared by identities. -/
def ScanRound.byHandle (round : ScanRound) (items : List ObservedItem) : Bool :=
  round.typedHandles && items.any fun item => hasCrossScanIdentity item.entry

theorem identityChanged_iff_displaced (once : (items.map itemKey).Nodup) {item : ObservedItem}
    (member : item ∈ items) {row : NativeScanRecord} (here : row.key = itemKey item) :
    identityChanged (stage items) row = true ↔ Displaced row.view item := by
  have only : ∀ other ∈ items, itemKey other = row.key → other = item := fun other inside same =>
    List.inj_on_of_nodup_map once inside member (same.trans here)
  rw [identityChanged, Displaced]
  simp only [Bool.and_eq_true, Bool.not_eq_true', List.any_eq_true, List.any_eq_false, stage,
    List.mem_map, decide_eq_true_eq, not_and, NativeScanRecord.fileHandle]
  constructor
  · rintro ⟨⟨handled, _, ⟨other, inside, rfl⟩, same, identified⟩, fresh⟩
    obtain rfl := only other inside same
    exact ⟨handled, identified, fun equal => fresh _ ⟨other, inside, rfl⟩ same (decide_eq_true equal)⟩
  · rintro ⟨handled, identified, different⟩
    refine ⟨⟨handled, _, ⟨item, member, rfl⟩, here.symm, identified⟩, ?_⟩
    rintro _ ⟨other, inside, rfl⟩ same
    obtain rfl := only other inside same
    exact fun equal => different (of_decide_eq_true equal)

variable (log : RoundLog blake3Hex before observed round) (once : (items.map itemKey).Nodup)
  (unseen : ∀ item ∈ items, observed (itemKey item) = none)
  (typed : Handled before → round.typedHandles = true)

section Compare

include log unseen

theorem RoundLog.row_of_mem {item : ObservedItem} (member : item ∈ items) :
    round.base.row (itemKey item) = (before (itemKey item)).map fun row => ⟨row, 1 - round.generation⟩ := by
  rw [log.rows, liveAfter, unseen item member, Option.map_none, Option.none_or]

include once typed

/-- A batch with a displaced row compares identities. -/
theorem RoundLog.changedAt_eq {item : ObservedItem} (member : item ∈ items) :
    round.changedAt (round.byHandle items) items item =
      ((before (itemKey item)).filter fun row => Displaced row item).map
        fun row => ⟨row, 1 - round.generation⟩ := by
  rw [ScanRound.changedAt, log.row_of_mem unseen member]
  cases found : before (itemKey item) with
  | none => rfl
  | some row =>
      have here : NativeScanRecord.key ⟨row, 1 - round.generation⟩ = itemKey item := log.beforeKeyed _ _ found
      have changed := identityChanged_iff_displaced once member here
      rw [Option.map_some, Option.filter_some, Option.filter_some]
      by_cases displaced : Displaced row item
      · have handle : round.byHandle items = true := by
          rw [ScanRound.byHandle, typed ⟨_, row, found, displaced.1⟩, Bool.true_and]
          exact List.any_eq_true.2 ⟨item, member, displaced.2.1⟩
        rw [handle, changed.2 displaced, Bool.and_self, if_pos rfl, if_pos (decide_eq_true displaced)]
        rfl
      · have kept : identityChanged (stage items) ⟨row, 1 - round.generation⟩ = false := by
          rw [← Bool.not_eq_true, changed]
          exact displaced
        rw [kept, Bool.and_false, if_neg Bool.false_ne_true, if_neg (by simp [displaced])]
        rfl

theorem RoundLog.mem_direct {event : ObservedScanEvent} :
    event ∈ round.compareDirect blake3Hex (round.byHandle items) items ↔ ∃ item ∈ items, ∃ row kind,
      before (itemKey item) = some row ∧ ¬Displaced row item ∧ change blake3Hex row item = some kind ∧
        event = .changed item kind := by
  rw [ScanRound.compareDirect, List.mem_filterMap]
  refine exists_congr fun item => and_congr_right fun member => ?_
  rw [log.changedAt_eq once unseen typed member, log.row_of_mem unseen member]
  cases found : before (itemKey item) with
  | none => simp
  | some row =>
      by_cases displaced : Displaced row item
      · simp [displaced]
      · simp only [Option.map_some, Option.filter_some, displaced, decide_false, Bool.false_eq_true,
          if_false, Option.map_none, Option.isSome_none, ScanRound.changeOf, Option.map_eq_some_iff,
          Option.some.injEq]
        constructor
        · rintro ⟨kind, changed, rfl⟩
          exact ⟨row, kind, rfl, displaced, changed, rfl⟩
        · rintro ⟨_, kind, rfl, -, changed, rfl⟩
          exact ⟨kind, changed, rfl⟩

omit once typed in
theorem RoundLog.mem_paths {event : ObservedScanEvent} :
    event ∈ round.comparePaths blake3Hex (round.byHandle items) items ↔ ∃ item ∈ items,
      before (itemKey item) = none ∧ (round.byHandle items && hasCrossScanIdentity item.entry) = false ∧
        event = .new item := by
  rw [ScanRound.comparePaths, List.mem_filterMap]
  constructor
  · rintro ⟨item, kept, compared⟩
    obtain ⟨member, alone⟩ := List.mem_filter.1 kept
    rw [log.row_of_mem unseen member] at alone compared
    rw [Bool.and_eq_true, Option.isNone_map, Bool.not_eq_true'] at alone
    rw [Option.isNone_iff_eq_none.1 alone.1] at compared
    exact ⟨item, member, Option.isNone_iff_eq_none.1 alone.1, alone.2, (Option.some.inj compared).symm⟩
  · rintro ⟨item, member, absent, path, rfl⟩
    refine ⟨item, List.mem_filter.2 ⟨member, ?_⟩, ?_⟩
    · rw [log.row_of_mem unseen member, absent, path]
      rfl
    · rw [log.row_of_mem unseen member, absent]
      rfl

theorem RoundLog.mem_absent {event : ObservedScanEvent} :
    event ∈ round.compareAbsent blake3Hex (round.byHandle items) items ↔ ∃ item ∈ items,
      ((before (itemKey item) = none ∧ (round.byHandle items && hasCrossScanIdentity item.entry) = true) ∨
        ∃ row, before (itemKey item) = some row ∧ Displaced row item) ∧ event = .candidate item := by
  have kept : ∀ item ∈ items,
      (((round.base.row (itemKey item)).isNone && round.byHandle items ||
        (round.changedAt (round.byHandle items) items item).isSome) && hasCrossScanIdentity item.entry) = true ↔
      (before (itemKey item) = none ∧ (round.byHandle items && hasCrossScanIdentity item.entry) = true) ∨
        ∃ row, before (itemKey item) = some row ∧ Displaced row item := by
    intro item member
    rw [log.changedAt_eq once unseen typed member, log.row_of_mem unseen member]
    cases found : before (itemKey item) with
    | none => simp
    | some row =>
        by_cases displaced : Displaced row item
        · simp [displaced, hasCrossScanIdentity, displaced.2.1]
        · simp [displaced]
  rw [ScanRound.compareAbsent, List.mem_filterMap]
  constructor
  · rintro ⟨item, inside, compared⟩
    obtain ⟨member, passes⟩ := List.mem_filter.1 inside
    have arrives := (kept item member).1 passes
    refine ⟨item, member, arrives, ?_⟩
    rw [log.row_of_mem unseen member] at compared
    obtain ⟨absent, -⟩ | ⟨row, found, displaced⟩ := arrives
    · rw [absent] at compared
      exact (Option.some.inj compared).symm
    · have here : NativeScanRecord.key ⟨row, 1 - round.generation⟩ = itemKey item :=
        log.beforeKeyed _ _ found
      simp only [found, Option.map_some, (identityChanged_iff_displaced once member here).2 displaced,
        if_true] at compared
      exact (Option.some.inj compared).symm
  · rintro ⟨item, member, arrives, rfl⟩
    refine ⟨item, List.mem_filter.2 ⟨member, (kept item member).2 arrives⟩, ?_⟩
    rw [log.row_of_mem unseen member]
    obtain ⟨absent, -⟩ | ⟨row, found, displaced⟩ := arrives
    · rw [absent]
      rfl
    · have here : NativeScanRecord.key ⟨row, 1 - round.generation⟩ = itemKey item :=
        log.beforeKeyed _ _ found
      simp only [found, Option.map_some, (identityChanged_iff_displaced once member here).2 displaced, if_true]

theorem RoundLog.mem_displaced {row : NativeScanRecord} :
    row ∈ (round.compare blake3Hex items).displaced ↔ ∃ item ∈ items, ∃ old, before (itemKey item) = some old ∧
      Displaced old item ∧ row = ⟨old, 1 - round.generation⟩ := by
  have bit := log.bit
  have other : 1 - round.generation ≠ round.generation := by omega
  have present : round.hasDisplaced (round.byHandle items) items = true ↔ ∃ item ∈ items, ∃ old,
      before (itemKey item) = some old ∧ Displaced old item := by
    rw [ScanRound.hasDisplaced, List.any_eq_true]
    refine exists_congr fun item => and_congr_right fun member => ?_
    rw [log.changedAt_eq once unseen typed member]
    cases found : before (itemKey item) with
    | none => simp
    | some old =>
        by_cases displaced : Displaced old item
        · simp [Option.filter_some, displaced, ScanRound.previousGeneration, other]
        · simp [Option.filter_some, displaced]
  have listed : row ∈ round.displacedRows items ↔ ∃ item ∈ items, ∃ old, before (itemKey item) = some old ∧
      Displaced old item ∧ row = ⟨old, 1 - round.generation⟩ := by
    simp only [ScanRound.displacedRows, List.mem_filter, Lib.mem_surviving, Bool.and_eq_true, List.any_eq_true,
      stage, List.mem_map, decide_eq_true_eq]
    constructor
    · rintro ⟨found, ⟨previous, handled⟩, _, ⟨item, member, rfl⟩, ⟨here, identified⟩, different⟩
      have position : itemKey item = row.key := here
      have live : round.base.row (itemKey item) = some row := by
        rw [position]
        exact found
      rw [log.row_of_mem unseen member, Option.map_eq_some_iff] at live
      obtain ⟨old, known, rfl⟩ := live
      exact ⟨item, member, old, known, ⟨handled, identified, different⟩, rfl⟩
    · rintro ⟨item, member, old, known, displaced, rfl⟩
      have here : NativeScanRecord.key ⟨old, 1 - round.generation⟩ = itemKey item := log.beforeKeyed _ _ known
      have live := log.row_of_mem unseen member
      rw [known, Option.map_some] at live
      refine ⟨?_, ⟨?_, displaced.1⟩, _, ⟨item, member, rfl⟩, ⟨here.symm, displaced.2.1⟩, displaced.2.2⟩
      · rw [here]
        exact live
      · simpa [ScanRound.previousGeneration] using other
  have compared : (round.compare blake3Hex items).displaced =
      if round.hasDisplaced (round.byHandle items) items then round.displacedRows items else [] := rfl
  rw [compared]
  split
  · exact listed
  · next quiet =>
      constructor
      · intro member
        cases member
      · rintro ⟨item, member, old, known, displaced, -⟩
        exact absurd (present.2 ⟨item, member, old, known, displaced⟩) quiet

theorem RoundLog.mem_batchRecords {record : EventRecord} :
    record ∈ round.batchRecords blake3Hex items ↔ ∃ item ∈ items, Logs blake3Hex before (round.byHandle items) item record := by
  have events : (round.compare blake3Hex items).events = round.compareDirect blake3Hex (round.byHandle items) items ++
      round.comparePaths blake3Hex (round.byHandle items) items ++ round.compareAbsent blake3Hex (round.byHandle items) items := rfl
  rw [ScanRound.batchRecords, events]
  simp only [List.mem_append, List.mem_map, log.mem_displaced once unseen typed, log.mem_direct once unseen typed,
    log.mem_paths unseen, log.mem_absent once unseen typed]
  constructor
  · rintro (⟨_, ⟨item, member, row, found, displaced, rfl⟩, rfl⟩ |
      ⟨_, (⟨item, member, row, kind, found, kept, changed, rfl⟩ | ⟨item, member, absent, path, rfl⟩) |
        ⟨item, member, ⟨absent, path⟩ | ⟨row, found, displaced⟩, rfl⟩, rfl⟩)
    · exact ⟨item, member, .inl ⟨row, found, displaced, .inl rfl⟩⟩
    · refine ⟨item, member, .inr (.inl ⟨row, found, kept, ?_, rfl⟩)⟩
      rw [changed, Option.isSome_some]
    · refine ⟨item, member, .inr (.inr ⟨absent, ?_⟩)⟩
      rw [path, if_neg Bool.false_ne_true]
      rfl
    · refine ⟨item, member, .inr (.inr ⟨absent, ?_⟩)⟩
      rw [path, if_pos rfl]
      rfl
    · exact ⟨item, member, .inl ⟨row, found, displaced, .inr rfl⟩⟩
  · rintro ⟨item, member, ⟨row, found, displaced, rfl | rfl⟩ | ⟨row, found, kept, changed, rfl⟩ | ⟨absent, rfl⟩⟩
    · exact .inl ⟨_, ⟨item, member, row, found, displaced, rfl⟩, rfl⟩
    · exact .inr ⟨.candidate item, .inr ⟨item, member, .inr ⟨row, found, displaced⟩, rfl⟩, rfl⟩
    · obtain ⟨kind, changed⟩ := Option.isSome_iff_exists.1 changed
      exact .inr ⟨.changed item kind, .inl (.inl ⟨item, member, row, kind, found, kept, changed, rfl⟩), rfl⟩
    · cases path : round.byHandle items && hasCrossScanIdentity item.entry with
      | true => exact .inr ⟨.candidate item, .inr ⟨item, member, .inl ⟨absent, path⟩, rfl⟩, rfl⟩
      | false => exact .inr ⟨.new item, .inl (.inr ⟨item, member, absent, path, rfl⟩), rfl⟩

/-- The batch logs at most one row of an operation at a key. -/
theorem RoundLog.latest_batchRecords {item : ObservedItem} (member : item ∈ items) {operation : OperationType}
    {record : EventRecord} :
    latest EventRecord.key (round.batchRecords blake3Hex items) (operation, itemKey item) = some record ↔
      Logs blake3Hex before (round.byHandle items) item record ∧ record.operation = operation := by
  have at_item : ∀ other, other ∈ round.batchRecords blake3Hex items → itemKey other.view = itemKey item →
      Logs blake3Hex before (round.byHandle items) item other := by
    intro other inside here
    obtain ⟨source, delivered, logs⟩ := (log.mem_batchRecords once unseen typed).1 inside
    rw [List.inj_on_of_nodup_map once member delivered (here.symm.trans (logs_key log.beforeKeyed logs))]
    exact logs
  constructor
  · intro found
    have here : EventRecord.key record = (operation, itemKey item) := Lib.key_of_latest found
    obtain ⟨same, position⟩ := Prod.mk.inj here
    exact ⟨at_item record (Lib.mem_of_latest found) position, same⟩
  · rintro ⟨logs, rfl⟩
    have here : EventRecord.key record = (record.operation, itemKey item) := by
      rw [EventRecord.key, logs_key log.beforeKeyed logs]
    rw [← here]
    refine Lib.latest_of_unique ((log.mem_batchRecords once unseen typed).2 ⟨item, member, logs⟩) ?_
    intro other inside same
    obtain ⟨operation, position⟩ := Prod.mk.inj (same.trans here)
    exact logs_unique (at_item other inside position) logs operation

theorem RoundLog.latest_batchRecords_none {key : PathKey} (missing : latest itemKey items key = none)
    (operation : OperationType) : latest EventRecord.key (round.batchRecords blake3Hex items) (operation, key) = none := by
  refine Lib.latest_eq_none.2 fun record inside same => ?_
  obtain ⟨item, delivered, logs⟩ := (log.mem_batchRecords once unseen typed).1 inside
  refine Lib.latest_eq_none.1 missing item delivered ?_
  rw [← logs_key log.beforeKeyed logs]
  exact congrArg Prod.snd same

end Compare

/-- A key that is not observed has no log. -/
theorem RoundLog.silent (log : RoundLog blake3Hex before observed round) {key : PathKey} (unobserved : observed key = none)
    (operation : OperationType) : round.log operation key = none := by
  rw [Option.eq_none_iff_forall_ne_some]
  intro record found
  have known := log.operations record (Lib.mem_of_latest found)
  have here : EventRecord.key record = (operation, key) := Lib.key_of_latest found
  have same : record.operation = operation := (Prod.mk.inj here).1
  have logs := log.logs key
  rw [unobserved] at logs
  rw [same] at known
  obtain rfl | rfl | rfl | rfl := known
  · obtain ⟨row, item, -, seen, -⟩ := logs.changed.1 (Option.isSome_of_eq_some found)
    cases seen
  · obtain ⟨item, seen, -⟩ := logs.arrived.1 (.inl (Option.isSome_of_eq_some found))
    cases seen
  · obtain ⟨item, seen, -⟩ := logs.arrived.1 (.inr (Option.isSome_of_eq_some found))
    cases seen
  · obtain ⟨row, item, -, seen, -⟩ := (logs.displaced record).1 found
    cases seen

theorem LogAt.congr {next : ScanRound} {key : PathKey} {seen : Option ObservedItem}
    (logs : LogAt blake3Hex before round key seen) (same : ∀ operation, next.log operation key = round.log operation key) :
    LogAt blake3Hex before next key seen := by
  refine ⟨?_, ?_, ?_, ?_, ?_⟩
  · rw [same]
    exact logs.changed
  · rw [same]
    exact logs.displaced
  · rw [same, same]
    exact logs.arrived
  · rw [same, same]
    exact logs.new
  · rw [same]
    exact logs.candidate

/-- The log of a key that was observed just now. -/
theorem logAt_of_logs {next : ScanRound} {item : ObservedItem} {byHandle : Bool}
    (compares : Handled before → hasCrossScanIdentity item.entry = true → byHandle = true)
    (logged : ∀ operation record, next.log operation (itemKey item) = some record ↔
      Logs blake3Hex before byHandle item record ∧ record.operation = operation) :
    LogAt blake3Hex before next (itemKey item) (some item) := by
  have view : ∀ operation record, operation ≠ .displacedOld →
      next.log operation (itemKey item) = some record → record.view = item := by
    rintro operation record kept found
    obtain ⟨⟨row, -, -, rfl | rfl⟩ | ⟨row, -, -, -, rfl⟩ | ⟨-, rfl⟩, rfl⟩ := (logged operation record).1 found
    · exact absurd rfl kept
    · rfl
    · rfl
    · rfl
  refine ⟨?_, ?_, ?_, ?_, ?_⟩
  · rw [Option.isSome_iff_exists]
    constructor
    · rintro ⟨record, found⟩
      obtain ⟨⟨row, -, -, rfl | rfl⟩ | ⟨row, known, kept, changed, rfl⟩ | ⟨-, rfl⟩, same⟩ := (logged _ _).1 found
      · cases same
      · cases same
      · exact ⟨row, item, known, rfl, kept, changed⟩
      · simp only at same
        split at same
        · cases same
        · cases same
    · rintro ⟨row, _, known, same, kept, changed⟩
      cases same
      exact ⟨_, (logged _ _).2 ⟨.inr (.inl ⟨row, known, kept, changed, rfl⟩), rfl⟩⟩
  · intro record
    rw [logged]
    constructor
    · rintro ⟨⟨row, known, displaced, rfl | rfl⟩ | ⟨row, -, -, -, rfl⟩ | ⟨-, rfl⟩, same⟩
      · exact ⟨row, item, known, rfl, displaced, rfl⟩
      · cases same
      · cases same
      · simp only at same
        split at same
        · cases same
        · cases same
    · rintro ⟨row, _, known, same, displaced, rfl⟩
      cases same
      exact ⟨.inl ⟨row, known, displaced, .inl rfl⟩, rfl⟩
  · rw [Option.isSome_iff_exists, Option.isSome_iff_exists]
    constructor
    · rintro (⟨record, found⟩ | ⟨record, found⟩)
      · obtain ⟨⟨row, -, -, rfl | rfl⟩ | ⟨row, -, -, -, rfl⟩ | ⟨absent, rfl⟩, same⟩ := (logged _ _).1 found
        · cases same
        · cases same
        · cases same
        · exact ⟨item, rfl, fun row known => by rw [absent] at known; cases known⟩
      · obtain ⟨⟨row, known, displaced, rfl | rfl⟩ | ⟨row, -, -, -, rfl⟩ | ⟨absent, rfl⟩, same⟩ := (logged _ _).1 found
        · cases same
        · refine ⟨item, rfl, fun other found => ?_⟩
          rw [known, Option.some.injEq] at found
          rw [← found]
          exact displaced
        · cases same
        · exact ⟨item, rfl, fun row known => by rw [absent] at known; cases known⟩
    · rintro ⟨_, same, arrives⟩
      cases same
      obtain absent | ⟨row, known⟩ := Option.eq_none_or_eq_some (before (itemKey item))
      · cases path : byHandle && hasCrossScanIdentity item.entry with
        | true => exact .inr ⟨_, (logged _ _).2 ⟨.inr (.inr ⟨absent, rfl⟩), by rw [path]; rfl⟩⟩
        | false => exact .inl ⟨_, (logged _ _).2 ⟨.inr (.inr ⟨absent, rfl⟩), by rw [path]; rfl⟩⟩
      · exact .inr ⟨_, (logged _ _).2 ⟨.inl ⟨row, known, arrives row known, .inr rfl⟩, rfl⟩⟩
  · intro record found
    obtain ⟨⟨row, -, -, rfl | rfl⟩ | ⟨row, -, -, -, rfl⟩ | ⟨absent, rfl⟩, fresh⟩ := (logged _ _).1 found
    · cases fresh
    · cases fresh
    · cases fresh
    · refine ⟨rfl, ?_, fun handled => ?_⟩
      · rw [Option.eq_none_iff_forall_ne_some]
        intro other candidate
        obtain ⟨⟨row, known, -, -⟩ | ⟨row, known, -⟩ | ⟨-, rfl⟩, same⟩ := (logged _ _).1 candidate
        · rw [absent] at known
          cases known
        · rw [absent] at known
          cases known
        · rw [fresh] at same
          cases same
      · rw [← Option.not_isSome_iff_eq_none]
        intro identified
        rw [compares handled identified, hasCrossScanIdentity, identified] at fresh
        cases fresh
  · intro record found
    rw [view _ _ OperationType.noConfusion found]

/-- A batch adds what its observations log. -/
theorem RoundLog.flushItems (blake3Hex : SyncDelta.Bytes → List Char) (log : RoundLog blake3Hex before observed round) (once : (items.map itemKey).Nodup)
    (unseen : ∀ item ∈ items, observed (itemKey item) = none)
    (typed : Handled before → round.typedHandles = true) :
    RoundLog blake3Hex before (fun key => (latest itemKey items key).or (observed key)) (round.flushItems blake3Hex items) := by
  have written : ∀ operation key, (round.flushItems blake3Hex items).log operation key =
      (latest EventRecord.key (round.batchRecords blake3Hex items) (operation, key)).or (round.log operation key) := by
    intro operation key
    rw [ScanRound.log, ScanRound.flushItems_eq, Lib.latest_append]
    rfl
  have recorded : ∀ record ∈ (round.flushItems blake3Hex items).events,
      record ∈ round.events ∨ record ∈ round.batchRecords blake3Hex items := by
    intro record member
    rw [ScanRound.flushItems_eq] at member
    exact List.mem_append.1 member
  refine ⟨log.bit, log.beforeKeyed, ?_, ?_, ?_, ?_, ?_⟩
  · intro key item seen
    obtain found | earlier := Option.or_eq_some_iff.1 seen
    · exact Lib.key_of_latest found
    · exact log.keyed key item earlier.2
  · intro key
    have rows : (round.flushItems blake3Hex items).base.row key =
        ((latest itemKey items key).map fun item => ⟨item, round.generation⟩).or (round.base.row key) :=
      ScanRound.row_insertViews round.generation round.base items key
    rw [rows, log.rows, liveAfter, liveAfter, ← Option.or_assoc, Option.map_or]
    rfl
  · intro key
    cases found : latest itemKey items key with
    | none =>
        rw [Option.none_or]
        refine (log.logs key).congr fun operation => ?_
        rw [written, log.latest_batchRecords_none once unseen typed found, Option.none_or]
    | some item =>
        have member := Lib.mem_of_latest found
        obtain rfl : itemKey item = key := Lib.key_of_latest found
        rw [Option.some_or]
        refine @logAt_of_logs _ before _ item (round.byHandle items) (fun handled identified => ?_) ?_
        · rw [ScanRound.byHandle, typed handled, Bool.true_and]
          exact List.any_eq_true.2 ⟨item, member, identified⟩
        · intro operation record
          rw [written, log.silent (unseen item member), Option.or_none]
          exact log.latest_batchRecords once unseen typed member
  · intro record member
    obtain earlier | new := recorded record member
    · exact log.comments record earlier
    · obtain ⟨item, -, ⟨row, -, -, rfl | rfl⟩ | ⟨row, -, -, -, rfl⟩ | ⟨-, rfl⟩⟩ :=
        (log.mem_batchRecords once unseen typed).1 new
      · rfl
      · rfl
      · rfl
      · rfl
  · intro record member
    obtain earlier | new := recorded record member
    · exact log.operations record earlier
    · obtain ⟨item, -, ⟨row, -, -, rfl | rfl⟩ | ⟨row, -, -, -, rfl⟩ | ⟨-, rfl⟩⟩ :=
        (log.mem_batchRecords once unseen typed).1 new
      · exact .inr (.inr (.inr rfl))
      · exact .inr (.inr (.inl rfl))
      · exact .inl rfl
      · simp only
        split
        · exact .inr (.inr (.inl rfl))
        · exact .inr (.inl rfl)

end Batch

end Terrasync.Scan
