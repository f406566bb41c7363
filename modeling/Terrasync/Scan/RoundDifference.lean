import Terrasync.Scan.RoundBatching
import Terrasync.Scan.RoundDecisions

/-! A whole round in which every path and version is observed once: the events it leaves in the
log are the difference between the committed namespace and the observed one, and the base rows
it leaves are the observed namespace, however the observations fall into batches. -/

set_option autoImplicit false

namespace Terrasync.Scan

open Catalogue (BaseTable NativeScanRecord)
open Lib (latest)

variable {blake3Hex : SyncDelta.Bytes → List Char}

/-- What the base rows show of each path and version. -/
def namespaceOf (base : BaseTable) : Namespace := fun key => (base.row key).map NativeScanRecord.view

namespace ScanRound

/-- The rows of the log behind the final events and `cleanup_candidates`. -/
def publicEvents (round : ScanRound) (finals : List ScanFinalEvent) : List PublicEvent :=
  ((round.events.map historyRow ++ finals.map ScanFinalEvent.record).filter fun row => !row.transient).map
    FinalHistory.publicEvent

/-- `delete_previous_scan_entries`. -/
def deletePreviousScanEntries (round : ScanRound) (keys : List PathKey) : ScanRound :=
  { round with base := round.base.filter fun row => !(round.previousGeneration row && decide (row.key ∈ keys)) }

end ScanRound

/-! ### The run -/

section Run

variable {before observed : Namespace} {round final : ScanRound} {committed : BaseTable} {generation : Nat}

theorem keyed_namespaceOf (base : BaseTable) : Keyed (namespaceOf base) := by
  intro key item found
  obtain ⟨row, known, rfl⟩ := Option.map_eq_some_iff.1 found
  exact ScanRound.row_key known

theorem RoundLog.start (kind : StoreKind) (bit : generation ≤ 1)
    (previous : ∀ row ∈ committed, row.currentState = 1 - generation) :
    RoundLog blake3Hex (namespaceOf committed) (fun _ => none) (.start kind committed generation) := by
  constructor
  · exact bit
  · exact keyed_namespaceOf committed
  · exact fun _ _ found => by cases found
  · intro key
    rw [liveAfter, Option.map_none, Option.none_or, namespaceOf, Option.map_map]
    cases found : committed.row key with
    | none => exact found
    | some row =>
        have same := previous row (Lib.mem_of_latest found)
        refine found.trans ?_
        rw [Option.map_some, Function.comp_apply,
          show 1 - (ScanRound.start kind committed generation).generation = row.currentState from same.symm]
  · intro key
    constructor <;> simp [ScanRound.log, ScanRound.start, latest]
  · exact fun _ member => absurd member List.not_mem_nil
  · exact fun _ member => absurd member List.not_mem_nil

/-- Rows of the working generation are observations of the round. -/
def Filed (observed : Namespace) (round : ScanRound) : Prop :=
  ∀ row ∈ round.base, round.previousGeneration row = false → (observed row.key).isSome = true

theorem Filed.flushItems (blake3Hex : SyncDelta.Bytes → List Char) {items : List ObservedItem} (filed : Filed observed round) :
    Filed (fun key => (latest itemKey items key).or (observed key)) (round.flushItems blake3Hex items) := by
  intro row member current
  rw [ScanRound.flushItems_eq] at member current
  rcases List.mem_append.1 member with earlier | new
  · have seen := filed row earlier current
    rw [Option.isSome_or, seen, Bool.or_true]
  · obtain ⟨item, inside, rfl⟩ := List.mem_map.1 new
    have seen : (latest itemKey items (itemKey item)).isSome = true := Lib.latest_isSome inside
    exact (Option.isSome_or).trans (by rw [show NativeScanRecord.key ⟨item, round.generation⟩ = itemKey item from rfl,
      seen, Bool.true_or])

theorem nodup_batchItems {batch : List ObservedEntry} (once : ((deliveredItems batch).map itemKey).Nodup) :
    ((batchItems batch).map itemKey).Nodup := by
  have sorted : (batchItems batch).Perm (deliveredItems batch) :=
    (List.mergeSort_perm batch _).flatMap_right ObservedItem.all
  exact ((sorted.map itemKey).nodup_iff).2 once

/-- Each batch adds its observations to the log and to the rows. -/
theorem RoundLog.run {batches : List (List ObservedEntry)} (log : RoundLog blake3Hex before observed round)
    (filed : Filed observed round) (typed : Handled before → round.typedHandles = true)
    (normal : ∀ entry ∈ batches.flatten, NormalPath entry)
    (once : ((deliveredItems batches.flatten).map itemKey).Nodup)
    (unseen : ∀ item ∈ deliveredItems batches.flatten, observed (itemKey item) = none)
    (run : (scanMachine blake3Hex).exec round batches = some final) :
    RoundLog blake3Hex before (fun key => (lastObserved batches.flatten key).or (observed key)) final ∧
      Filed (fun key => (lastObserved batches.flatten key).or (observed key)) final := by
  induction batches generalizing round observed with
  | nil =>
      cases run
      exact ⟨log, filed⟩
  | cons batch rest ih =>
      obtain ⟨next, stepped, remaining⟩ := Lib.Machine.exec_cons run
      cases stepped
      rw [List.flatten_cons] at normal once unseen
      rw [deliveredItems, List.flatMap_append, List.map_append] at once
      obtain ⟨first, later, apart⟩ := List.nodup_append.1 once
      have here : ∀ entry ∈ batch, NormalPath entry := fun entry member =>
        normal entry (List.mem_append_left _ member)
      have seen (key : PathKey) : latest itemKey (batchItems batch) key = lastObserved batch key :=
        latest_batchItems here key
      have delivered : ∀ item ∈ batchItems batch, observed (itemKey item) = none := by
        intro item member
        apply unseen
        rw [deliveredItems, List.flatMap_append]
        exact List.mem_append_left _ (mem_batchItems.1 member)
      -- an empty batch is not flushed, and observes nothing
      have flushed : RoundLog blake3Hex before (fun key => (lastObserved batch key).or (observed key)) (round.flushBatch blake3Hex batch) ∧
          Filed (fun key => (lastObserved batch key).or (observed key)) (round.flushBatch blake3Hex batch) ∧
            (Handled before → (round.flushBatch blake3Hex batch).typedHandles = true) := by
        unfold ScanRound.flushBatch
        split
        · rename_i empty
          subst empty
          exact ⟨log, filed, typed⟩
        · have logged := log.flushItems blake3Hex (nodup_batchItems first) delivered typed
          have kept := @Filed.flushItems observed round blake3Hex (batchItems batch) filed
          simp only [seen] at logged kept
          exact ⟨logged, kept, typed⟩
      have fresh : ∀ item ∈ deliveredItems rest.flatten,
          (lastObserved batch (itemKey item)).or (observed (itemKey item)) = none := by
        intro item member
        rw [Option.or_eq_none_iff]
        constructor
        · apply Lib.latest_eq_none.2
          intro other inside same
          exact apart _ (List.mem_map.2 ⟨other, inside, rfl⟩) _ (List.mem_map.2 ⟨item, member, rfl⟩) same
        · apply unseen
          rw [deliveredItems, List.flatMap_append]
          exact List.mem_append_right _ member
      have ended := ih flushed.1 flushed.2.1 flushed.2.2
        (fun entry member => normal entry (List.mem_append_right _ member)) later fresh remaining
      simp only [List.flatten_cons, lastObserved_append, Option.or_assoc]
      exact ended

end Run

/-! ### What the round leaves -/

section Leaves

variable {before observed : Namespace} {round : ScanRound} {finals : List ScanFinalEvent}

theorem mem_publicEvents {event : PublicEvent} :
    event ∈ round.publicEvents finals ↔
      (∃ record ∈ round.events, (ScanRound.historyRow record).transient = false ∧
        (ScanRound.historyRow record).publicEvent = event) ∨
      ∃ final ∈ finals, final.record.transient = false ∧ final.record.publicEvent = event := by
  simp only [ScanRound.publicEvents, List.mem_map, List.mem_filter, List.mem_append, Bool.not_eq_true']
  constructor
  · rintro ⟨row, ⟨⟨record, member, rfl⟩ | ⟨last, member, rfl⟩, kept⟩, rfl⟩
    · exact .inl ⟨record, member, kept, rfl⟩
    · exact .inr ⟨last, member, kept, rfl⟩
  · rintro (⟨record, member, kept, rfl⟩ | ⟨last, member, kept, rfl⟩)
    · exact ⟨_, ⟨.inl ⟨record, member, rfl⟩, kept⟩, rfl⟩
    · exact ⟨_, ⟨.inr ⟨last, member, rfl⟩, kept⟩, rfl⟩

theorem not_transient_final (event : ScanFinalEvent) : event.record.transient = false := by
  cases event <;> rfl

/-- A logged event that is not transient is one that the difference has. -/
theorem RoundLog.logged_published (log : RoundLog blake3Hex before observed round) {record : EventRecord}
    (member : record ∈ round.events) (kept : (ScanRound.historyRow record).transient = false) :
    Published blake3Hex before observed (ScanRound.historyRow record).publicEvent := by
  have found : (round.log record.operation (itemKey record.view)).isSome = true := Lib.latest_isSome member
  have comment := log.comments record member
  have public_ : (ScanRound.historyRow record).publicEvent =
      (record.operation, (itemKey record.view).1, (itemKey record.view).2, none) := by
    rw [← comment]
    rfl
  rw [public_]
  rcases log.operations record member with changed | new | candidate | displaced
  · rw [changed] at found ⊢
    obtain ⟨row, item, known, seen, same, differs⟩ := (log.logs _).changed.1 found
    exact .changed known seen same differs
  · rw [new] at found ⊢
    obtain ⟨item, arrived⟩ := (log.logs _).arrived.1 (.inl found)
    refine .added arrived ?_
    intro source moved
    obtain ⟨other, handle, seen, carried, -, originals⟩ := moved
    obtain ⟨row, lost, handled⟩ := (originals source).2 rfl
    obtain ⟨logged, known⟩ := Option.isSome_iff_exists.1 found
    obtain ⟨view, -, plain⟩ := (log.logs _).new logged known
    rw [seen, Option.some.injEq] at view
    have bare := plain ⟨source, row, lost.1, Option.isSome_of_eq_some handled⟩
    rw [← view, carried] at bare
    cases bare
  · simp [ScanRound.historyRow, FinalHistory.transient, candidate] at kept
  · simp [ScanRound.historyRow, FinalHistory.transient, displaced] at kept

/-- A final event is one that the difference has. -/
theorem RoundLog.final_published (log : RoundLog blake3Hex before observed round) {event : ScanFinalEvent}
    (resolved : round.finalEvents = .ok finals) (member : event ∈ finals) :
    Published blake3Hex before observed event.record.publicEvent := by
  obtain ⟨events, same, added, renamed, deleted⟩ := log.finalEvents_eq
  rw [resolved, Except.ok.injEq] at same
  subst same
  cases event with
  | added row =>
      obtain ⟨candidate, alone⟩ := (added row).1 member
      obtain ⟨item, arrived, -⟩ := log.arrived_of_candidate candidate
      exact .added arrived alone
  | renamed fromPath fromVersion row =>
      obtain ⟨candidate, moved⟩ := (renamed (fromPath, fromVersion) row).1 member
      obtain ⟨item, arrived, -⟩ := log.arrived_of_candidate candidate
      exact .renamed arrived moved
  | deleted row =>
      obtain ⟨old, unmoved⟩ := (deleted row).1 member
      obtain ⟨lost, gone, -⟩ := log.mem_oldRows.1 old
      exact .deleted gone unmoved

/-- The log and the final events hold the difference of the two namespaces. -/
theorem RoundLog.published_iff (log : RoundLog blake3Hex before observed round) (resolved : round.finalEvents = .ok finals)
    (event : PublicEvent) : event ∈ round.publicEvents finals ↔ Published blake3Hex before observed event := by
  constructor
  · intro member
    rcases mem_publicEvents.1 member with ⟨record, logged, kept, rfl⟩ | ⟨last, decided, -, rfl⟩
    · exact log.logged_published logged kept
    · exact log.final_published resolved decided
  · obtain ⟨events, same, added, renamed, deleted⟩ := log.finalEvents_eq
    rw [resolved, Except.ok.injEq] at same
    subst same
    -- what is logged under an operation stays in the table
    have direct {operation : OperationType} {key : PathKey}
        (kept : operation ≠ .candidateNew ∧ operation ≠ .displacedOld)
        (found : (round.log operation key).isSome = true) :
        (operation, key.1, key.2, none) ∈ round.publicEvents finals := by
      obtain ⟨record, known⟩ := Option.isSome_iff_exists.1 found
      have member : record ∈ round.events := Lib.mem_of_latest known
      obtain ⟨rfl, rfl⟩ := operation_of_log known
      refine mem_publicEvents.2 (.inl ⟨record, member, ?_, ?_⟩)
      · simp [ScanRound.historyRow, FinalHistory.transient, kept.1, kept.2]
      · rw [FinalHistory.publicEvent, ScanRound.historyRow, log.comments record member]
        rfl
    have last {final : ScanFinalEvent} (member : final ∈ finals) :
        final.record.publicEvent ∈ round.publicEvents finals :=
      mem_publicEvents.2 (.inr ⟨final, member, not_transient_final final, rfl⟩)
    intro published
    cases published with
    | changed known seen same differs =>
        apply direct (by simp)
        exact (log.logs _).changed.2 ⟨_, _, known, seen, same, differs⟩
    | @added key item arrived alone =>
        rcases (log.logs key).arrived.2 ⟨item, arrived⟩ with new | candidate
        · exact direct (by simp) new
        · have here : itemKey item = key := log.keyed key item arrived.1
          subst here
          have listed : summaryOf item ∈ round.candidateRows := log.mem_candidateRows.2 ⟨item, arrived.1, candidate, rfl⟩
          exact last ((added _).2 ⟨listed, alone⟩)
    | @renamed key source item arrived moved =>
        have here : itemKey item = key := log.keyed key item arrived.1
        have listed := log.candidate_of_movedFrom arrived moved
        subst here
        exact last ((renamed source _).2 ⟨listed, moved⟩)
    | @deleted key row lost unmoved =>
        have here : itemKey row = key := log.beforeKeyed key row lost.1
        subst here
        exact last ((deleted (summaryOf row)).2 ⟨log.mem_oldRows.2 ⟨row, lost, rfl⟩, unmoved⟩)

/-- With the rows of the deletion keys gone, the base rows show what was observed. -/
theorem RoundLog.namespace_after (log : RoundLog blake3Hex before observed round) (filed : Filed observed round)
    (resolved : round.finalEvents = .ok finals) :
    namespaceOf (round.deletePreviousScanEntries (finals.filterMap ScanFinalEvent.deletionKey)).base = observed := by
  funext key
  obtain ⟨events, same, -, renamed, deleted⟩ := log.finalEvents_eq
  rw [resolved, Except.ok.injEq] at same
  subst same
  have rows := log.rows key
  rw [liveAfter] at rows
  have filtered : namespaceOf (round.deletePreviousScanEntries (finals.filterMap ScanFinalEvent.deletionKey)).base key =
      (latest NativeScanRecord.key (round.base.filter fun row => !(round.previousGeneration row &&
        decide (row.key ∈ finals.filterMap ScanFinalEvent.deletionKey))) key).map NativeScanRecord.view := rfl
  rw [filtered]
  cases seen : observed key with
  | some item =>
      -- the last row of the key is of the working generation
      rw [seen, Option.map_some, Option.some_or] at rows
      rw [Lib.latest_filter_of_kept rows (by simp [ScanRound.previousGeneration])]
      rfl
  | none =>
      rw [Option.map_eq_none_iff, Lib.latest_eq_none]
      intro row member here
      obtain ⟨inside, kept⟩ := List.mem_filter.1 member
      have previous : round.previousGeneration row = true := by
        cases current : round.previousGeneration row with
        | true => rfl
        | false =>
            have observed_ := filed row inside current
            rw [here, seen] at observed_
            cases observed_
      rw [previous, Bool.true_and, Bool.not_eq_true', decide_eq_false_iff_not, here] at kept
      -- the key was committed and is lost, so it was deleted or it is where something moved from
      obtain ⟨old, known⟩ : ∃ old, before key = some old := by
        apply Option.isSome_iff_exists.1
        have shown : (round.base.row key).isSome = true := by
          rw [← here]
          exact Lib.latest_isSome inside
        rw [rows, seen, Option.map_none, Option.none_or, Option.isSome_map] at shown
        exact shown
      have lost : Lost before observed key old := ⟨known, fun item found => by rw [seen] at found; cases found⟩
      have at_ : itemKey old = key := log.beforeKeyed key old known
      apply kept
      by_cases moved : ∃ target item, Arrived before observed target item ∧ MovedFrom before observed target key
      · obtain ⟨target, item, arrived, source⟩ := moved
        have event := (renamed key (summaryOf item)).2 ⟨log.candidate_of_movedFrom arrived source, by
          rw [pathKey_summaryOf, log.keyed target item arrived.1]
          exact source⟩
        exact List.mem_filterMap.2 ⟨_, event, rfl⟩
      · have event := (deleted (summaryOf old)).2 ⟨log.mem_oldRows.2 ⟨old, by rw [pathKey_summaryOf, at_]; exact lost, rfl⟩,
          fun target item arrived source => moved ⟨target, item, arrived, by
            rw [pathKey_summaryOf, at_] at source
            exact source⟩⟩
        refine List.mem_filterMap.2 ⟨_, event, ?_⟩
        rw [ScanFinalEvent.deletionKey, pathKey_summaryOf, at_]

/-- An incremental round tells exactly how the two namespaces differ, and leaves the new one. -/
theorem round_publishes_difference (blake3Hex : SyncDelta.Bytes → List Char) (kind : StoreKind)
    {committed : BaseTable} {generation : Nat} (bit : generation ≤ 1)
    (previous : ∀ row ∈ committed, row.currentState = 1 - generation)
    (batches : List (List ObservedEntry)) (normal : ∀ entry ∈ batches.flatten, NormalPath entry)
    (once : ((deliveredItems batches.flatten).map itemKey).Nodup) :
    ∃ final finals, (scanMachine blake3Hex).exec (.start kind committed generation) batches = some final ∧
      final.finalEvents = .ok finals ∧
      (∀ event, event ∈ final.publicEvents finals ↔
        Published blake3Hex (namespaceOf committed) (lastObserved batches.flatten) event) ∧
      namespaceOf (final.deletePreviousScanEntries (finals.filterMap ScanFinalEvent.deletionKey)).base =
        lastObserved batches.flatten := by
  obtain ⟨final, run⟩ := exec_batches blake3Hex (.start kind committed generation) batches
  have typed : Handled (namespaceOf committed) →
      (ScanRound.start kind committed generation).typedHandles = true := by
    rintro ⟨key, item, found, handled⟩
    obtain ⟨row, known, rfl⟩ := Option.map_eq_some_iff.1 found
    cases kind with
    | single => exact List.any_eq_true.2 ⟨row, Lib.mem_of_latest known, handled⟩
    | cluster => rfl
  have filed : Filed (fun _ => none) (.start kind committed generation) := by
    intro row member current
    have label := previous row member
    have same : row.currentState = generation := not_not.1 (of_decide_eq_false current)
    omega
  obtain ⟨log, kept⟩ := (RoundLog.start kind bit previous).run filed typed normal once
    (fun _ _ => rfl) run
  simp only [Option.or_none] at log kept
  obtain ⟨finals, resolved, -⟩ := log.finalEvents_eq
  exact ⟨final, finals, run, resolved, log.published_iff resolved, log.namespace_after kept resolved⟩

/-- The committed file was renamed, and another one came to its path, in two batches. -/
theorem round_publishes_difference_renamed :
    ∃ final finals, (scanMachine fun _ => []).exec (.start .single committedFile 1)
        [[{ observedFile ['1'] 0 with path := ['m'] }], [observedFile ['2'] 0]] = some final ∧
      final.finalEvents = .ok finals ∧
      (∀ event, event ∈ final.publicEvents finals ↔ Published (fun _ => []) (namespaceOf committedFile)
        (lastObserved [{ observedFile ['1'] 0 with path := ['m'] }, observedFile ['2'] 0]) event) ∧
      namespaceOf (final.deletePreviousScanEntries (finals.filterMap ScanFinalEvent.deletionKey)).base =
        lastObserved [{ observedFile ['1'] 0 with path := ['m'] }, observedFile ['2'] 0] := by
  refine round_publishes_difference (fun _ => []) .single (by decide) (by decide)
    [[{ observedFile ['1'] 0 with path := ['m'] }], [observedFile ['2'] 0]] ?_ (by decide)
  intro entry member
  obtain rfl | rfl := List.mem_pair.1 member
  · simp [NormalPath]
  · exact normal_observedFile ['2'] 0

end Leaves

end Terrasync.Scan
