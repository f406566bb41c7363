import Terrasync.Scan.FinalEventsProperties
import Terrasync.Scan.Finalization
import Terrasync.Lib.WriteBuffers

/-! Replaying an interrupted finalisation. Recorded decisions are read back; the others
are inferred again from what is left, which may lack base rows that a completed batch
removed. -/

set_option autoImplicit false

namespace Terrasync.Scan

namespace RoundTables

theorem mem_oldRows (tables : RoundTables) (row : EntrySummary) :
    row ∈ tables.oldRows ↔ row ∈ tables.previous ∨ row ∈ tables.displaced := by
  unfold oldRows
  generalize tables.previous = known
  induction tables.displaced generalizing known with
  | nil => simp
  | cons first rest ih =>
      rw [List.foldl_cons, ih, List.mem_cons]
      split
      · rename_i member
        constructor
        · rintro (here | there)
          · exact Or.inl here
          · exact Or.inr (Or.inr there)
        · rintro (here | rfl | there)
          · exact Or.inl here
          · exact Or.inl member
          · exact Or.inr there
      · rw [List.mem_append, List.mem_singleton, or_assoc]

theorem mem_membership {tables : RoundTables} {row : EntrySummary} {handle : FileHandle}
    (member : row ∈ tables.candidates) (carried : row.fileHandle = some handle) :
    handle ∈ tables.membership := List.mem_filterMap.mpr ⟨row, member, carried⟩

theorem typed_of_membership {tables : RoundTables} {handle : FileHandle}
    (member : handle ∈ tables.membership) : tables.typedCandidates = true := by
  obtain ⟨row, candidate, carried⟩ := List.mem_filterMap.mp member
  exact List.any_eq_true.mpr ⟨row, candidate, by rw [carried]; rfl⟩

theorem history_of_readHistory {tables : RoundTables} {row : FinalHistory}
    (read : row ∈ tables.readHistory) : row ∈ tables.history := by
  unfold readHistory at read
  split at read
  · exact List.mem_of_mem_filter read
  · exact List.mem_of_mem_filter read
  · exact List.mem_of_mem_filter read
  · exact absurd read List.not_mem_nil

/-- Decisions and deletions about a candidate's handle are read. -/
theorem readHistory_of_membership {tables : RoundTables} {row : FinalHistory} {handle : FileHandle}
    (recorded : row ∈ tables.history) (carried : row.fileHandle = some handle)
    (member : handle ∈ tables.membership)
    (operation : row.operationType = .new ∨ row.operationType = .deleted ∨
      row.operationType = .rename) : row ∈ tables.readHistory := by
  have concerns : tables.concernsCandidate row = true := by
    unfold concernsCandidate
    rw [Bool.and_eq_true]
    constructor
    · simpa [or_assoc] using operation
    · exact List.any_eq_true.mpr ⟨handle, member, by simpa using carried⟩
  unfold readHistory
  rw [typed_of_membership member]
  cases tables.oldRows.isEmpty with
  | true => exact List.mem_filter.mpr ⟨recorded, concerns⟩
  | false => exact List.mem_filter.mpr ⟨recorded, by rw [concerns]; rfl⟩

/-- While an old row is left, every recorded rename is read. -/
theorem readHistory_of_rename {tables : RoundTables} {row : FinalHistory} {oldRow : EntrySummary}
    (recorded : row ∈ tables.history) (left : oldRow ∈ tables.oldRows)
    (rename : row.operationType = .rename) : row ∈ tables.readHistory := by
  have nonempty : tables.oldRows.isEmpty = false := by
    cases same : tables.oldRows with
    | nil =>
        rw [same] at left
        exact absurd left List.not_mem_nil
    | cons first rest => rfl
  unfold readHistory
  rw [nonempty]
  cases tables.typedCandidates with
  | true => exact List.mem_filter.mpr ⟨recorded, by simp [rename]⟩
  | false => exact List.mem_filter.mpr ⟨recorded, by simp [rename]⟩

theorem operation_of_original {row : FinalHistory} {key : PathKey}
    (original : row.original = some key) :
    row.operationType = .deleted ∨ row.operationType = .rename := by
  unfold FinalHistory.original at original
  split at original
  · rename_i operation
    exact Or.inl operation
  · rename_i operation
    exact Or.inr operation
  · cases original

/-- Counting live paths only for candidates that can match leaves the inference as it is. -/
theorem lone_activeCounts (tables : RoundTables) {row : EntrySummary}
    (member : row ∈ tables.candidates) (key : PathKey) :
    LoneOriginal tables.oldRows tables.readHistory tables.activeCounts row key ↔
      LoneOriginal tables.oldRows tables.readHistory tables.liveCounts row key := by
  unfold LoneOriginal
  constructor
  · rintro ⟨handle, carried, live, lone⟩
    refine ⟨handle, carried, ?_, lone⟩
    unfold activeCounts at live
    split at live
    · split at live
      · exact live
      · cases live
    · cases live
  · rintro ⟨handle, carried, live, lone⟩
    refine ⟨handle, carried, ?_, lone⟩
    have inMembership := mem_membership member carried
    have known : handle ∈ tables.originalHandles := by
      unfold originalHandles
      rw [List.mem_append, List.mem_filterMap, List.mem_filterMap]
      cases (lone key).mpr rfl with
      | inl old =>
          obtain ⟨other, here, handled, -⟩ := old
          exact Or.inl ⟨other, here, handled⟩
      | inr recorded =>
          obtain ⟨other, here, handled, original⟩ := recorded
          refine Or.inr ⟨other, List.mem_filter.mpr ⟨here, ?_⟩, handled⟩
          simpa using operation_of_original original
    have counted : (tables.membership.any fun carried =>
        tables.originalHandles.contains carried) = true :=
      List.any_eq_true.mpr ⟨handle, inMembership, by simpa using known⟩
    unfold activeCounts
    rw [if_pos counted, if_pos inMembership]
    exact live

end RoundTables

section Records

theorem wellFormed_record (event : ScanFinalEvent) : event.record.WellFormed := by
  intro rename
  cases event with
  | added row => cases rename
  | deleted row => cases rename
  | renamed fromPath fromVersion target => rfl

theorem decision_record {row : EntrySummary} {decision : RecordedDecision}
    (version : ∀ key : PathKey, decision = .renamed key.1 key.2 → key.2 = row.versionId) :
    (announce row decision).record.decision = some decision := by
  cases decision with
  | added => rfl
  | renamed fromPath fromVersion =>
      have same := version (fromPath, fromVersion) rfl
      rw [show fromVersion = row.versionId from same]
      rfl

theorem pathKey_record (event : ScanFinalEvent) : event.record.pathKey = event.item.pathKey := rfl

/-- What a written event brings back for its handle. -/
theorem original_record {event : ScanFinalEvent} {key : PathKey}
    (original : event.record.original = some key) :
    event = .deleted event.item ∧ event.item.pathKey = key ∨
      ∃ fromVersion, event = .renamed key.1 fromVersion event.item ∧
        key.2 = event.item.versionId := by
  cases event with
  | added row => cases original
  | deleted row => exact Or.inl ⟨rfl, Option.some.inj original⟩
  | renamed fromPath fromVersion target =>
      cases original
      exact Or.inr ⟨fromVersion, rfl, rfl⟩

theorem source_record {event : ScanFinalEvent} {key : PathKey}
    (source : event.record.source = some key) :
    ∃ fromVersion, event = .renamed key.1 fromVersion event.item ∧ key.2 = event.item.versionId := by
  cases event with
  | added row => cases source
  | deleted row => cases source
  | renamed fromPath fromVersion target =>
      cases source
      exact ⟨fromVersion, rfl, rfl⟩

end Records

/-- The tables after a crash: whole batches were flushed and part of the next one was
written, or everything was flushed and part of the cleanup was done. -/
inductive Interrupted (batchSize : Nat) (start : RoundTables) (events : List ScanFinalEvent) :
    RoundTables → Prop
  | duringBatches (batches : Nat) (partly : List ScanFinalEvent) :
      partly.Sublist ((events.drop (batches * batchSize)).take batchSize) →
      Interrupted batchSize start events
        ((start.flushFinalEvents (events.take (batches * batchSize))).writeFinalEvents partly)
  | duringCleanup (candidates displaced : List EntrySummary) :
      candidates.Sublist start.candidates → displaced.Sublist start.displaced →
      Interrupted batchSize start events
        { start.flushFinalEvents events with candidates := candidates, displaced := displaced }

/-- Operation, path, version and comment of a record. -/
def FinalHistory.facts (row : FinalHistory) :
    OperationType × RelativePath × List Char × Option RelativePath :=
  (row.operationType, row.relativePath, row.versionId, row.comment)

/-- The second run repeats the first: its events are among the first run's, every
remaining candidate has one, and the history ends as if nothing had happened. -/
structure ReplayStable (start : RoundTables) (events : List ScanFinalEvent)
    (interrupted : RoundTables) (again : List ScanFinalEvent) : Prop where
  repeated : ∀ event ∈ again, event ∈ events
  announced : ∀ row ∈ interrupted.candidates,
    ∃ event ∈ again, event.operation ≠ .deleted ∧ event.item = row
  history : ∀ facts,
    facts ∈ (interrupted.history ++ again.map ScanFinalEvent.record).map FinalHistory.facts ↔
      facts ∈ (start.history ++ events.map ScanFinalEvent.record).map FinalHistory.facts

theorem RoundTables.flush_flush (tables : RoundTables) (first later : List ScanFinalEvent) :
    (tables.flushFinalEvents first).flushFinalEvents later =
      tables.flushFinalEvents (first ++ later) := by
  unfold flushFinalEvents writeFinalEvents deleteResumeEntries
  simp only [RoundTables.mk.injEq, List.filter_filter, List.map_append, List.append_assoc, and_true,
    List.filterMap_append, List.mem_append, not_or]
  congr 1
  funext row
  rw [Bool.and_comm, Bool.decide_and]

/-- The loop has flushed whole batches and holds the rest. -/
theorem RoundTables.foldl_finalizeEvent {batchSize : Nat} (positive : 0 < batchSize)
    (tables : RoundTables) (events : List ScanFinalEvent) :
    events.foldl (finalizeEvent batchSize) (tables, []) =
      (tables.flushFinalEvents (events.take (Lib.WriteBuffers.written batchSize events.length)),
        events.drop (Lib.WriteBuffers.written batchSize events.length)) := by
  induction events using List.reverseRecOn with
  | nil => simp [flushFinalEvents, writeFinalEvents, deleteResumeEntries]
  | append_singleton events event ih =>
      have whole := List.take_append_drop (Lib.WriteBuffers.written batchSize events.length) events
      have below := Lib.WriteBuffers.written_le batchSize events.length
      rw [List.foldl_append, ih, List.foldl_cons, List.foldl_nil, List.length_append,
        List.length_singleton, finalizeEvent, Lib.WriteBuffers.length_waiting]
      by_cases reached : batchSize ≤ events.length % batchSize + 1
      · have all : (events ++ [event]).length = events.length + 1 := by simp
        rw [if_pos reached, Lib.WriteBuffers.written_succ_reached positive reached, ← all,
          List.take_length, List.drop_length, flush_flush, ← List.append_assoc, whole]
      · rw [if_neg reached, Lib.WriteBuffers.written_succ_waiting positive reached,
          List.take_append_of_le_length below, List.drop_append_of_le_length below]

/-- An uninterrupted finalisation records every event and removes what they replace. -/
theorem RoundTables.finalizeEvents_eq {batchSize : Nat} (positive : 0 < batchSize)
    {tables : RoundTables} {events : List ScanFinalEvent} (resolved : tables.finalEvents = .ok events) :
    tables.finalizeEvents batchSize = .ok (tables.flushFinalEvents events).cleanupCandidates := by
  unfold finalizeEvents
  rw [resolved]
  have finished : ((events.foldl (finalizeEvent batchSize) (tables, [])).1.flushFinalEvents
      (events.foldl (finalizeEvent batchSize) (tables, [])).2) = tables.flushFinalEvents events := by
    rw [foldl_finalizeEvent positive, flush_flush, List.take_append_drop]
  exact congrArg (fun flushed => Except.ok flushed.cleanupCandidates) finished

/-- Between two events the loop's tables are those of an interruption. -/
theorem interrupted_of_progress {batchSize : Nat} (positive : 0 < batchSize) (tables : RoundTables)
    (events : List ScanFinalEvent) {count : Nat} (reached : count ≤ events.length) :
    Interrupted batchSize tables events
      ((events.take count).foldl (RoundTables.finalizeEvent batchSize) (tables, [])).1 := by
  have below := Lib.WriteBuffers.written_le batchSize count
  have stop : Interrupted batchSize tables events _ :=
    .duringBatches (count / batchSize) [] (List.nil_sublist _)
  rw [RoundTables.foldl_finalizeEvent positive, List.length_take, Nat.min_eq_left reached,
    List.take_take, Nat.min_eq_left below]
  simpa [RoundTables.writeFinalEvents, Lib.WriteBuffers.written] using stop

/-- What both kinds of interruption have in common. -/
structure StoppedAt (start : RoundTables) (events : List ScanFinalEvent) (count : Nat)
    (recorded : List ScanFinalEvent) (stopped : RoundTables) : Prop where
  history : stopped.history = recorded.map ScanFinalEvent.record
  recordedEvents : ∀ event ∈ recorded, event ∈ events
  completed : ∀ event ∈ events.take count, event ∈ recorded
  previous : stopped.previous = start.previous.filter fun row =>
    row.pathKey ∉ (events.take count).filterMap ScanFinalEvent.deletionKey
  liveCounts : stopped.liveCounts = start.liveCounts
  candidates : stopped.candidates.Sublist start.candidates
  displaced : stopped.displaced.Sublist start.displaced
  kept : (stopped.candidates = start.candidates ∧ stopped.displaced = start.displaced) ∨
    ∀ event ∈ events, event ∈ recorded

theorem Interrupted.stoppedAt {batchSize : Nat} {start interrupted : RoundTables}
    {events : List ScanFinalEvent} (fresh : start.history = [])
    (stop : Interrupted batchSize start events interrupted) :
    ∃ count recorded, StoppedAt start events count recorded interrupted := by
  cases stop with
  | duringBatches batches partly sublist =>
      refine ⟨batches * batchSize, events.take (batches * batchSize) ++ partly, ?_⟩
      constructor
      · simp [RoundTables.writeFinalEvents, RoundTables.flushFinalEvents,
          RoundTables.deleteResumeEntries, fresh]
      · intro event member
        cases List.mem_append.mp member with
        | inl completed => exact List.mem_of_mem_take completed
        | inr next => exact List.mem_of_mem_drop (List.mem_of_mem_take (sublist.subset next))
      · intro event member
        exact List.mem_append_left _ member
      · rfl
      · rfl
      · exact List.Sublist.refl _
      · exact List.Sublist.refl _
      · exact Or.inl ⟨rfl, rfl⟩
  | duringCleanup candidates displaced candidatesLeft displacedLeft =>
      refine ⟨events.length, events, ?_⟩
      constructor
      · simp [RoundTables.writeFinalEvents, RoundTables.flushFinalEvents,
          RoundTables.deleteResumeEntries, fresh]
      · exact fun event member => member
      · exact fun event member => List.mem_of_mem_take member
      · rw [List.take_length]
        rfl
      · rfl
      · exact candidatesLeft
      · exact displacedLeft
      · exact Or.inr fun event member => member

end Terrasync.Scan
