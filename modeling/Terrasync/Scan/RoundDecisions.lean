import Terrasync.Scan.RoundLog

/-! What a round decides when it ends, read off the two namespaces: what was logged, the
final events and the rows they take away tell exactly how they differ. -/

set_option autoImplicit false

namespace Terrasync.Scan

open Catalogue (NativeScanRecord)
open Lib (latest)

variable {blake3Hex : SyncDelta.Bytes → List Char}

section Resolution

variable {old candidates : List EntrySummary} {history : List FinalHistory}
  {activeCounts : FileHandle → Option Nat}

/-- A history of additions to other paths decides nothing. -/
structure Unrelated (candidates : List EntrySummary) (history : List FinalHistory) : Prop where
  additions : ∀ row ∈ history, row.operationType = .new
  apart : ∀ row ∈ candidates, ¬Decided history row.pathKey

theorem Unrelated.lone_iff (unrelated : Unrelated candidates history) {row : EntrySummary} {key : PathKey} :
    LoneOriginal old history activeCounts row key ↔ LoneOriginal old [] activeCounts row key := by
  have original : ∀ handle other, Original old history handle other ↔ Original old [] handle other := by
    intro handle other
    refine or_congr_right ⟨?_, ?_⟩
    · rintro ⟨record, member, -, original⟩
      rw [FinalHistory.original, unrelated.additions record member] at original
      cases original
    · rintro ⟨record, member, -⟩
      cases member
  simp only [LoneOriginal, original]

theorem Unrelated.not_recordedSource (unrelated : Unrelated candidates history) (key : PathKey) :
    ¬RecordedSource history key := by
  rintro ⟨record, member, source⟩
  rw [FinalHistory.source, unrelated.additions record member] at source
  cases source

/-- The events, when no recorded decision has a say. -/
theorem Unrelated.resolve (unrelated : Unrelated candidates history) :
    ∃ events, resolveFinalEvents old candidates history activeCounts = .ok events ∧
      (∀ row, .added row ∈ events ↔ row ∈ candidates ∧ ∀ key, ¬LoneOriginal old [] activeCounts row key) ∧
      (∀ key row, .renamed key.1 key.2 row ∈ events ↔ row ∈ candidates ∧ LoneOriginal old [] activeCounts row key) ∧
      ∀ row, .deleted row ∈ events ↔ row ∈ old ∧
        ∀ candidate ∈ candidates, ¬LoneOriginal old [] activeCounts candidate row.pathKey := by
  have wellFormed : ∀ row ∈ history, row.WellFormed := by
    intro row member rename
    rw [unrelated.additions row member] at rename
    cases rename
  obtain ⟨evidence, describes, resolved⟩ := resolve_eq old candidates activeCounts wellFormed
  have decided : ∀ row ∈ candidates, ∀ key : PathKey,
      evidence.decision activeCounts row = .renamed key.1 key.2 ↔ LoneOriginal old [] activeCounts row key :=
    fun row member key => (decision_renamed_iff describes (unrelated.apart row member)).trans unrelated.lone_iff
  refine ⟨_, resolved, fun row => ?_, fun key row => ?_, fun row => ?_⟩
  · rw [List.mem_append, mem_announcements]
    constructor
    · rintro (⟨candidate, member, announced⟩ | deleted)
      · cases decision : evidence.decision activeCounts candidate with
        | added =>
            rw [decision] at announced
            cases announced
            refine ⟨member, fun key lone => ?_⟩
            rw [(decided row member key).2 lone] at decision
            cases decision
        | renamed fromPath fromVersion =>
            rw [decision] at announced
            cases announced
      · obtain ⟨_, -, impossible⟩ := List.mem_map.1 deleted
        cases impossible
    · rintro ⟨member, alone⟩
      refine .inl ⟨row, member, ?_⟩
      cases decision : evidence.decision activeCounts row with
      | added => rfl
      | renamed fromPath fromVersion => exact absurd ((decided row member (fromPath, fromVersion)).1 decision) (alone _)
  · rw [List.mem_append, mem_announcements]
    constructor
    · rintro (⟨candidate, member, announced⟩ | deleted)
      · cases decision : evidence.decision activeCounts candidate with
        | added =>
            rw [decision] at announced
            cases announced
        | renamed fromPath fromVersion =>
            rw [decision] at announced
            cases announced
            exact ⟨member, (decided row member key).1 decision⟩
      · obtain ⟨_, -, impossible⟩ := List.mem_map.1 deleted
        cases impossible
    · rintro ⟨member, lone⟩
      refine .inl ⟨row, member, ?_⟩
      rw [(decided row member key).2 lone]
      rfl
  · have kept : row ∈ leftBehind evidence activeCounts old candidates ↔ row ∈ old ∧
        ∀ candidate ∈ candidates, ¬LoneOriginal old [] activeCounts candidate row.pathKey := by
      rw [leftBehind, List.mem_filter, decide_eq_true_eq,
        mem_sources_iff candidates activeCounts describes [], List.map_nil, List.append_nil, not_or]
      refine and_congr_right fun _ => ⟨?_, ?_⟩
      · rintro ⟨-, unconsumed⟩ candidate member lone
        refine unconsumed ⟨_, mem_announcements.2 ⟨candidate, member, rfl⟩, ?_⟩
        exact renameSource_announce.2 ((decided candidate member _).2 lone)
      · refine fun unconsumed => ⟨unrelated.not_recordedSource _, ?_⟩
        rintro ⟨event, announced, source⟩
        obtain ⟨candidate, member, rfl⟩ := mem_announcements.1 announced
        exact unconsumed candidate member ((decided candidate member _).1 (renameSource_announce.1 source))
    rw [List.mem_append, ← kept, List.mem_map]
    constructor
    · rintro (announced | ⟨left, member, same⟩)
      · obtain ⟨candidate, -, announced⟩ := mem_announcements.1 announced
        have operation := operation_announce candidate (evidence.decision activeCounts candidate)
        rw [announced] at operation
        exact absurd rfl operation
      · cases same
        exact member
    · exact fun member => .inr ⟨row, member, rfl⟩

end Resolution

section Outcome

variable {before observed : Namespace} {round : ScanRound}

/-- The key a summary is read at. -/
theorem pathKey_summaryOf (item : ObservedItem) : (summaryOf item).pathKey = itemKey item := rfl

theorem mem_logged {operation : OperationType} {record : EventRecord} :
    record ∈ round.logged operation ↔ record.operation = operation ∧
      round.log operation (itemKey record.view) = some record := by
  rw [ScanRound.logged, List.mem_filter, Lib.mem_surviving, decide_eq_true_eq, and_comm]
  refine and_congr_right fun same => ?_
  rw [ScanRound.log, EventRecord.key, same]

theorem operation_of_log {operation : OperationType} {key : PathKey} {record : EventRecord}
    (found : round.log operation key = some record) : record.operation = operation ∧ itemKey record.view = key := by
  have here : EventRecord.key record = (operation, key) := Lib.key_of_latest found
  exact Prod.mk.inj here

theorem logged_of_log {operation : OperationType} {key : PathKey} {record : EventRecord}
    (found : round.log operation key = some record) : record ∈ round.logged operation := by
  obtain ⟨same, here⟩ := operation_of_log found
  rw [mem_logged, here]
  exact ⟨same, found⟩

variable (log : RoundLog blake3Hex before observed round)

include log

theorem RoundLog.bit_ne : 1 - round.generation ≠ round.generation := by
  have bit := log.bit
  omega

/-- A live row is of the working generation exactly if its key was observed. -/
theorem RoundLog.mem_liveRows {row : NativeScanRecord} :
    row ∈ round.liveRows ↔ (∃ item, observed row.key = some item ∧ row = ⟨item, round.generation⟩) ∨
      observed row.key = none ∧ ∃ old, before row.key = some old ∧ row = ⟨old, 1 - round.generation⟩ := by
  rw [ScanRound.mem_liveRows, log.rows, liveAfter]
  cases seen : observed row.key with
  | some item => simp [eq_comm]
  | none => simp [eq_comm]

theorem RoundLog.mem_oldRows {summary : EntrySummary} :
    summary ∈ round.oldRows ↔ ∃ old, Lost before observed summary.pathKey old ∧ summaryOf old = summary := by
  have joined : round.oldRows = round.tables.oldRows := rfl
  rw [joined, RoundTables.mem_oldRows]
  simp only [ScanRound.tables, List.mem_map, List.mem_filter]
  constructor
  · rintro (⟨row, ⟨live, previous⟩, rfl⟩ | ⟨record, logged, rfl⟩)
    · obtain ⟨item, -, shape⟩ | ⟨unseen, old, known, shape⟩ := log.mem_liveRows.1 live
      · rw [shape] at previous
        simp [ScanRound.previousGeneration] at previous
      · refine ⟨row.view, ⟨?_, ?_⟩, rfl⟩
        · rw [shape] at known ⊢
          exact known
        · intro item seen
          rw [show (summaryOf row.view).pathKey = row.key from rfl, unseen] at seen
          cases seen
    · obtain ⟨operation, found⟩ := mem_logged.1 logged
      obtain ⟨row, item, known, seen, displaced, shape⟩ := ((log.logs _).displaced record).1 found
      refine ⟨record.view, ⟨?_, ?_⟩, rfl⟩
      · rw [shape] at known ⊢
        exact known
      · intro other here
        rw [pathKey_summaryOf, seen] at here
        cases here
        rw [shape]
        exact displaced
  · rintro ⟨old, ⟨known, lost⟩, rfl⟩
    rw [pathKey_summaryOf] at known lost
    cases seen : observed (itemKey old) with
    | none =>
        refine .inl ⟨⟨old, 1 - round.generation⟩, ⟨log.mem_liveRows.2 (.inr ⟨seen, old, known, rfl⟩), ?_⟩, rfl⟩
        rw [ScanRound.previousGeneration, decide_eq_true_eq]
        exact log.bit_ne
    | some item =>
        have found := ((log.logs _).displaced ⟨.displacedOld, old, none⟩).2
          ⟨old, item, known, seen, lost item seen, rfl⟩
        exact .inr ⟨_, logged_of_log found, rfl⟩

theorem RoundLog.mem_candidateRows {summary : EntrySummary} :
    summary ∈ round.candidateRows ↔ ∃ item, observed summary.pathKey = some item ∧
      (round.log .candidateNew summary.pathKey).isSome = true ∧ summaryOf item = summary := by
  simp only [ScanRound.candidateRows, List.mem_map, List.mem_filter, Bool.and_eq_true, List.any_eq_true]
  constructor
  · rintro ⟨row, ⟨live, current, record, logged, here⟩, rfl⟩
    obtain ⟨item, seen, shape⟩ | ⟨-, old, -, shape⟩ := log.mem_liveRows.1 live
    · refine ⟨item, seen, ?_, ?_⟩
      · obtain ⟨-, found⟩ := mem_logged.1 logged
        rw [of_decide_eq_true here] at found
        exact Option.isSome_of_eq_some found
      · rw [shape]
    · rw [shape] at current
      simp [ScanRound.previousGeneration, log.bit_ne] at current
  · rintro ⟨item, seen, candidate, rfl⟩
    rw [pathKey_summaryOf] at seen candidate
    obtain ⟨record, found⟩ := Option.isSome_iff_exists.1 candidate
    refine ⟨⟨item, round.generation⟩, ⟨log.mem_liveRows.2 (.inl ⟨item, seen, rfl⟩), ?_, record, ?_, ?_⟩, rfl⟩
    · simp [ScanRound.previousGeneration]
    · exact logged_of_log found
    · exact decide_eq_true (operation_of_log found).2

/-- An object of a candidate lives on one path only. -/
theorem RoundLog.countP_eq_one {item : ObservedItem} {handle : FileHandle} {key : PathKey}
    (seen : observed key = some item) (carried : item.entry.fileHandle = some handle) :
    round.liveRows.countP (fun row => !round.previousGeneration row && row.fileHandle = some handle) = 1 ↔
      ∀ other found, observed other = some found → found.entry.fileHandle = some handle → other = key := by
  have here : itemKey item = key := log.keyed key item seen
  have current : ∀ row, row ∈ round.liveRows.filter
      (fun row => !round.previousGeneration row && row.fileHandle = some handle) ↔
        ∃ found, observed row.key = some found ∧ row = ⟨found, round.generation⟩ ∧
          found.entry.fileHandle = some handle := by
    intro row
    rw [List.mem_filter, log.mem_liveRows]
    constructor
    · rintro ⟨⟨found, known, shape⟩ | ⟨-, old, -, shape⟩, kept⟩
      · refine ⟨found, known, shape, ?_⟩
        rw [shape] at kept
        exact of_decide_eq_true (Bool.and_eq_true _ _ ▸ kept).2
      · rw [shape] at kept
        simp [ScanRound.previousGeneration, log.bit_ne] at kept
    · rintro ⟨found, known, rfl, handled⟩
      refine ⟨.inl ⟨found, known, rfl⟩, ?_⟩
      rw [Bool.and_eq_true]
      exact ⟨by simp [ScanRound.previousGeneration], decide_eq_true handled⟩
  have distinct : (round.liveRows.filter
      (fun row => !round.previousGeneration row && row.fileHandle = some handle)).Nodup :=
    (Lib.nodup_surviving _).filter _
  have member := (current ⟨item, round.generation⟩).2 ⟨item, by rw [← seen, ← here]; rfl, rfl, carried⟩
  rw [List.countP_eq_length_filter]
  constructor
  · intro one other found known handled
    obtain ⟨only, shape⟩ := List.length_eq_one_iff.1 one
    have at_other : itemKey found = other := log.keyed other found known
    have also := (current ⟨found, round.generation⟩).2 ⟨found, by rw [← known, ← at_other]; rfl, rfl, handled⟩
    rw [shape, List.mem_singleton] at member also
    have same : found = item := congrArg NativeScanRecord.view (also.trans member.symm)
    rw [← at_other, ← here, same]
  · intro alone
    rw [(eq_singleton_iff distinct ⟨item, round.generation⟩).2, List.length_singleton]
    intro row
    constructor
    · intro inside
      obtain ⟨found, known, shape, handled⟩ := (current row).1 inside
      have same : row.key = key := alone _ found known handled
      rw [same, seen] at known
      cases known
      exact shape
    · rintro rfl
      exact member

theorem RoundLog.unlogged {operation : OperationType} (decides : operation = .deleted ∨ operation = .rename) :
    round.logged operation = [] := by
  refine ScanRound.logged_nil fun record member same => ?_
  have known := log.operations record member
  rw [same] at known
  obtain rfl | rfl := decides
  · simp at known
  · simp at known

/-- The history holds additions of the round. -/
theorem RoundLog.history_new {row : FinalHistory} (member : row ∈ round.history) :
    ∃ record, round.log .new row.pathKey = some record ∧ row = ScanRound.historyRow record := by
  have listed : row ∈ (round.logged .new).map ScanRound.historyRow := by
    simp only [ScanRound.history, log.unlogged (.inl rfl), log.unlogged (.inr rfl), List.map_nil,
      List.append_nil] at member
    split at member
    · exact List.mem_of_mem_filter member
    · exact List.mem_of_mem_filter member
    · cases member
    · cases member
  obtain ⟨record, logged, rfl⟩ := List.mem_map.1 listed
  exact ⟨record, (mem_logged.1 logged).2, rfl⟩

theorem RoundLog.unrelated : Unrelated round.candidateRows round.history := by
  refine ⟨fun row member => ?_, fun row member => ?_⟩
  · obtain ⟨record, found, rfl⟩ := log.history_new member
    exact (operation_of_log found).1
  · rintro ⟨recorded, inside, same, -⟩
    obtain ⟨record, found, -⟩ := log.history_new inside
    obtain ⟨item, -, candidate, -⟩ := log.mem_candidateRows.1 member
    rw [same] at found
    rw [((log.logs _).new record found).2.1] at candidate
    cases candidate

theorem RoundLog.original_iff {handle : FileHandle} {key : PathKey} :
    Original round.oldRows [] handle key ↔
      ∃ old, Lost before observed key old ∧ old.entry.fileHandle = some handle := by
  constructor
  · rintro (⟨summary, member, carried, rfl⟩ | ⟨record, member, -⟩)
    · obtain ⟨old, lost, rfl⟩ := log.mem_oldRows.1 member
      exact ⟨old, lost, carried⟩
    · cases member
  · rintro ⟨old, lost, carried⟩
    have here : itemKey old = key := log.beforeKeyed key old lost.1
    refine .inl ⟨summaryOf old, log.mem_oldRows.2 ⟨old, ?_, rfl⟩, carried, here⟩
    rw [pathKey_summaryOf, here]
    exact lost

/-- Live paths are counted where they can decide. -/
theorem RoundLog.activeCounts_eq {key : PathKey} {item : ObservedItem} {handle : FileHandle}
    (seen : observed key = some item) (candidate : (round.log .candidateNew key).isSome = true)
    (carried : item.entry.fileHandle = some handle) (original : ∃ source, Original round.oldRows [] handle source) :
    round.activeCounts handle = some 1 ↔
      ∀ other found, observed other = some found → found.entry.fileHandle = some handle → other = key := by
  have here : itemKey item = key := log.keyed key item seen
  have listed : summaryOf item ∈ round.candidateRows := by
    refine log.mem_candidateRows.2 ⟨item, ?_, ?_, rfl⟩
    · rw [pathKey_summaryOf, here]
      exact seen
    · rw [pathKey_summaryOf, here]
      exact candidate
  have membership : handle ∈ round.membership := by
    obtain ⟨record, found⟩ := Option.isSome_iff_exists.1 candidate
    refine List.mem_filterMap.2 ⟨record, logged_of_log found, ?_⟩
    have view := (log.logs key).candidate record found
    rw [seen, Option.some.injEq] at view
    rw [← view, carried]
  have known : handle ∈ round.oldRows.filterMap EntrySummary.fileHandle := by
    obtain ⟨source, ⟨row, member, handled, -⟩ | ⟨row, member, -⟩⟩ := original
    · exact List.mem_filterMap.2 ⟨row, member, handled⟩
    · cases member
  have matching : (round.candidateRows.any fun row => row.fileHandle.any fun carried =>
      carried ∈ round.oldRows.filterMap EntrySummary.fileHandle ++
        (round.history.filter fun row => row.operationType = .deleted || row.operationType = .rename).filterMap
          FinalHistory.fileHandle) = true := by
    refine List.any_eq_true.2 ⟨_, listed, ?_⟩
    have summary : (summaryOf item).fileHandle = some handle := carried
    rw [summary, Option.any_some, decide_eq_true_eq]
    exact List.mem_append_left _ known
  rw [← log.countP_eq_one seen carried, ScanRound.activeCounts, if_pos matching, if_pos membership]
  split
  · next zero => simp [zero]
  · exact Option.some_inj

/-- A candidate has a lone original exactly if its object moved. -/
theorem RoundLog.lone_iff {row : EntrySummary} (member : row ∈ round.candidateRows) (source : PathKey) :
    LoneOriginal round.oldRows [] round.activeCounts row source ↔ MovedFrom before observed row.pathKey source := by
  obtain ⟨item, seen, candidate, rfl⟩ := log.mem_candidateRows.1 member
  constructor
  · rintro ⟨handle, carried, counted, originals⟩
    have alone := (log.activeCounts_eq seen candidate carried ⟨source, (originals source).2 rfl⟩).1 counted
    refine ⟨item, handle, seen, carried, fun other found known handled => alone other found known handled, ?_⟩
    intro other
    rw [← originals other, log.original_iff]
  · rintro ⟨found, handle, known, carried, alone, originals⟩
    rw [seen, Option.some.injEq] at known
    subst known
    have original : ∀ other, Original round.oldRows [] handle other ↔ other = source := by
      intro other
      rw [log.original_iff, originals other]
    refine ⟨handle, carried, ?_, original⟩
    exact (log.activeCounts_eq seen candidate carried ⟨source, (original source).2 rfl⟩).2 alone

/-- Only the candidates' objects can have moved. -/
theorem RoundLog.candidate_of_movedFrom {key source : PathKey} {item : ObservedItem}
    (arrived : Arrived before observed key item) (moved : MovedFrom before observed key source) :
    summaryOf item ∈ round.candidateRows := by
  have here : itemKey item = key := log.keyed key item arrived.1
  rw [log.mem_candidateRows, pathKey_summaryOf, here]
  refine ⟨item, arrived.1, ?_, rfl⟩
  obtain new | candidate := (log.logs key).arrived.2 ⟨item, arrived⟩
  · obtain ⟨found, handle, known, carried, -, originals⟩ := moved
    obtain ⟨row, lost, handled⟩ := (originals source).2 rfl
    obtain ⟨record, logged⟩ := Option.isSome_iff_exists.1 new
    obtain ⟨seen, -, plain⟩ := (log.logs key).new record logged
    rw [known, Option.some.injEq] at seen
    have bare := plain ⟨source, row, lost.1, Option.isSome_of_eq_some handled⟩
    rw [← seen, carried] at bare
    cases bare
  · exact candidate

theorem RoundLog.arrived_of_candidate {row : EntrySummary} (member : row ∈ round.candidateRows) :
    ∃ item, Arrived before observed row.pathKey item ∧ summaryOf item = row := by
  obtain ⟨item, seen, candidate, same⟩ := log.mem_candidateRows.1 member
  obtain ⟨found, known, arrived⟩ := (log.logs _).arrived.1 (.inr candidate)
  rw [seen, Option.some.injEq] at known
  subst known
  exact ⟨item, ⟨seen, arrived⟩, same⟩

/-- The final events of a round: candidates that moved are renamed, the others added, and
what was lost without moving is deleted. -/
theorem RoundLog.finalEvents_eq :
    ∃ events, round.finalEvents = .ok events ∧
      (∀ row, .added row ∈ events ↔ row ∈ round.candidateRows ∧
        ∀ source, ¬MovedFrom before observed row.pathKey source) ∧
      (∀ source row, .renamed source.1 source.2 row ∈ events ↔ row ∈ round.candidateRows ∧
        MovedFrom before observed row.pathKey source) ∧
      ∀ row, .deleted row ∈ events ↔ row ∈ round.oldRows ∧ ∀ target item,
        Arrived before observed target item → ¬MovedFrom before observed target row.pathKey := by
  obtain ⟨events, resolved, added, renamed, deleted⟩ :=
    @Unrelated.resolve round.oldRows _ _ round.activeCounts log.unrelated
  refine ⟨events, resolved, fun row => ?_, fun source row => ?_, fun row => ?_⟩
  · rw [added]
    exact and_congr_right fun member => forall_congr' fun source => not_congr (log.lone_iff member source)
  · rw [renamed]
    exact and_congr_right fun member => log.lone_iff member source
  · rw [deleted]
    refine and_congr_right fun _ => ⟨fun alone target item arrived moved => ?_, fun alone candidate member lone => ?_⟩
    · have candidate := log.candidate_of_movedFrom arrived moved
      have here : itemKey item = target := log.keyed target item arrived.1
      refine alone _ candidate ((log.lone_iff candidate _).2 ?_)
      rw [pathKey_summaryOf, here]
      exact moved
    · obtain ⟨item, arrived, -⟩ := log.arrived_of_candidate member
      exact alone _ item arrived ((log.lone_iff member _).1 lone)

end Outcome

end Terrasync.Scan
