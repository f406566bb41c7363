import Terrasync.Scan.BatchedRound
import Terrasync.Scan.FinalReplay

/-! What final events read of the tables of a round, as the summary they are decided on. -/

set_option autoImplicit false

namespace Terrasync.Scan

open Catalogue (BaseTable NativeScanRecord)
open Lib (latest)

namespace RoundTables

variable {tables others : RoundTables}

/-- Two summaries of the same rows and live paths. -/
structure SameEvidence (tables others : RoundTables) : Prop where
  oldRows : ∀ row, row ∈ tables.oldRows ↔ row ∈ others.oldRows
  candidates : ∀ row, row ∈ tables.candidates ↔ row ∈ others.candidates
  liveCounts : tables.liveCounts = others.liveCounts

/-- The events of a round whose history is empty. -/
theorem finalEvents_fresh (fresh : tables.history = []) :
    ∃ evidence, Evidence.Describes tables.oldRows [] evidence ∧
      tables.finalEvents = .ok (firstEvents evidence tables) := by
  have unread := readHistory_fresh fresh
  have wellFormed : ∀ row ∈ tables.readHistory, row.WellFormed := by
    rw [unread]
    exact List.forall_mem_nil _
  obtain ⟨evidence, describes, resolved⟩ :=
    resolve_eq tables.oldRows tables.candidates tables.activeCounts wellFormed
  rw [unread] at describes
  exact ⟨evidence, describes, resolved⟩

theorem SameEvidence.renamedFrom (same : SameEvidence tables others) (row : EntrySummary) (key : PathKey) :
    RenamedFrom tables row key ↔ RenamedFrom others row key := by
  have original : ∀ handle other, Original tables.oldRows [] handle other ↔
      Original others.oldRows [] handle other := by
    intro handle other
    simp only [Original, same.oldRows]
  simp only [RenamedFrom, LoneOriginal, original, same.liveCounts]

theorem SameEvidence.mem_firstEvents (same : SameEvidence tables others) (fresh : tables.history = [])
    (othersFresh : others.history = []) {first second : Evidence}
    (describes : Evidence.Describes tables.oldRows [] first)
    (again : Evidence.Describes others.oldRows [] second) {event : ScanFinalEvent}
    (member : event ∈ firstEvents first tables) : event ∈ firstEvents second others := by
  obtain ⟨row, candidate, rfl⟩ | ⟨row, left, rfl⟩ := firstEvents_cases member
  · have candidateOther := (same.candidates row).1 candidate
    have equal : first.decision tables.activeCounts row = second.decision others.activeCounts row := by
      apply decision_ext
      intro key
      rw [first_decision_iff fresh describes candidate, first_decision_iff othersFresh again candidateOther]
      exact same.renamedFrom row key
    rw [equal]
    exact announce_mem_firstEvents candidateOther
  · obtain ⟨old, unconsumed⟩ := (mem_leftBehind fresh describes row).1 left
    have leftOther := (mem_leftBehind othersFresh again row).2 ⟨(same.oldRows row).1 old,
      fun candidate member renamed => unconsumed candidate ((same.candidates candidate).2 member)
        ((same.renamedFrom candidate _).2 renamed)⟩
    exact List.mem_append_right _ (List.mem_map_of_mem leftOther)

theorem SameEvidence.symm (same : SameEvidence tables others) : SameEvidence others tables :=
  ⟨fun row => (same.oldRows row).symm, fun row => (same.candidates row).symm, same.liveCounts.symm⟩

/-- An old row is deleted, or a candidate of its handle takes its path. -/
theorem old_accounted (fresh : tables.history = []) {evidence : Evidence}
    (describes : Evidence.Describes tables.oldRows [] evidence) {old : EntrySummary}
    (member : old ∈ tables.oldRows)
    (alone : ∀ row ∈ tables.oldRows, row.pathKey = old.pathKey → row = old) :
    .deleted old ∈ firstEvents evidence tables ∨
      ∃ target, .renamed old.relativePath old.versionId target ∈ firstEvents evidence tables ∧
        target.fileHandle = old.fileHandle := by
  by_cases consumed : ∃ candidate ∈ tables.candidates, RenamedFrom tables candidate old.pathKey
  · obtain ⟨candidate, here, renamed⟩ := consumed
    refine .inr ⟨candidate, ?_, ?_⟩
    · have decided := (first_decision_iff fresh describes here old.pathKey).2 renamed
      have announced : announce candidate (evidence.decision tables.activeCounts candidate) ∈
          firstEvents evidence tables := announce_mem_firstEvents here
      rw [decided] at announced
      exact announced
    · obtain ⟨handle, carried, -, lone⟩ := renamed
      obtain ⟨row, known, handled, same⟩ | ⟨record, recorded, -⟩ := (lone old.pathKey).2 rfl
      · rw [carried, ← alone row known same, handled]
      · cases recorded
  · refine .inl (List.mem_append_right _ (List.mem_map_of_mem
      ((mem_leftBehind fresh describes old).2 ⟨member, fun candidate here renamed => consumed ⟨candidate, here, renamed⟩⟩)))

end RoundTables

namespace ScanRound

/-- What finalisation starts from. -/
def tables (round : ScanRound) : RoundTables where
  previous := (round.liveRows.filter round.previousGeneration).map fun row => summaryOf row.view
  liveCounts := fun handle =>
    match round.liveRows.countP fun row => !round.previousGeneration row && row.fileHandle = some handle with
    | 0 => none
    | count => some count
  displaced := (round.logged .displacedOld).map fun record => summaryOf record.view
  candidates := round.candidateRows
  history := (round.logged .new ++ round.logged .deleted ++ round.logged .rename).map historyRow

variable {round : ScanRound} {row : NativeScanRecord} {record : EventRecord}

theorem mem_liveRows : row ∈ round.liveRows ↔ round.base.row row.key = some row := Lib.mem_surviving

theorem mem_candidateLog :
    record ∈ round.logged .candidateNew ↔
      record.operation = .candidateNew ∧ round.candidateLog (itemKey record.view) = some record := by
  rw [logged, List.mem_filter, Lib.mem_surviving, decide_eq_true_eq, and_comm]
  refine and_congr_right fun operation => ?_
  rw [candidateLog, EventRecord.key, operation]

theorem mem_displacedLog :
    record ∈ round.logged .displacedOld ↔
      record.operation = .displacedOld ∧ round.displacedLog (itemKey record.view) = some record := by
  rw [logged, List.mem_filter, Lib.mem_surviving, decide_eq_true_eq, and_comm]
  refine and_congr_right fun operation => ?_
  rw [displacedLog, EventRecord.key, operation]

theorem logged_nil {operation : OperationType} (absent : ∀ record ∈ round.events, record.operation ≠ operation) :
    round.logged operation = [] := by
  refine List.filter_eq_nil_iff.2 fun record member same => ?_
  have known := Lib.mem_of_latest (Lib.mem_surviving.1 member)
  exact absent record known (of_decide_eq_true same)

theorem candidate_of_log {key : PathKey} (found : round.candidateLog key = some record) :
    record ∈ round.logged .candidateNew ∧ itemKey record.view = key := by
  have here := Lib.key_of_latest found
  obtain ⟨operation, same⟩ := Prod.mk.inj here
  refine ⟨mem_candidateLog.2 ⟨operation, ?_⟩, same⟩
  rw [same, found]

theorem displaced_of_log {key : PathKey} (found : round.displacedLog key = some record) :
    record ∈ round.logged .displacedOld := by
  have here := Lib.key_of_latest found
  obtain ⟨operation, same⟩ := Prod.mk.inj here
  refine mem_displacedLog.2 ⟨operation, ?_⟩
  rw [same, found]

theorem liveRows_perm {other : ScanRound} (same : ∀ key, round.base.row key = other.base.row key) :
    round.liveRows.Perm other.liveRows := by
  refine (List.perm_ext_iff_of_nodup (Lib.nodup_surviving _) (Lib.nodup_surviving _)).2 fun row => ?_
  rw [← liveRows, ← liveRows, mem_liveRows, mem_liveRows, same]

end ScanRound

section Tracked

variable {committed : BaseTable} {generation : Nat} {seen : PathKey → Option ObservedItem}
variable {round : ScanRound}

theorem Tracks.unwritten (tracks : Tracks committed generation seen round) {operation : OperationType}
    (decides : operation = .new ∨ operation = .deleted ∨ operation = .rename) :
    round.logged operation = [] := by
  refine ScanRound.logged_nil fun record member same => ?_
  have logged := tracks.operations record member
  rw [same] at logged
  obtain rfl | rfl | rfl := decides
  · simp at logged
  · simp at logged
  · simp at logged

theorem Tracks.fresh (tracks : Tracks committed generation seen round) : round.tables.history = [] := by
  rw [ScanRound.tables, tracks.unwritten (.inl rfl), tracks.unwritten (.inr (.inl rfl)),
    tracks.unwritten (.inr (.inr rfl))]
  rfl

theorem Tracks.history (tracks : Tracks committed generation seen round) : round.history = [] := by
  simp only [ScanRound.history, tracks.unwritten (.inl rfl), tracks.unwritten (.inr (.inl rfl)),
    tracks.unwritten (.inr (.inr rfl)), List.map_nil, List.append_nil, List.filter_nil]
  split
  all_goals rfl

/-- A logged candidate is a current row with the logged handle. -/
theorem Tracks.candidate_row (tracks : Tracks committed generation seen round) {record : EventRecord}
    (member : record ∈ round.logged .candidateNew) :
    ∃ item, seen (itemKey record.view) = some item ∧
      round.base.row (itemKey record.view) = some ⟨item, generation⟩ ∧
      record.view.entry.fileHandle = item.entry.fileHandle := by
  have known := tracks.candidates (itemKey record.view)
  rw [(ScanRound.mem_candidateLog.1 member).2, Option.map_some, candidateAfter, eq_comm,
    Option.bind_eq_some_iff] at known
  obtain ⟨item, observed, handle⟩ := known
  refine ⟨item, observed, by rw [tracks.rows, rowAfter, observed]; rfl, ?_⟩
  split at handle
  · cases handle
  · exact (Option.some.inj handle).symm

theorem Tracks.mem_membership (tracks : Tracks committed generation seen round) (handle : FileHandle) :
    handle ∈ round.membership ↔ handle ∈ round.tables.membership := by
  simp only [ScanRound.membership, RoundTables.membership, ScanRound.tables, List.mem_filterMap,
    ScanRound.candidateRows, List.mem_map, List.mem_filter]
  constructor
  · rintro ⟨record, member, carried⟩
    obtain ⟨item, -, found, same⟩ := tracks.candidate_row member
    have here := ScanRound.row_key found
    refine ⟨_, ⟨⟨item, generation⟩, ⟨ScanRound.mem_liveRows.2 (by rw [here, found]), ?_⟩, rfl⟩, ?_⟩
    · rw [Bool.and_eq_true, List.any_eq_true]
      refine ⟨?_, record, member, decide_eq_true here.symm⟩
      simp only [ScanRound.previousGeneration, tracks.working, ne_eq, not_true_eq_false, decide_false,
        Bool.not_false]
    · rw [← carried, same]
      rfl
  · rintro ⟨_, ⟨row, ⟨live, current⟩, rfl⟩, carried⟩
    rw [Bool.and_eq_true, List.any_eq_true] at current
    obtain ⟨-, record, member, here⟩ := current
    obtain ⟨item, -, found, same⟩ := tracks.candidate_row member
    rw [of_decide_eq_true here, ScanRound.mem_liveRows.1 live, Option.some.injEq] at found
    refine ⟨record, member, ?_⟩
    rw [same, ← carried, found]
    rfl

/-- After steady batches finalisation starts from these tables. -/
theorem Tracks.finalEvents (tracks : Tracks committed generation seen round) :
    round.finalEvents = round.tables.finalEvents := by
  have unread := readHistory_fresh tracks.fresh
  have counts : round.activeCounts = round.tables.activeCounts := by
    funext handle
    have member := tracks.mem_membership handle
    simp only [ScanRound.activeCounts, RoundTables.activeCounts, tracks.history, List.filter_nil,
      List.filterMap_nil, List.append_nil, RoundTables.originalHandles, unread, member,
      RoundTables.membership, List.any_filterMap]
    refine if_congr (iff_of_eq (congrArg (· = true) ?_)) rfl rfl
    refine congrArg (List.any round.candidateRows) (funext fun row => ?_)
    cases row.fileHandle with
    | none => rfl
    | some carried => exact (List.contains_eq_mem carried _).symm
  rw [ScanRound.finalEvents, RoundTables.finalEvents, tracks.history, unread, counts]
  rfl

theorem Tracks.logged_candidate (tracks : Tracks committed generation seen round) (key : PathKey) :
    ((round.logged .candidateNew).any fun record => itemKey record.view = key) =
      (candidateAfter committed key (seen key)).isSome := by
  rw [← tracks.candidates key, Option.isSome_map, Bool.eq_iff_iff, List.any_eq_true,
    Option.isSome_iff_exists]
  constructor
  · rintro ⟨record, member, here⟩
    rw [← of_decide_eq_true here]
    exact ⟨record, (ScanRound.mem_candidateLog.1 member).2⟩
  · rintro ⟨record, found⟩
    obtain ⟨member, here⟩ := ScanRound.candidate_of_log found
    exact ⟨record, member, decide_eq_true here⟩

theorem Tracks.tables_candidates (tracks : Tracks committed generation seen round) :
    round.tables.candidates =
      (round.liveRows.filter fun row => row.currentState = generation &&
        (candidateAfter committed row.key (seen row.key)).isSome).map fun row => summaryOf row.view := by
  simp only [ScanRound.tables, ScanRound.candidateRows, tracks.logged_candidate,
    ScanRound.previousGeneration, tracks.working, ne_eq, decide_not, Bool.not_not]

theorem Tracks.mem_displaced (tracks : Tracks committed generation seen round) (old : EntrySummary) :
    old ∈ round.tables.displaced ↔ ∃ record, displacedAfter committed old.pathKey (seen old.pathKey) = some record ∧
      summaryOf record.view = old := by
  rw [ScanRound.tables, List.mem_map]
  constructor
  · rintro ⟨record, member, rfl⟩
    refine ⟨record, ?_, rfl⟩
    rw [← tracks.displaced]
    exact (ScanRound.mem_displacedLog.1 member).2
  · rintro ⟨record, logged, same⟩
    rw [← tracks.displaced] at logged
    exact ⟨record, ScanRound.displaced_of_log logged, same⟩

/-- The last observations decide what finalisation sees. -/
theorem Tracks.sameEvidence {other : ScanRound} (tracks : Tracks committed generation seen round)
    (others : Tracks committed generation seen other) : round.tables.SameEvidence other.tables := by
  have live : round.liveRows.Perm other.liveRows :=
    ScanRound.liveRows_perm fun key => by rw [tracks.rows, others.rows]
  have previous : round.previousGeneration = other.previousGeneration := by
    funext row
    rw [ScanRound.previousGeneration, ScanRound.previousGeneration, tracks.working, others.working]
  refine ⟨fun row => ?_, fun row => ?_, funext fun handle => ?_⟩
  · rw [RoundTables.mem_oldRows, RoundTables.mem_oldRows, tracks.mem_displaced, others.mem_displaced]
    refine or_congr_left ?_
    simp only [ScanRound.tables, previous]
    exact ((live.filter _).map _).mem_iff
  · rw [tracks.tables_candidates, others.tables_candidates]
    exact ((live.filter _).map _).mem_iff
  · simp only [ScanRound.tables, previous, live.countP_eq]

theorem Tracks.finalEvents_congr {other : ScanRound} (tracks : Tracks committed generation seen round)
    (others : Tracks committed generation seen other) :
    ∃ events again, round.finalEvents = .ok events ∧ other.finalEvents = .ok again ∧
      ∀ event, event ∈ events ↔ event ∈ again := by
  obtain ⟨first, describes, resolved⟩ := RoundTables.finalEvents_fresh tracks.fresh
  obtain ⟨second, again, resolvedAgain⟩ := RoundTables.finalEvents_fresh others.fresh
  have same := tracks.sameEvidence others
  refine ⟨_, _, tracks.finalEvents.trans resolved, others.finalEvents.trans resolvedAgain, fun event => ⟨?_, ?_⟩⟩
  · exact same.mem_firstEvents tracks.fresh others.fresh describes again
  · exact same.symm.mem_firstEvents others.fresh tracks.fresh again describes

/-- A committed object whose path ends with another identity is gone or has moved. -/
theorem Tracks.lost_accounted (tracks : Tracks committed generation seen round)
    (base : Committed committed generation) {key : PathKey} {row : NativeScanRecord} {item : ObservedItem}
    (found : committed.row key = some row) (observed : seen key = some item)
    (lost : item.entry.fileHandle ≠ row.fileHandle) {events : List ScanFinalEvent}
    (resolved : round.finalEvents = .ok events) :
    .deleted (summaryOf row.view) ∈ events ∨ ∃ target, .renamed key.1 key.2 target ∈ events ∧
      target.fileHandle = row.fileHandle := by
  have here : (summaryOf row.view).pathKey = key := ScanRound.row_key found
  have logged : displacedAfter committed key (seen key) = some ⟨.displacedOld, row.view, none⟩ := by
    rw [displacedAfter, found, observed, Option.bind_some, Option.any_some, if_pos (decide_eq_true lost)]
  have old : summaryOf row.view ∈ round.tables.oldRows := by
    refine (RoundTables.mem_oldRows _ _).2 (.inr ((tracks.mem_displaced _).2 ?_))
    rw [here]
    exact ⟨_, logged, rfl⟩
  have alone : ∀ other ∈ round.tables.oldRows, other.pathKey = (summaryOf row.view).pathKey →
      other = summaryOf row.view := by
    intro other member same
    rw [here] at same
    obtain live | displaced := (RoundTables.mem_oldRows _ _).1 member
    · obtain ⟨survivor, known, rfl⟩ := List.mem_map.1 live
      obtain ⟨survives, previous⟩ := List.mem_filter.1 known
      obtain ⟨-, -, -, current⟩ | ⟨unknown, -⟩ := tracks.row_cases base (ScanRound.mem_liveRows.1 survives)
      · rw [current] at previous
        cases previous
      · have position : survivor.key = key := same
        rw [position, observed] at unknown
        cases unknown
    · obtain ⟨record, known, rfl⟩ := (tracks.mem_displaced _).1 displaced
      rw [same, logged, Option.some.injEq] at known
      rw [← known]
  obtain ⟨evidence, describes, first⟩ := RoundTables.finalEvents_fresh tracks.fresh
  rw [tracks.finalEvents, first, Except.ok.injEq] at resolved
  subst resolved
  subst here
  exact RoundTables.old_accounted tracks.fresh describes old alone

end Tracked

end Terrasync.Scan
