import Terrasync.Scan.FinalizationProperties

/-! When a replayed finalisation repeats its first run. Base rows that a completed batch
removed are missed only by candidates of another handle at the same path. -/

set_option autoImplicit false

namespace Terrasync.Scan

/-- The first run renames the candidate from this path. -/
def RenamedFrom (start : RoundTables) (row : EntrySummary) (key : PathKey) : Prop :=
  LoneOriginal start.oldRows [] start.liveCounts row key

/-- An original path of the handle that is still known once the events of `done` are
written and the base rows they replace are gone. -/
def Survives (start : RoundTables) (done : List EntrySummary) (handle : FileHandle)
    (key : PathKey) : Prop :=
  Original start.oldRows [] handle key ∧
    ((∀ row ∈ done, ¬RenamedFrom start row key) ∨
      (⟨key.1, key.2, some handle⟩ : EntrySummary) ∈ start.displaced ∨
      ∃ row ∈ done, row.fileHandle = some handle ∧ RenamedFrom start row key)

/-- However many candidates are done, a candidate that is not and whose handle is live
once has a lone surviving original exactly if it had a lone original. -/
def OriginalsSurvive (start : RoundTables) : Prop :=
  ∀ count, ∀ row ∈ start.candidates.drop count, ∀ handle, row.fileHandle = some handle →
    start.liveCounts handle = some 1 → ∀ key,
      (∀ other, Survives start (start.candidates.take count) handle other ↔ other = key) ↔
        ∀ other, Original start.oldRows [] handle other ↔ other = key

/-- All rows of a handle carry one version id. -/
def SameVersions (rows : List EntrySummary) : Prop :=
  ∀ first ∈ rows, ∀ second ∈ rows, ∀ handle, first.fileHandle = some handle →
    second.fileHandle = some handle → first.versionId = second.versionId

theorem decision_ext {first second : RecordedDecision}
    (same : ∀ key : PathKey, first = .renamed key.1 key.2 ↔ second = .renamed key.1 key.2) :
    first = second := by
  cases first with
  | added =>
      cases second with
      | added => rfl
      | renamed fromPath fromVersion => exact (same (fromPath, fromVersion)).mpr rfl
  | renamed fromPath fromVersion => exact ((same (fromPath, fromVersion)).mp rfl).symm

theorem announce_injective {row : EntrySummary} {first second : RecordedDecision}
    (same : announce row first = announce row second) : first = second := by
  apply decision_ext
  intro key
  rw [← @renameSource_announce row first, ← @renameSource_announce row second, same]

section FirstRun

variable {start : RoundTables} {evidence : Evidence}

/-- The events of the first run. -/
def firstEvents (evidence : Evidence) (start : RoundTables) : List ScanFinalEvent :=
  announcements evidence start.activeCounts start.candidates ++
    (leftBehind evidence start.activeCounts start.oldRows start.candidates).map .deleted

theorem not_decided_nil (key : PathKey) : ¬Decided [] key := by
  rintro ⟨row, member, -⟩
  exact List.not_mem_nil member

theorem readHistory_fresh (fresh : start.history = []) : start.readHistory = [] := by
  rw [List.eq_nil_iff_forall_not_mem]
  intro record read
  have recorded := RoundTables.history_of_readHistory read
  rw [fresh] at recorded
  exact List.not_mem_nil recorded

theorem first_decision_iff (fresh : start.history = [])
    (describes : Evidence.Describes start.oldRows [] evidence) {row : EntrySummary}
    (member : row ∈ start.candidates) (key : PathKey) :
    evidence.decision start.activeCounts row = .renamed key.1 key.2 ↔ RenamedFrom start row key := by
  have counted := RoundTables.lone_activeCounts start member key
  rw [readHistory_fresh fresh] at counted
  rw [decision_renamed_iff describes (not_decided_nil row.pathKey), counted]
  rfl

theorem lone_of_renamedFrom {row : EntrySummary} {handle : FileHandle} {key : PathKey}
    (carried : row.fileHandle = some handle) (renamed : RenamedFrom start row key) :
    ∀ other, Original start.oldRows [] handle other ↔ other = key := by
  obtain ⟨carrier, carries, -, lone⟩ := renamed
  rw [carried, Option.some.injEq] at carries
  rw [carries]
  exact lone

theorem version_of_renamedFrom (sameVersions : SameVersions (start.oldRows ++ start.candidates))
    {row : EntrySummary} (member : row ∈ start.candidates) {key : PathKey}
    (renamed : RenamedFrom start row key) : key.2 = row.versionId := by
  obtain ⟨handle, carried, -, lone⟩ := renamed
  cases (lone key).mpr rfl with
  | inl old =>
      obtain ⟨source, here, handled, same⟩ := old
      rw [← same]
      exact sameVersions source (List.mem_append_left _ here) row (List.mem_append_right _ member)
        handle handled carried
  | inr recorded =>
      obtain ⟨record, here, -⟩ := recorded
      exact absurd here List.not_mem_nil

theorem firstEvents_cases {event : ScanFinalEvent} (member : event ∈ firstEvents evidence start) :
    (∃ row ∈ start.candidates,
      event = announce row (evidence.decision start.activeCounts row)) ∨
    ∃ row ∈ leftBehind evidence start.activeCounts start.oldRows start.candidates,
      event = .deleted row := by
  cases List.mem_append.mp member with
  | inl announced =>
      obtain ⟨row, here, same⟩ := mem_announcements.mp announced
      exact Or.inl ⟨row, here, same.symm⟩
  | inr deleted =>
      obtain ⟨row, here, same⟩ := List.mem_map.mp deleted
      exact Or.inr ⟨row, here, same.symm⟩

theorem announce_mem_firstEvents {row : EntrySummary} (member : row ∈ start.candidates) :
    announce row (evidence.decision start.activeCounts row) ∈ firstEvents evidence start :=
  List.mem_append_left _ (mem_announcements.mpr ⟨row, member, rfl⟩)

theorem mem_leftBehind (fresh : start.history = [])
    (describes : Evidence.Describes start.oldRows [] evidence) (row : EntrySummary) :
    row ∈ leftBehind evidence start.activeCounts start.oldRows start.candidates ↔
      row ∈ start.oldRows ∧ ∀ candidate ∈ start.candidates,
        ¬RenamedFrom start candidate row.pathKey := by
  rw [leftBehind, List.mem_filter, decide_eq_true_eq, List.mem_append, not_or, describes.sources,
    List.mem_filterMap]
  constructor
  · rintro ⟨old, -, unconsumed⟩
    refine ⟨old, fun candidate member renamed => unconsumed ⟨_, mem_announcements.mpr
      ⟨candidate, member, rfl⟩, ?_⟩⟩
    rw [renameSource_announce]
    exact (first_decision_iff fresh describes member _).mpr renamed
  · rintro ⟨old, unconsumed⟩
    refine ⟨old, ?_, ?_⟩
    · rintro ⟨record, member, -⟩
      exact List.not_mem_nil member
    · rintro ⟨event, announced, source⟩
      obtain ⟨candidate, member, rfl⟩ := mem_announcements.mp announced
      rw [renameSource_announce] at source
      exact unconsumed candidate member ((first_decision_iff fresh describes member _).mp source)

/-- An event of the first run with a decision for a candidate's path is its announcement. -/
theorem firstEvent_of_decision (distinct : (start.candidates.map EntrySummary.pathKey).Nodup)
    {event : ScanFinalEvent} (member : event ∈ firstEvents evidence start)
    (decides : event.record.decision.isSome) {row : EntrySummary}
    (candidate : row ∈ start.candidates) (same : event.item.pathKey = row.pathKey) :
    event = announce row (evidence.decision start.activeCounts row) := by
  cases firstEvents_cases member with
  | inl announced =>
      obtain ⟨other, here, rfl⟩ := announced
      rw [item_announce] at same
      have equal := List.inj_on_of_nodup_map distinct here candidate same
      rw [equal]
  | inr deleted =>
      obtain ⟨other, -, rfl⟩ := deleted
      cases decides

theorem firstEvents_take {count : Nat} {row : EntrySummary}
    (later : row ∈ start.candidates.drop count) :
    (firstEvents evidence start).take count =
      (start.candidates.take count).map fun candidate =>
        announce candidate (evidence.decision start.activeCounts candidate) := by
  have short : count ≤ (announcements evidence start.activeCounts start.candidates).length := by
    rw [announcements, List.length_map]
    by_contra beyond
    rw [List.drop_eq_nil_of_le (by omega)] at later
    exact List.not_mem_nil later
  rw [firstEvents, List.take_append_of_le_length short, announcements, List.map_take]

end FirstRun

section SecondRun

variable {start stopped : RoundTables} {first second : Evidence} {count : Nat}
  {recorded : List ScanFinalEvent}

theorem readHistory_record (stop : StoppedAt start (firstEvents first start) count recorded stopped)
    {record : FinalHistory} (read : record ∈ stopped.readHistory) :
    ∃ event ∈ recorded, event.record = record := by
  have kept := RoundTables.history_of_readHistory read
  rw [stop.history] at kept
  exact List.mem_map.mp kept

theorem wellFormed_readHistory
    (stop : StoppedAt start (firstEvents first start) count recorded stopped) :
    ∀ record ∈ stopped.readHistory, record.WellFormed := by
  intro record read
  obtain ⟨event, -, rfl⟩ := readHistory_record stop read
  exact wellFormed_record event

variable (fresh : start.history = [])
  (distinct : (start.candidates.map EntrySummary.pathKey).Nodup)
  (sameVersions : SameVersions (start.oldRows ++ start.candidates))
  (describes : Evidence.Describes start.oldRows [] first)
  (again : Evidence.Describes stopped.oldRows stopped.readHistory second)
  (stop : StoppedAt start (firstEvents first start) count recorded stopped)

include fresh sameVersions describes in
theorem decision_of_announced {row : EntrySummary} (member : row ∈ start.candidates) :
    (announce row (first.decision start.activeCounts row)).record.decision =
      some (first.decision start.activeCounts row) := by
  apply decision_record
  intro key renamed
  exact version_of_renamedFrom sameVersions member
    ((first_decision_iff fresh describes member key).mp renamed)

include fresh distinct sameVersions describes again stop in
/-- A decision that is read back is the first run's. -/
theorem decision_of_decided {row : EntrySummary} (member : row ∈ stopped.candidates)
    (decided : Decided stopped.readHistory row.pathKey) :
    second.decision stopped.activeCounts row = first.decision start.activeCounts row := by
  have candidate := stop.candidates.subset member
  obtain ⟨decision, known⟩ := Option.isSome_iff_exists.mp (again.decided row.pathKey decided)
  obtain ⟨record, read, same, decides⟩ := again.decisions row.pathKey decision known
  obtain ⟨event, written, rfl⟩ := readHistory_record stop read
  have announced := firstEvent_of_decision distinct (stop.recordedEvents event written)
    (by rw [decides]; rfl) candidate same
  rw [announced, decision_of_announced fresh sameVersions describes candidate,
    Option.some.injEq] at decides
  rw [Evidence.decision, known, Option.some_or, Option.getD_some, ← decides]

theorem operation_record_announce (row : EntrySummary) (decision : RecordedDecision) :
    (announce row decision).record.operationType = .new ∨
      (announce row decision).record.operationType = .deleted ∨
        (announce row decision).record.operationType = .rename := by
  cases decision with
  | added => exact Or.inl rfl
  | renamed fromPath fromVersion => exact Or.inr (Or.inr rfl)

include fresh sameVersions describes stop in
/-- A candidate with a handle whose event was written is decided. -/
theorem decided_of_recorded {row : EntrySummary} (member : row ∈ stopped.candidates)
    {handle : FileHandle} (carried : row.fileHandle = some handle)
    (written : announce row (first.decision start.activeCounts row) ∈ recorded) :
    Decided stopped.readHistory row.pathKey := by
  have candidate := stop.candidates.subset member
  refine ⟨_, RoundTables.readHistory_of_membership ?_ ?_
    (RoundTables.mem_membership member carried)
    (operation_record_announce row (first.decision start.activeCounts row)), ?_, ?_⟩
  · rw [stop.history]
    exact List.mem_map_of_mem written
  · rw [ScanFinalEvent.record, item_announce]
    exact carried
  · rw [pathKey_record, item_announce]
  · rw [decision_of_announced fresh sameVersions describes candidate]
    rfl

include stop in
theorem drop_of_unrecorded {row : EntrySummary} (candidate : row ∈ start.candidates)
    (unwritten : announce row (first.decision start.activeCounts row) ∉ recorded) :
    row ∈ start.candidates.drop count := by
  rw [← List.take_append_drop count start.candidates, List.mem_append] at candidate
  apply candidate.resolve_left
  intro early
  apply unwritten
  apply stop.completed
  have announced : announce row (first.decision start.activeCounts row) ∈
      (announcements first start.activeCounts start.candidates).take count := by
    rw [announcements, ← List.map_take]
    exact List.mem_map_of_mem early
  rw [firstEvents, List.take_append]
  exact List.mem_append_left _ announced

include fresh describes stop in
/-- The base rows that are gone are those the completed candidates were renamed from. -/
theorem mem_previous {row : EntrySummary} (later : row ∈ start.candidates.drop count)
    (old : EntrySummary) :
    old ∈ stopped.previous ↔ old ∈ start.previous ∧
      ∀ candidate ∈ start.candidates.take count, ¬RenamedFrom start candidate old.pathKey := by
  rw [stop.previous, List.mem_filter, decide_eq_true_eq, firstEvents_take later, List.mem_filterMap]
  constructor
  · rintro ⟨here, kept⟩
    refine ⟨here, fun candidate member renamed => kept ⟨_, List.mem_map_of_mem member, ?_⟩⟩
    have decision := (first_decision_iff fresh describes (List.mem_of_mem_take member) _).mpr renamed
    rw [decision]
    rfl
  · rintro ⟨here, kept⟩
    refine ⟨here, ?_⟩
    rintro ⟨event, announced, key⟩
    obtain ⟨candidate, member, rfl⟩ := List.mem_map.mp announced
    apply kept candidate member
    rw [← first_decision_iff fresh describes (List.mem_of_mem_take member)]
    cases decision : first.decision start.activeCounts candidate with
    | added =>
        rw [decision] at key
        cases key
    | renamed fromPath fromVersion =>
        rw [decision] at key
        have same : (fromPath, fromVersion) = old.pathKey := Option.some.inj key
        rw [← same]

include fresh sameVersions describes stop in
theorem original_of_survives {row : EntrySummary} (member : row ∈ stopped.candidates)
    (later : row ∈ start.candidates.drop count)
    (displaced : stopped.displaced = start.displaced) {handle : FileHandle}
    (carried : row.fileHandle = some handle) {key : PathKey}
    (survives : Survives start (start.candidates.take count) handle key) :
    Original stopped.oldRows stopped.readHistory handle key := by
  obtain ⟨original, reason⟩ := survives
  have old : (⟨key.1, key.2, some handle⟩ : EntrySummary) ∈ start.oldRows := by
    cases original with
    | inl here =>
        obtain ⟨source, known, handled, same⟩ := here
        have equal : source = ⟨key.1, key.2, some handle⟩ := by
          rw [← handled, ← same]
          rfl
        rw [← equal]
        exact known
    | inr recorded =>
        obtain ⟨record, known, -⟩ := recorded
        exact absurd known List.not_mem_nil
  rcases reason with unconsumed | stays | ⟨candidate, done, handled, renamed⟩
  · left
    refine ⟨⟨key.1, key.2, some handle⟩, (RoundTables.mem_oldRows stopped _).mpr ?_, rfl, rfl⟩
    cases (RoundTables.mem_oldRows start _).mp old with
    | inl base => exact Or.inl ((mem_previous fresh describes stop later _).mpr ⟨base, unconsumed⟩)
    | inr stays =>
        rw [displaced]
        exact Or.inr stays
  · left
    refine ⟨⟨key.1, key.2, some handle⟩, (RoundTables.mem_oldRows stopped _).mpr (Or.inr ?_), rfl, rfl⟩
    rw [displaced]
    exact stays
  · right
    have source := List.mem_of_mem_take done
    have decision := (first_decision_iff fresh describes source key).mpr renamed
    have version := version_of_renamedFrom sameVersions source renamed
    have written : announce candidate (first.decision start.activeCounts candidate) ∈ recorded := by
      apply stop.completed
      rw [firstEvents_take later]
      exact List.mem_map_of_mem done
    rw [decision] at written
    refine ⟨(announce candidate (.renamed key.1 key.2)).record,
      RoundTables.readHistory_of_membership ?_ handled
        (RoundTables.mem_membership member carried) (Or.inr (Or.inr rfl)), handled, ?_⟩
    · rw [stop.history]
      exact List.mem_map_of_mem written
    · have same : (key.1, candidate.versionId) = key := Prod.ext rfl version.symm
      exact congrArg some same

include fresh sameVersions describes stop in
theorem survives_of_original {row : EntrySummary} (later : row ∈ start.candidates.drop count)
    (displaced : stopped.displaced = start.displaced) {handle : FileHandle} {key : PathKey}
    (original : Original stopped.oldRows stopped.readHistory handle key) :
    Survives start (start.candidates.take count) handle key ∨
      ∃ candidate ∈ start.candidates, candidate.fileHandle = some handle ∧
        RenamedFrom start candidate key ∧
        announce candidate (first.decision start.activeCounts candidate) ∈ recorded := by
  rcases original with ⟨old, known, handled, same⟩ | ⟨record, read, handled, brought⟩
  · left
    have equal : old = ⟨key.1, key.2, some handle⟩ := by
      rw [← handled, ← same]
      rfl
    cases (RoundTables.mem_oldRows stopped old).mp known with
    | inl base =>
        have left_ := (mem_previous fresh describes stop later old).mp base
        rw [same] at left_
        exact ⟨Or.inl ⟨old, (RoundTables.mem_oldRows start old).mpr (Or.inl left_.1), handled, same⟩,
          Or.inl left_.2⟩
    | inr stays =>
        rw [displaced] at stays
        refine ⟨Or.inl ⟨old, (RoundTables.mem_oldRows start old).mpr (Or.inr stays), handled, same⟩,
          Or.inr (Or.inl ?_)⟩
        rw [← equal]
        exact stays
  · obtain ⟨event, written, rfl⟩ := readHistory_record stop read
    have member := stop.recordedEvents event written
    rcases original_record brought with ⟨deleted, same⟩ | ⟨fromVersion, renamed, version⟩
    · left
      rcases firstEvents_cases member with ⟨candidate, -, announced⟩ | ⟨old, gone, rfl⟩
      · have operation := operation_announce candidate (first.decision start.activeCounts candidate)
        rw [← announced, deleted] at operation
        exact absurd rfl operation
      · obtain ⟨known, unconsumed⟩ := (mem_leftBehind fresh describes old).mp gone
        refine ⟨Or.inl ⟨old, known, handled, same⟩, Or.inl ?_⟩
        intro candidate done
        rw [← same]
        exact unconsumed candidate (List.mem_of_mem_take done)
    · right
      rcases firstEvents_cases member with ⟨candidate, here, announced⟩ | ⟨old, -, deleted⟩
      · have item : event.item = candidate := by rw [announced, item_announce]
        have source : event.renameSource = some (key.1, fromVersion) := by
          rw [renamed]
          rfl
        rw [announced, renameSource_announce] at source
        have from_ := (first_decision_iff fresh describes here _).mp source
        have sameVersion := version_of_renamedFrom sameVersions here from_
        have equal : (key.1, fromVersion) = key := by
          rw [item] at version
          exact Prod.ext rfl (sameVersion.trans version.symm)
        rw [equal] at from_
        refine ⟨candidate, here, ?_, from_, ?_⟩
        · rw [← item]
          exact handled
        · rw [← announced]
          exact written
      · rw [deleted] at renamed
        cases renamed

include fresh sameVersions describes stop in
/-- Where the originals survive, a lone original is still the lone original. -/
theorem lone_repeats (survive : OriginalsSurvive start) {row : EntrySummary}
    (member : row ∈ stopped.candidates) {handle : FileHandle}
    (carried : row.fileHandle = some handle) (live : start.liveCounts handle = some 1)
    (undecided : ¬Decided stopped.readHistory row.pathKey) (key : PathKey) :
    (∀ other, Original stopped.oldRows stopped.readHistory handle other ↔ other = key) ↔
      ∀ other, Original start.oldRows [] handle other ↔ other = key := by
  have candidate := stop.candidates.subset member
  have unwritten : announce row (first.decision start.activeCounts row) ∉ recorded :=
    fun written => undecided (decided_of_recorded fresh sameVersions describes stop member carried
      written)
  have later := drop_of_unrecorded stop candidate unwritten
  have displaced : stopped.displaced = start.displaced :=
    (stop.kept.resolve_right fun all => unwritten (all _ (announce_mem_firstEvents candidate))).2
  have counted := survive count row later handle carried live
  have known : ∀ other, Survives start (start.candidates.take count) handle other →
      Original stopped.oldRows stopped.readHistory handle other := fun other =>
    original_of_survives fresh sameVersions describes stop member later displaced carried
  have reason : ∀ other, Original stopped.oldRows stopped.readHistory handle other → _ := fun other =>
    survives_of_original fresh sameVersions describes stop later displaced
  constructor
  · intro lone
    rcases reason key ((lone key).mpr rfl) with survives | ⟨source, -, handled, renamed, -⟩
    · apply (counted key).mp
      intro other
      constructor
      · intro here
        exact (lone other).mp (known other here)
      · intro same
        rw [same]
        exact survives
    · exact lone_of_renamedFrom handled renamed
  · intro lone other
    constructor
    · intro here
      rcases reason other here with survives | ⟨source, -, handled, renamed, -⟩
      · exact (lone other).mp survives.1
      · exact (lone other).mp ((lone_of_renamedFrom handled renamed other).mpr rfl)
    · intro same
      rw [same]
      exact known key (((counted key).mpr lone key).mpr rfl)

include fresh distinct sameVersions describes again stop in
/-- Every remaining candidate is decided as in the first run. -/
theorem decision_repeats (survive : OriginalsSurvive start) {row : EntrySummary}
    (member : row ∈ stopped.candidates) :
    second.decision stopped.activeCounts row = first.decision start.activeCounts row := by
  by_cases decided : Decided stopped.readHistory row.pathKey
  · exact decision_of_decided fresh distinct sameVersions describes again stop member decided
  · have repeats : ∀ handle, row.fileHandle = some handle → start.liveCounts handle = some 1 → _ :=
      fun handle carried live =>
        lone_repeats fresh sameVersions describes stop survive member carried live decided
    apply decision_ext
    intro key
    rw [decision_renamed_iff again decided, RoundTables.lone_activeCounts stopped member,
      first_decision_iff fresh describes (stop.candidates.subset member)]
    constructor
    · rintro ⟨handle, carried, live, lone⟩
      rw [stop.liveCounts] at live
      exact ⟨handle, carried, live, (repeats handle carried live key).mp lone⟩
    · rintro ⟨handle, carried, live, lone⟩
      refine ⟨handle, carried, ?_, (repeats handle carried live key).mpr lone⟩
      rw [stop.liveCounts]
      exact live

/-- The events of the second run. -/
def againEvents (second : Evidence) (stopped : RoundTables) : List ScanFinalEvent :=
  announcements second stopped.activeCounts stopped.candidates ++
    (leftBehind second stopped.activeCounts stopped.oldRows stopped.candidates).map .deleted

theorem finalEvents_stopped
    (stop : StoppedAt start (firstEvents first start) count recorded stopped) :
    ∃ second, Evidence.Describes stopped.oldRows stopped.readHistory second ∧
      stopped.finalEvents = .ok (againEvents second stopped) :=
  resolve_eq stopped.oldRows stopped.candidates stopped.activeCounts (wellFormed_readHistory stop)

include stop in
theorem oldRows_subset {row : EntrySummary} (left : row ∈ stopped.oldRows) : row ∈ start.oldRows := by
  rw [RoundTables.mem_oldRows] at left ⊢
  cases left with
  | inl base =>
      rw [stop.previous] at base
      exact Or.inl (List.mem_of_mem_filter base)
  | inr displaced => exact Or.inr (stop.displaced.subset displaced)

include fresh sameVersions describes again stop in
/-- Rows the second run leaves behind were left behind by the first. -/
theorem leftBehind_repeats
    (repeats : ∀ row ∈ stopped.candidates,
      second.decision stopped.activeCounts row = first.decision start.activeCounts row)
    {old : EntrySummary}
    (left : old ∈ leftBehind second stopped.activeCounts stopped.oldRows stopped.candidates) :
    old ∈ leftBehind first start.activeCounts start.oldRows start.candidates := by
  rw [leftBehind, List.mem_filter, decide_eq_true_eq, List.mem_append, not_or, again.sources,
    List.mem_filterMap] at left
  obtain ⟨known, unrecorded, unannounced⟩ := left
  refine (mem_leftBehind fresh describes old).mpr ⟨oldRows_subset stop known, ?_⟩
  intro candidate member renamed
  have decision := (first_decision_iff fresh describes member old.pathKey).mpr renamed
  by_cases written : announce candidate (first.decision start.activeCounts candidate) ∈ recorded
  · -- its rename was recorded, and is read while the row is left
    apply unrecorded
    have version := version_of_renamedFrom sameVersions member renamed
    rw [decision] at written
    have kept : (announce candidate (.renamed old.pathKey.1 old.pathKey.2)).record ∈
        stopped.history := by
      rw [stop.history]
      exact List.mem_map_of_mem written
    have same : (old.pathKey.1, candidate.versionId) = old.pathKey := Prod.ext rfl version.symm
    exact ⟨_, RoundTables.readHistory_of_rename kept known rfl, congrArg some same⟩
  · have kept := stop.kept.resolve_right fun all =>
      written (all _ (announce_mem_firstEvents member))
    rw [← kept.1] at member
    apply unannounced
    refine ⟨_, mem_announcements.mpr ⟨candidate, member, rfl⟩, ?_⟩
    rw [renameSource_announce, repeats candidate member]
    exact decision

include fresh sameVersions describes again in
/-- Rows the first run left behind and that still stand are left behind again. -/
theorem leftBehind_again
    (stop : StoppedAt start (firstEvents first start) count recorded stopped)
    (repeats : ∀ row ∈ stopped.candidates,
      second.decision stopped.activeCounts row = first.decision start.activeCounts row)
    {old : EntrySummary}
    (left : old ∈ leftBehind first start.activeCounts start.oldRows start.candidates)
    (known : old ∈ stopped.oldRows) :
    old ∈ leftBehind second stopped.activeCounts stopped.oldRows stopped.candidates := by
  have unconsumed := ((mem_leftBehind fresh describes old).mp left).2
  rw [leftBehind, List.mem_filter, decide_eq_true_eq, List.mem_append, not_or, again.sources,
    List.mem_filterMap]
  refine ⟨known, ?_, ?_⟩
  · rintro ⟨record, read, source⟩
    obtain ⟨event, written, rfl⟩ := readHistory_record stop read
    obtain ⟨fromVersion, renamed, version⟩ := source_record source
    rcases firstEvents_cases (stop.recordedEvents event written) with
      ⟨candidate, member, announced⟩ | ⟨other, -, deleted⟩
    · have item : event.item = candidate := by rw [announced, item_announce]
      have announcedSource : event.renameSource = some (old.pathKey.1, fromVersion) := by
        rw [renamed]
        rfl
      rw [announced, renameSource_announce] at announcedSource
      have from_ := (first_decision_iff fresh describes member _).mp announcedSource
      have same := version_of_renamedFrom sameVersions member from_
      rw [item] at version
      have equal : (old.pathKey.1, fromVersion) = old.pathKey :=
        Prod.ext rfl (same.trans version.symm)
      rw [equal] at from_
      exact unconsumed candidate member from_
    · rw [deleted] at renamed
      cases renamed
  · rintro ⟨event, announced, source⟩
    obtain ⟨candidate, member, rfl⟩ := mem_announcements.mp announced
    rw [renameSource_announce, repeats candidate member] at source
    have original := stop.candidates.subset member
    exact unconsumed candidate original ((first_decision_iff fresh describes original _).mp source)

/-- Every deletion of the first run is recorded with the same facts or repeated. -/
theorem deletion_repeats {old : EntrySummary}
    (left : old ∈ leftBehind first start.activeCounts start.oldRows start.candidates)
    (fresh : start.history = []) (describes : Evidence.Describes start.oldRows [] first)
    (stop : StoppedAt start (firstEvents first start) count recorded stopped) :
    old ∈ stopped.oldRows ∨ ∃ event ∈ recorded,
      event.record.facts = (ScanFinalEvent.deleted old).record.facts := by
  obtain ⟨known, unconsumed⟩ := (mem_leftBehind fresh describes old).mp left
  have deletion : ScanFinalEvent.deleted old ∈ firstEvents first start :=
    List.mem_append_right _ (List.mem_map_of_mem left)
  by_cases all : ∀ event ∈ firstEvents first start, event ∈ recorded
  · exact Or.inr ⟨_, all _ deletion, rfl⟩
  · have displaced := (stop.kept.resolve_right all).2
    cases (RoundTables.mem_oldRows start old).mp known with
    | inr stays =>
        left
        rw [RoundTables.mem_oldRows, displaced]
        exact Or.inr stays
    | inl base =>
        by_cases gone : old.pathKey ∈ ((firstEvents first start).take count).filterMap
            ScanFinalEvent.deletionKey
        · right
          obtain ⟨event, done, key⟩ := List.mem_filterMap.mp gone
          rcases firstEvents_cases (List.mem_of_mem_take done) with
            ⟨candidate, member, announced⟩ | ⟨other, -, rfl⟩
          · exfalso
            apply unconsumed candidate member
            rw [← first_decision_iff fresh describes member]
            rw [announced] at key
            cases decision : first.decision start.activeCounts candidate with
            | added =>
                rw [decision] at key
                cases key
            | renamed fromPath fromVersion =>
                rw [decision] at key
                have same : (fromPath, fromVersion) = old.pathKey := Option.some.inj key
                rw [← same]
          · have same : other.pathKey = old.pathKey := Option.some.inj key
            refine ⟨_, stop.completed _ done, ?_⟩
            have path : other.relativePath = old.relativePath := congrArg Prod.fst same
            have version : other.versionId = old.versionId := congrArg Prod.snd same
            simp only [FinalHistory.facts, ScanFinalEvent.record, ScanFinalEvent.item, path, version,
              ScanFinalEvent.operation, ScanFinalEvent.previousPath]
        · left
          rw [RoundTables.mem_oldRows, stop.previous, List.mem_filter]
          exact Or.inl ⟨base, by simpa using gone⟩

include fresh sameVersions describes again in
/-- With every remaining decision repeated, the second run completes the first. -/
theorem stable_of_repeats
    (stop : StoppedAt start (firstEvents first start) count recorded stopped)
    (repeats : ∀ row ∈ stopped.candidates,
      second.decision stopped.activeCounts row = first.decision start.activeCounts row) :
    ReplayStable start (firstEvents first start) stopped (againEvents second stopped) := by
  have repeated : ∀ event ∈ againEvents second stopped, event ∈ firstEvents first start := by
    intro event member
    cases List.mem_append.mp member with
    | inl announced =>
        obtain ⟨row, here, rfl⟩ := mem_announcements.mp announced
        rw [repeats row here]
        exact announce_mem_firstEvents (stop.candidates.subset here)
    | inr deleted =>
        obtain ⟨old, here, rfl⟩ := List.mem_map.mp deleted
        exact List.mem_append_right _ (List.mem_map_of_mem
          (leftBehind_repeats fresh sameVersions describes again stop repeats here))
  constructor
  · exact repeated
  · intro row member
    refine ⟨_, List.mem_append_left _ (mem_announcements.mpr ⟨row, member, rfl⟩),
      operation_announce _ _, item_announce _ _⟩
  · intro facts
    rw [stop.history, fresh, List.nil_append, ← List.map_append, List.map_map, List.map_map,
      List.mem_map, List.mem_map]
    constructor
    · rintro ⟨event, member, rfl⟩
      cases List.mem_append.mp member with
      | inl written => exact ⟨event, stop.recordedEvents event written, rfl⟩
      | inr later => exact ⟨event, repeated event later, rfl⟩
    · rintro ⟨event, member, rfl⟩
      rcases firstEvents_cases member with ⟨row, candidate, rfl⟩ | ⟨old, left, rfl⟩
      · by_cases written : announce row (first.decision start.activeCounts row) ∈ recorded
        · exact ⟨_, List.mem_append_left _ written, rfl⟩
        · have kept := stop.kept.resolve_right fun all =>
            written (all _ (announce_mem_firstEvents candidate))
          rw [← kept.1] at candidate
          refine ⟨_, List.mem_append_right _ (List.mem_append_left _
            (mem_announcements.mpr ⟨row, candidate, ?_⟩)), rfl⟩
          rw [repeats row candidate]
      · rcases deletion_repeats left fresh describes stop with known | ⟨event, written, same⟩
        · refine ⟨_, List.mem_append_right _ (List.mem_append_right _ (List.mem_map_of_mem
            (leftBehind_again fresh sameVersions describes again stop repeats left known))), rfl⟩
        · exact ⟨event, List.mem_append_left _ written, same⟩

include fresh distinct sameVersions describes again in
/-- A stop right after whole batches shows whether an open candidate's originals survive. -/
theorem survive_of_repeats
    (stop : StoppedAt start (firstEvents first start) count
      ((firstEvents first start).take count) stopped)
    (displaced : stopped.displaced = start.displaced) {row : EntrySummary}
    (later : row ∈ start.candidates.drop count) (member : row ∈ stopped.candidates)
    (repeats : second.decision stopped.activeCounts row = first.decision start.activeCounts row)
    {handle : FileHandle} (carried : row.fileHandle = some handle)
    (live : start.liveCounts handle = some 1) (key : PathKey) :
    (∀ other, Survives start (start.candidates.take count) handle other ↔ other = key) ↔
      ∀ other, Original start.oldRows [] handle other ↔ other = key := by
  have candidate := List.mem_of_mem_drop later
  have unwritten : announce row (first.decision start.activeCounts row) ∉
      (firstEvents first start).take count := by
    intro written
    rw [firstEvents_take later] at written
    obtain ⟨other, early, same⟩ := List.mem_map.mp written
    have item := congrArg ScanFinalEvent.item same
    rw [item_announce, item_announce] at item
    rw [item] at early
    exact List.disjoint_take_drop distinct.of_map (Nat.le_refl count) early later
  have undecided : ¬Decided stopped.readHistory row.pathKey := by
    rintro ⟨record, read, same, decides⟩
    obtain ⟨event, written, rfl⟩ := readHistory_record stop read
    have announced := firstEvent_of_decision distinct (stop.recordedEvents event written) decides
      candidate same
    rw [announced] at written
    exact unwritten written
  have survives : ∀ other, Original stopped.oldRows stopped.readHistory handle other ↔
      Survives start (start.candidates.take count) handle other := by
    intro other
    constructor
    · intro original
      rcases survives_of_original fresh sameVersions describes stop later displaced original with
        here | ⟨source, here, handled, renamed, written⟩
      · exact here
      · rw [firstEvents_take later] at written
        obtain ⟨done, early, same⟩ := List.mem_map.mp written
        have item := congrArg ScanFinalEvent.item same
        rw [item_announce, item_announce] at item
        rw [item] at early
        exact ⟨(lone_of_renamedFrom handled renamed other).mpr rfl,
          Or.inr (Or.inr ⟨source, early, handled, renamed⟩)⟩
    · exact original_of_survives fresh sameVersions describes stop member later displaced carried
  have decisions : LoneOriginal stopped.oldRows stopped.readHistory stopped.liveCounts row key ↔
      RenamedFrom start row key := by
    rw [← RoundTables.lone_activeCounts stopped member, ← decision_renamed_iff again undecided,
      repeats, first_decision_iff fresh describes candidate]
  simp only [← survives]
  have lone : ∀ (old : List EntrySummary) (history : List FinalHistory) (counts : FileHandle → Option Nat),
      counts handle = some 1 → (LoneOriginal old history counts row key ↔
        ∀ other, Original old history handle other ↔ other = key) := by
    intro old history counts once
    constructor
    · rintro ⟨carrier, carries, -, lone⟩
      rw [carried, Option.some.injEq] at carries
      rw [carries]
      exact lone
    · exact fun lone => ⟨handle, carried, once, lone⟩
  rw [← lone _ _ stopped.liveCounts (by rw [stop.liveCounts]; exact live), decisions]
  exact lone _ _ _ live

end SecondRun

/-- The first run succeeds, and every interruption of it is replayed to the same end
exactly when the originals of open candidates survive the completed batches. -/
theorem final_events_replay_iff (start : RoundTables) (fresh : start.history = [])
    (distinct : (start.candidates.map EntrySummary.pathKey).Nodup)
    (sameVersions : SameVersions (start.oldRows ++ start.candidates)) :
    ∃ events, start.finalEvents = .ok events ∧
      ((∀ batchSize, 1 ≤ batchSize → ∀ interrupted, Interrupted batchSize start events interrupted →
        ∃ again, interrupted.finalEvents = .ok again ∧
          ReplayStable start events interrupted again) ↔ OriginalsSurvive start) := by
  have unread : ∀ row ∈ start.readHistory, row.WellFormed := by
    rw [readHistory_fresh fresh]
    exact fun row member => absurd member List.not_mem_nil
  obtain ⟨first, describes, resolved⟩ :=
    resolve_eq start.oldRows start.candidates start.activeCounts unread
  rw [readHistory_fresh fresh] at describes
  refine ⟨firstEvents first start, resolved, ?_, ?_⟩
  · intro stable count row later handle carried live key
    let stopped := (start.flushFinalEvents ((firstEvents first start).take (count * 1))).writeFinalEvents []
    obtain ⟨again, finished, replay⟩ := stable 1 (Nat.le_refl 1) stopped
      (.duringBatches count [] (List.nil_sublist _))
    have stop : StoppedAt start (firstEvents first start) count
        ((firstEvents first start).take count) stopped := by
      constructor
      · simp [stopped, RoundTables.writeFinalEvents, RoundTables.flushFinalEvents,
          RoundTables.deleteResumeEntries, fresh]
      · exact fun event member => List.mem_of_mem_take member
      · exact fun event member => member
      · simp [stopped, RoundTables.writeFinalEvents, RoundTables.flushFinalEvents,
          RoundTables.deleteResumeEntries]
      · rfl
      · exact List.Sublist.refl _
      · exact List.Sublist.refl _
      · exact Or.inl ⟨rfl, rfl⟩
    obtain ⟨second, described, same⟩ := finalEvents_stopped stop
    have events : again = againEvents second stopped := Except.ok.inj (finished.symm.trans same)
    rw [events] at replay
    have candidate := List.mem_of_mem_drop later
    have repeats : second.decision stopped.activeCounts row =
        first.decision start.activeCounts row := by
      have announced := replay.repeated _
        (List.mem_append_left _ (mem_announcements.mpr ⟨row, candidate, rfl⟩))
      rcases firstEvents_cases announced with ⟨other, here, equal⟩ | ⟨old, -, equal⟩
      · have item := congrArg ScanFinalEvent.item equal
        rw [item_announce, item_announce] at item
        rw [← item] at equal
        exact announce_injective equal
      · have operation := operation_announce row (second.decision stopped.activeCounts row)
        rw [equal] at operation
        exact absurd rfl operation
    exact survive_of_repeats fresh distinct sameVersions describes described stop rfl later candidate
      repeats carried live key
  · intro survive batchSize _ interrupted stop
    obtain ⟨count, recorded, stopped⟩ := stop.stoppedAt fresh
    obtain ⟨second, described, same⟩ := finalEvents_stopped stopped
    refine ⟨_, same, stable_of_repeats fresh sameVersions describes described stopped ?_⟩
    intro row member
    exact decision_repeats fresh distinct sameVersions describes described stopped survive member

/-- With one handle for each path and version, whoever was renamed from an original of
the handle carries the handle itself. -/
theorem OneHandle.originalsSurvive {start : RoundTables} (oneHandle : OneHandle start.oldRows []) :
    OriginalsSurvive start := by
  intro count row _ handle _ _ key
  have survives : ∀ other, Survives start (start.candidates.take count) handle other ↔
      Original start.oldRows [] handle other := by
    intro other
    refine ⟨fun survivor => survivor.1, fun original => ⟨original, ?_⟩⟩
    by_cases renamed : ∃ source ∈ start.candidates.take count, RenamedFrom start source other
    · obtain ⟨source, done, from_⟩ := renamed
      obtain ⟨carrier, carried, -, lone⟩ := id from_
      rw [oneHandle carrier handle other ((lone other).mpr rfl) original] at carried
      exact Or.inr (Or.inr ⟨source, done, carried, from_⟩)
    · exact Or.inl fun source done from_ => renamed ⟨source, done, from_⟩
  simp only [survives]

/-- Where every path and version has one handle, every interruption of the first run is
replayed to the same end. -/
theorem final_events_replay (start : RoundTables) (fresh : start.history = [])
    (distinct : (start.candidates.map EntrySummary.pathKey).Nodup)
    (sameVersions : SameVersions (start.oldRows ++ start.candidates))
    (oneHandle : OneHandle start.oldRows []) :
    ∃ events, start.finalEvents = .ok events ∧
      ∀ batchSize, 1 ≤ batchSize → ∀ interrupted, Interrupted batchSize start events interrupted →
        ∃ again, interrupted.finalEvents = .ok again ∧ ReplayStable start events interrupted again := by
  obtain ⟨events, resolved, stable⟩ := final_events_replay_iff start fresh distinct sameVersions
  exact ⟨events, resolved, stable.mpr oneHandle.originalsSurvive⟩

/-- Before the first run: two files moved, one of them displaced at its old path, one
gone and one new. -/
def twoMoves : RoundTables where
  previous := [⟨['o'], [], some ['1']⟩, ⟨['g'], [], some ['2']⟩]
  liveCounts := fun handle => if handle = ['1'] ∨ handle = ['3'] then some 1 else none
  displaced := [⟨['w'], [], some ['3']⟩]
  candidates := [⟨['n'], [], some ['1']⟩, ⟨['w'], [], none⟩, ⟨['v'], [], some ['3']⟩]
  history := []

theorem final_events_replay_twoMoves :
    ∃ events, twoMoves.finalEvents = .ok events ∧
      ∀ batchSize, 1 ≤ batchSize → ∀ interrupted, Interrupted batchSize twoMoves events interrupted →
        ∃ again, interrupted.finalEvents = .ok again ∧ ReplayStable twoMoves events interrupted again := by
  refine final_events_replay twoMoves rfl (by decide) ?_ ?_
  · intro first firstMember second secondMember handle _ _
    have versions : ∀ row ∈ twoMoves.oldRows ++ twoMoves.candidates, row.versionId = [] := by decide
    rw [versions first firstMember, versions second secondMember]
  · have rows : twoMoves.oldRows =
        [⟨['o'], [], some ['1']⟩, ⟨['g'], [], some ['2']⟩, ⟨['w'], [], some ['3']⟩] := rfl
    intro first second key known other
    simp only [rows, Original, EntrySummary.pathKey, List.mem_cons, List.not_mem_nil, or_false,
      exists_eq_or_imp, exists_eq_left, false_and, exists_false, Option.some.injEq] at known other
    grind

/-- Handles `1` and `2` were both known at `p`: the base row of the first, a displaced
row of the second. They moved to `b` and `a`. -/
def sharedPath : RoundTables where
  previous := [⟨['p'], [], some ['1']⟩]
  liveCounts := fun handle => if handle = ['1'] ∨ handle = ['2'] then some 1 else none
  displaced := [⟨['p'], [], some ['2']⟩]
  candidates := [⟨['a'], [], some ['2']⟩, ⟨['b'], [], some ['1']⟩]
  history := []

/-- A crash after the first batch of one event: the base row of `p` is gone, and `b` is
announced as added although the first run had it renamed from `p`. -/
theorem shared_path_drifts_on_replay :
    ¬∀ start : RoundTables, start.history = [] →
      (start.candidates.map EntrySummary.pathKey).Nodup →
      SameVersions (start.oldRows ++ start.candidates) →
      ∃ events, start.finalEvents = .ok events ∧
        ∀ batchSize, 1 ≤ batchSize → ∀ interrupted,
          Interrupted batchSize start events interrupted →
            ∃ again, interrupted.finalEvents = .ok again ∧
              ReplayStable start events interrupted again := by
  intro claim
  have versions : ∀ row ∈ sharedPath.oldRows ++ sharedPath.candidates, row.versionId = [] := by
    decide
  obtain ⟨events, resolved, stable⟩ := claim sharedPath rfl (by decide) (by
    intro first firstMember second secondMember handle _ _
    rw [versions first firstMember, versions second secondMember])
  have first : events = [.renamed ['p'] [] ⟨['a'], [], some ['2']⟩,
      .renamed ['p'] [] ⟨['b'], [], some ['1']⟩] := by
    cases resolved
    rfl
  rw [first] at stable
  obtain ⟨again, finished, replay⟩ := stable 1 (Nat.le_refl 1) _
    (.duringBatches 1 [] (List.nil_sublist _))
  have drifted : ScanFinalEvent.added ⟨['b'], [], some ['1']⟩ ∈ again := by
    cases finished
    decide
  exact absurd (replay.repeated _ drifted) (by decide)

end Terrasync.Scan
