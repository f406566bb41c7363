import Mathlib.Data.List.Perm.Basic
import Mathlib.Data.List.Count
import Terrasync.Scan.FinalEvidence

/-! Final events account for every candidate and every old row. What can go wrong is a
path that two handles claim: both may be renamed from it. -/

set_option autoImplicit false

namespace Terrasync.Scan

/-- A candidate whose handle is live once and had one original path. -/
def LoneOriginal (old : List EntrySummary) (history : List FinalHistory)
    (activeCounts : FileHandle → Option Nat) (row : EntrySummary) (key : PathKey) : Prop :=
  ∃ handle, row.fileHandle = some handle ∧ activeCounts handle = some 1 ∧
    ∀ other, Original old history handle other ↔ other = key

/-- The events account for candidates and old rows. -/
structure Conserves (old candidates : List EntrySummary) (history : List FinalHistory)
    (activeCounts : FileHandle → Option Nat) (events : List ScanFinalEvent) : Prop where
  candidateOnce : ∀ row ∈ candidates,
    events.countP (fun event => event.operation ≠ .deleted ∧ event.item = row) = 1
  candidatesOnly : ∀ event ∈ events, event.operation ≠ .deleted → event.item ∈ candidates
  oldOnce : ∀ row ∈ old,
    (events.count (.deleted row) = 1 ∧ ¬RecordedSource history row.pathKey ∧
      ∀ event ∈ events, event.renameSource ≠ some row.pathKey) ∨
    (events.count (.deleted row) = 0 ∧ (RecordedSource history row.pathKey ∨
      ∃ event ∈ events, event.renameSource = some row.pathKey))
  inferredUnambiguous : ∀ fromPath fromVersion target,
    ScanFinalEvent.renamed fromPath fromVersion target ∈ events →
      ¬Decided history target.pathKey →
        LoneOriginal old history activeCounts target (fromPath, fromVersion)
  sourcesDistinct : ∀ first ∈ events, ∀ second ∈ events, ∀ key,
    first.renameSource = some key → second.renameSource = some key →
      first = second ∨ RecordedSource history key

/-- No path and version is the only original of two undecided candidates, unless a
recorded rename already left it. -/
def OriginalsApart (old candidates : List EntrySummary) (history : List FinalHistory)
    (activeCounts : FileHandle → Option Nat) : Prop :=
  ∀ first ∈ candidates, ∀ second ∈ candidates, first ≠ second →
    ¬Decided history first.pathKey → ¬Decided history second.pathKey →
      ∀ key, LoneOriginal old history activeCounts first key →
        LoneOriginal old history activeCounts second key → RecordedSource history key

theorem item_announce (row : EntrySummary) (decision : RecordedDecision) :
    (announce row decision).item = row := by
  cases decision with
  | added => rfl
  | renamed fromPath fromVersion => rfl

theorem operation_announce (row : EntrySummary) (decision : RecordedDecision) :
    (announce row decision).operation ≠ .deleted := by
  cases decision with
  | added => exact OperationType.noConfusion
  | renamed fromPath fromVersion => exact OperationType.noConfusion

theorem renameSource_announce {row : EntrySummary} {decision : RecordedDecision} {key : PathKey} :
    (announce row decision).renameSource = some key ↔ decision = .renamed key.1 key.2 := by
  cases decision with
  | added => simp [announce, ScanFinalEvent.renameSource]
  | renamed fromPath fromVersion =>
      simp [announce, ScanFinalEvent.renameSource, Prod.ext_iff]

theorem eq_singleton_iff {Item : Type} {items : List Item} (distinct : items.Nodup) (item : Item) :
    items = [item] ↔ ∀ other, other ∈ items ↔ other = item := by
  constructor
  · intro same other
    rw [same, List.mem_singleton]
  · intro members
    apply List.perm_singleton.mp
    rw [List.perm_ext_iff_of_nodup distinct (List.nodup_singleton item)]
    intro other
    rw [members, List.mem_singleton]

section Resolution

variable {old candidates : List EntrySummary} {history : List FinalHistory}
  {activeCounts : FileHandle → Option Nat} {evidence : Evidence}

def announcements (evidence : Evidence) (activeCounts : FileHandle → Option Nat)
    (candidates : List EntrySummary) : List ScanFinalEvent :=
  candidates.map fun row => announce row (evidence.decision activeCounts row)

/-- The old rows no rename consumed. -/
def leftBehind (evidence : Evidence) (activeCounts : FileHandle → Option Nat)
    (old candidates : List EntrySummary) : List EntrySummary :=
  old.filter fun row => row.pathKey ∉ evidence.renamedSources ++
    (announcements evidence activeCounts candidates).filterMap ScanFinalEvent.renameSource

theorem resolve_eq (old candidates : List EntrySummary)
    (activeCounts : FileHandle → Option Nat) (wellFormed : ∀ row ∈ history, row.WellFormed) :
    ∃ evidence, Evidence.Describes old history evidence ∧
      resolveFinalEvents old candidates history activeCounts =
        .ok (announcements evidence activeCounts candidates ++
          (leftBehind evidence activeCounts old candidates).map ScanFinalEvent.deleted) := by
  obtain ⟨evidence, gathered, describes⟩ := Evidence.gather old wellFormed
  refine ⟨evidence, describes, ?_⟩
  unfold resolveFinalEvents
  rw [gathered]
  rfl

theorem mem_announcements {event : ScanFinalEvent} :
    event ∈ announcements evidence activeCounts candidates ↔
      ∃ row ∈ candidates, announce row (evidence.decision activeCounts row) = event :=
  List.mem_map

theorem announced_of_not_deleted {event : ScanFinalEvent} {kept : List EntrySummary}
    (member : event ∈ announcements evidence activeCounts candidates ++ kept.map ScanFinalEvent.deleted)
    (announced : event.operation ≠ .deleted) :
    event ∈ announcements evidence activeCounts candidates := by
  cases List.mem_append.mp member with
  | inl here => exact here
  | inr there =>
      obtain ⟨row, -, rfl⟩ := List.mem_map.mp there
      exact absurd rfl announced

theorem announced_of_renameSource {event : ScanFinalEvent} {kept : List EntrySummary}
    (member : event ∈ announcements evidence activeCounts candidates ++ kept.map ScanFinalEvent.deleted)
    {key : PathKey} (source : event.renameSource = some key) :
    event ∈ announcements evidence activeCounts candidates := by
  apply announced_of_not_deleted member
  intro deleted
  cases event with
  | added row => cases source
  | deleted row => cases source
  | renamed fromPath fromVersion target => cases deleted

theorem inferred_iff (describes : Evidence.Describes old history evidence) {row : EntrySummary}
    {key : PathKey} :
    evidence.inferred activeCounts row = some (.renamed key.1 key.2) ↔
      LoneOriginal old history activeCounts row key := by
  unfold Evidence.inferred LoneOriginal
  cases carried : row.fileHandle with
  | none => simp
  | some handle =>
      simp only [Option.bind_some, Option.some.injEq, exists_eq_left']
      have lone := eq_singleton_iff (describes.distinct handle) key
      simp only [describes.originals] at lone
      rw [← lone]
      constructor
      · intro inferred
        split at inferred
        · rename_i path version same
          split at inferred
          · rename_i live
            cases inferred
            exact ⟨live, same⟩
          · cases inferred
        · cases inferred
      · rintro ⟨live, same⟩
        rw [same]
        simp [live]

theorem decisions_eq_none (describes : Evidence.Describes old history evidence) {key : PathKey}
    (undecided : ¬Decided history key) : evidence.decisions key = none := by
  cases known : evidence.decisions key with
  | none => rfl
  | some decision =>
      obtain ⟨row, member, same, decides⟩ := describes.decisions key decision known
      exact absurd ⟨row, member, same, by rw [decides]; rfl⟩ undecided

/-- Without a record, the inference alone decides. -/
theorem decision_renamed_iff (describes : Evidence.Describes old history evidence)
    {row : EntrySummary} (undecided : ¬Decided history row.pathKey) {key : PathKey} :
    evidence.decision activeCounts row = .renamed key.1 key.2 ↔
      LoneOriginal old history activeCounts row key := by
  rw [← inferred_iff describes, Evidence.decision, decisions_eq_none describes undecided,
    Option.none_or]
  cases inferred : evidence.inferred activeCounts row with
  | none => simp
  | some decision => simp

/-- A recorded decision to rename names a recorded source. -/
theorem recordedSource_of_decided (describes : Evidence.Describes old history evidence)
    {row : EntrySummary} (decided : Decided history row.pathKey) {key : PathKey}
    (renamed : evidence.decision activeCounts row = .renamed key.1 key.2) :
    RecordedSource history key := by
  obtain ⟨decision, known⟩ := Option.isSome_iff_exists.mp (describes.decided row.pathKey decided)
  rw [Evidence.decision, known, Option.some_or, Option.getD_some] at renamed
  rw [renamed] at known
  obtain ⟨record, member, -, decides⟩ := describes.decisions row.pathKey _ known
  refine ⟨record, member, ?_⟩
  cases operation : record.operationType with
  | rename =>
      simp only [FinalHistory.decision, operation, Option.map_eq_some_iff,
        RecordedDecision.renamed.injEq] at decides
      obtain ⟨fromPath, comment, rfl, version⟩ := decides
      simp [FinalHistory.source, operation, comment, version]
  | new => simp [FinalHistory.decision, operation] at decides
  | changed => simp [FinalHistory.decision, operation] at decides
  | deleted => simp [FinalHistory.decision, operation] at decides
  | candidateNew => simp [FinalHistory.decision, operation] at decides
  | displacedOld => simp [FinalHistory.decision, operation] at decides

theorem candidate_once (distinct : candidates.Nodup) {row : EntrySummary}
    (member : row ∈ candidates) (kept : List EntrySummary) :
    (announcements evidence activeCounts candidates ++ kept.map ScanFinalEvent.deleted).countP
      (fun event : ScanFinalEvent => event.operation ≠ .deleted ∧ event.item = row) = 1 := by
  have deletions : (kept.map ScanFinalEvent.deleted).countP
      (fun event : ScanFinalEvent => event.operation ≠ .deleted ∧ event.item = row) = 0 := by
    rw [List.countP_eq_zero]
    intro event member
    obtain ⟨other, -, rfl⟩ := List.mem_map.mp member
    simp [ScanFinalEvent.operation]
  have announced : (announcements evidence activeCounts candidates).countP
      (fun event : ScanFinalEvent => event.operation ≠ .deleted ∧ event.item = row) =
        candidates.count row := by
    rw [announcements, List.countP_map, List.count]
    apply List.countP_congr
    intro other _
    simp [item_announce, operation_announce]
  rw [List.countP_append, announced, deletions, List.count_eq_one_of_mem distinct member]

theorem deleted_injective : Function.Injective ScanFinalEvent.deleted :=
  fun _ _ same => ScanFinalEvent.deleted.inj same

theorem count_deleted (evidence : Evidence) (activeCounts : FileHandle → Option Nat)
    (candidates : List EntrySummary) (row : EntrySummary) (kept : List EntrySummary) :
    (announcements evidence activeCounts candidates ++ kept.map ScanFinalEvent.deleted).count (.deleted row) =
      kept.count row := by
  have announced : (announcements evidence activeCounts candidates).count (.deleted row) = 0 := by
    rw [List.count_eq_zero]
    intro member
    obtain ⟨other, -, same⟩ := mem_announcements.mp member
    have operation := operation_announce other (evidence.decision activeCounts other)
    rw [same] at operation
    exact operation rfl
  rw [List.count_append, announced, Nat.zero_add,
    List.count_map_of_injective kept _ deleted_injective]

theorem mem_sources_iff (candidates : List EntrySummary) (activeCounts : FileHandle → Option Nat)
    (describes : Evidence.Describes old history evidence) (kept : List EntrySummary)
    (key : PathKey) :
    key ∈ evidence.renamedSources ++
        (announcements evidence activeCounts candidates).filterMap ScanFinalEvent.renameSource ↔
      RecordedSource history key ∨
        ∃ event ∈ announcements evidence activeCounts candidates ++ kept.map ScanFinalEvent.deleted,
          event.renameSource = some key := by
  rw [List.mem_append, describes.sources, List.mem_filterMap]
  constructor
  · rintro (recorded | ⟨event, member, source⟩)
    · exact Or.inl recorded
    · exact Or.inr ⟨event, List.mem_append_left _ member, source⟩
  · rintro (recorded | ⟨event, member, source⟩)
    · exact Or.inl recorded
    · exact Or.inr ⟨event, announced_of_renameSource member source, source⟩

theorem old_once (describes : Evidence.Describes old history evidence) (distinct : old.Nodup)
    {row : EntrySummary} (member : row ∈ old) {events : List ScanFinalEvent}
    (resolved : announcements evidence activeCounts candidates ++
      (leftBehind evidence activeCounts old candidates).map ScanFinalEvent.deleted = events) :
    (events.count (.deleted row) = 1 ∧ ¬RecordedSource history row.pathKey ∧
      ∀ event ∈ events, event.renameSource ≠ some row.pathKey) ∨
    (events.count (.deleted row) = 0 ∧ (RecordedSource history row.pathKey ∨
      ∃ event ∈ events, event.renameSource = some row.pathKey)) := by
  have sources := mem_sources_iff candidates activeCounts describes
    (leftBehind evidence activeCounts old candidates) row.pathKey
  rw [resolved] at sources
  have count := count_deleted evidence activeCounts candidates row
    (leftBehind evidence activeCounts old candidates)
  rw [resolved] at count
  by_cases consumed : row.pathKey ∈ evidence.renamedSources ++
      (announcements evidence activeCounts candidates).filterMap ScanFinalEvent.renameSource
  · right
    refine ⟨?_, sources.mp consumed⟩
    rw [count, List.count_eq_zero]
    intro kept
    rw [leftBehind, List.mem_filter] at kept
    simp [consumed] at kept
  · left
    have source := mt sources.mpr consumed
    rw [not_or] at source
    refine ⟨?_, source.1, fun event found same => source.2 ⟨event, found, same⟩⟩
    have kept : row ∈ leftBehind evidence activeCounts old candidates := by
      rw [leftBehind, List.mem_filter]
      exact ⟨member, by simpa using consumed⟩
    rw [count]
    exact List.count_eq_one_of_mem (distinct.filter _) kept

theorem sources_distinct_iff (describes : Evidence.Describes old history evidence)
    (kept : List EntrySummary) :
    (∀ first ∈ announcements evidence activeCounts candidates ++ kept.map ScanFinalEvent.deleted,
      ∀ second ∈ announcements evidence activeCounts candidates ++ kept.map ScanFinalEvent.deleted, ∀ key,
        first.renameSource = some key → second.renameSource = some key →
          first = second ∨ RecordedSource history key) ↔
      OriginalsApart old candidates history activeCounts := by
  constructor
  · intro apart first firstMember second secondMember different firstOpen secondOpen key
      firstLone secondLone
    have firstSource : (announce first (evidence.decision activeCounts first)).renameSource =
        some key := by
      rw [renameSource_announce]
      exact (decision_renamed_iff describes firstOpen).mpr firstLone
    have secondSource : (announce second (evidence.decision activeCounts second)).renameSource =
        some key := by
      rw [renameSource_announce]
      exact (decision_renamed_iff describes secondOpen).mpr secondLone
    have shared := apart _ (List.mem_append_left _ (mem_announcements.mpr ⟨first, firstMember, rfl⟩))
      _ (List.mem_append_left _ (mem_announcements.mpr ⟨second, secondMember, rfl⟩)) key
      firstSource secondSource
    apply shared.resolve_left
    intro same
    have items := congrArg ScanFinalEvent.item same
    rw [item_announce, item_announce] at items
    exact different items
  · intro apart first firstMember second secondMember key firstSource secondSource
    obtain ⟨firstRow, firstCandidate, rfl⟩ :=
      mem_announcements.mp (announced_of_renameSource firstMember firstSource)
    obtain ⟨secondRow, secondCandidate, rfl⟩ :=
      mem_announcements.mp (announced_of_renameSource secondMember secondSource)
    rw [renameSource_announce] at firstSource secondSource
    by_cases firstDecided : Decided history firstRow.pathKey
    · exact Or.inr (recordedSource_of_decided describes firstDecided firstSource)
    · by_cases secondDecided : Decided history secondRow.pathKey
      · exact Or.inr (recordedSource_of_decided describes secondDecided secondSource)
      · by_cases same : firstRow = secondRow
        · left
          rw [same]
        · right
          exact apart firstRow firstCandidate secondRow secondCandidate same firstDecided
            secondDecided key ((decision_renamed_iff describes firstDecided).mp firstSource)
            ((decision_renamed_iff describes secondDecided).mp secondSource)

end Resolution

/-- Every well-formed finalisation succeeds, and its events conserve the entries exactly
when no path is the only original of two undecided candidates. -/
theorem final_events_conserve_iff (old candidates : List EntrySummary)
    (history : List FinalHistory) (activeCounts : FileHandle → Option Nat)
    (oldDistinct : old.Nodup) (candidatesDistinct : (candidates.map EntrySummary.pathKey).Nodup)
    (wellFormed : ∀ row ∈ history, row.WellFormed) :
    ∃ events, resolveFinalEvents old candidates history activeCounts = .ok events ∧
      (Conserves old candidates history activeCounts events ↔
        OriginalsApart old candidates history activeCounts) := by
  obtain ⟨evidence, describes, resolved⟩ :=
    resolve_eq old candidates activeCounts wellFormed
  refine ⟨_, resolved, ?_⟩
  rw [← sources_distinct_iff describes (leftBehind evidence activeCounts old candidates)]
  constructor
  · exact Conserves.sourcesDistinct
  · intro apart
    refine ⟨?_, ?_, ?_, ?_, apart⟩
    · intro row member
      exact candidate_once candidatesDistinct.of_map member _
    · intro event member announced
      obtain ⟨row, candidate, rfl⟩ :=
        mem_announcements.mp (announced_of_not_deleted member announced)
      rw [item_announce]
      exact candidate
    · intro row member
      exact old_once describes oldDistinct member rfl
    · intro fromPath fromVersion target member undecided
      obtain ⟨row, candidate, same⟩ :=
        mem_announcements.mp (announced_of_renameSource member rfl)
      have item := congrArg ScanFinalEvent.item same
      rw [item_announce] at item
      have row_eq : row = target := item
      rw [row_eq] at same
      have source := congrArg ScanFinalEvent.renameSource same
      exact (decision_renamed_iff describes undecided).mp (renameSource_announce.mp source)

/-- Every path and version is the original of one handle: old rows are one for each, and
what is recorded of them carries their handle. -/
def OneHandle (old : List EntrySummary) (history : List FinalHistory) : Prop :=
  ∀ first second key, Original old history first key → Original old history second key → first = second

theorem eq_of_length_le_one {Item : Type} {items : List Item} {first second : Item}
    (short : items.length ≤ 1) (here : first ∈ items) (there : second ∈ items) : first = second := by
  cases items with
  | nil => exact absurd here List.not_mem_nil
  | cons head rest =>
      rw [List.length_cons] at short
      have none : rest = [] := List.length_eq_zero_iff.mp (by omega)
      rw [none, List.mem_singleton] at here there
      rw [here, there]

/-- Two candidates with one lone original would be two live rows of one handle. -/
theorem OneHandle.originalsApart {old candidates : List EntrySummary} {history : List FinalHistory}
    {activeCounts : FileHandle → Option Nat} (oneHandle : OneHandle old history)
    (counted : ∀ handle count, activeCounts handle = some count →
      candidates.countP (fun row => row.fileHandle = some handle) ≤ count) :
    OriginalsApart old candidates history activeCounts := by
  intro first firstMember second secondMember different _ _ key firstLone secondLone
  obtain ⟨handle, carried, live, lone⟩ := firstLone
  obtain ⟨other, otherCarried, -, otherLone⟩ := secondLone
  have same : other = handle :=
    oneHandle other handle key ((otherLone key).mpr rfl) ((lone key).mpr rfl)
  rw [same] at otherCarried
  have atMost := counted handle 1 live
  rw [List.countP_eq_length_filter] at atMost
  have firstCounted : first ∈ candidates.filter fun row => row.fileHandle = some handle :=
    List.mem_filter.mpr ⟨firstMember, by simp [carried]⟩
  have secondCounted : second ∈ candidates.filter fun row => row.fileHandle = some handle :=
    List.mem_filter.mpr ⟨secondMember, by simp [otherCarried]⟩
  exact absurd (eq_of_length_le_one atMost firstCounted secondCounted) different

/-- Where every path and version has one handle, the final events conserve the entries. -/
theorem final_events_conserve (old candidates : List EntrySummary)
    (history : List FinalHistory) (activeCounts : FileHandle → Option Nat)
    (oldDistinct : old.Nodup) (candidatesDistinct : (candidates.map EntrySummary.pathKey).Nodup)
    (wellFormed : ∀ row ∈ history, row.WellFormed)
    (counted : ∀ handle count, activeCounts handle = some count →
      candidates.countP (fun row => row.fileHandle = some handle) ≤ count)
    (oneHandle : OneHandle old history) :
    ∃ events, resolveFinalEvents old candidates history activeCounts = .ok events ∧
      Conserves old candidates history activeCounts events := by
  obtain ⟨events, resolved, conserves⟩ :=
    final_events_conserve_iff old candidates history activeCounts oldDistinct candidatesDistinct wellFormed
  exact ⟨events, resolved, conserves.mpr (oneHandle.originalsApart counted)⟩

/-- A row moved, a row gone, a row new, and a row whose move an earlier run recorded. -/
theorem final_events_conserve_mixed :
    ∃ events, resolveFinalEvents
        [⟨['o'], [], some ['1']⟩, ⟨['g'], [], some ['2']⟩, ⟨['w'], [], some ['3']⟩]
        [⟨['n'], [], some ['1']⟩, ⟨['a'], [], none⟩, ⟨['v'], [], some ['3']⟩]
        [⟨.rename, ['v'], [], some ['3'], some ['w']⟩]
        (fun handle => if handle = ['1'] ∨ handle = ['3'] then some 1 else none) = .ok events ∧
      Conserves
        [⟨['o'], [], some ['1']⟩, ⟨['g'], [], some ['2']⟩, ⟨['w'], [], some ['3']⟩]
        [⟨['n'], [], some ['1']⟩, ⟨['a'], [], none⟩, ⟨['v'], [], some ['3']⟩]
        [⟨.rename, ['v'], [], some ['3'], some ['w']⟩]
        (fun handle => if handle = ['1'] ∨ handle = ['3'] then some 1 else none) events := by
  refine final_events_conserve _ _ _ _ (by decide) (by decide) (by simp [FinalHistory.WellFormed]) ?_ ?_
  · intro handle count live
    by_cases first : handle = ['1']
    · subst first
      cases live
      decide
    · by_cases third : handle = ['3']
      · subst third
        cases live
        decide
      · simp [first, third] at live
  · intro first second key known other
    simp only [Original, EntrySummary.pathKey, List.mem_cons, List.not_mem_nil, or_false, exists_eq_or_imp,
      exists_eq_left, FinalHistory.original, Option.some.injEq, Option.map_some] at known other
    grind

/-- Two handles known at `p` move to `a` and `b`: both events name `p` as their source. -/
theorem shared_path_is_renamed_twice :
    ¬∀ (old candidates : List EntrySummary) (history : List FinalHistory)
        (activeCounts : FileHandle → Option Nat),
      old.Nodup → (candidates.map EntrySummary.pathKey).Nodup →
      (∀ row ∈ history, row.WellFormed) →
      (∀ handle count, activeCounts handle = some count →
        candidates.countP (fun row => row.fileHandle = some handle) ≤ count) →
      ∃ events, resolveFinalEvents old candidates history activeCounts = .ok events ∧
        Conserves old candidates history activeCounts events := by
  intro claim
  obtain ⟨events, resolved, conserves⟩ := claim
    [⟨['p'], [], some ['1']⟩, ⟨['p'], [], some ['2']⟩]
    [⟨['a'], [], some ['1']⟩, ⟨['b'], [], some ['2']⟩] []
    (fun handle => if handle = ['1'] ∨ handle = ['2'] then some 1 else none)
    (by decide) (by decide) (fun _ member => absurd member List.not_mem_nil)
    (by
      intro handle count live
      by_cases first : handle = ['1']
      · rw [first] at live ⊢
        cases live
        decide
      · by_cases second : handle = ['2']
        · rw [second] at live ⊢
          cases live
          decide
        · simp [first, second] at live)
  have announced : events = [.renamed ['p'] [] ⟨['a'], [], some ['1']⟩,
      .renamed ['p'] [] ⟨['b'], [], some ['2']⟩] := by
    cases resolved
    rfl
  rw [announced] at conserves
  have shared := conserves.sourcesDistinct _ List.mem_cons_self _
    (List.mem_cons_of_mem _ List.mem_cons_self) (['p'], []) rfl rfl
  cases shared with
  | inl same => exact absurd same (by decide)
  | inr recorded =>
      obtain ⟨row, member, -⟩ := recorded
      exact List.not_mem_nil member

end Terrasync.Scan
