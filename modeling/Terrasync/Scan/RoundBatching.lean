import Terrasync.Scan.RoundOutcome

/-! Whole rounds: however the observations are divided into steady batches, the base rows
and the final events are those of delivering the last observation of each key alone. -/

set_option autoImplicit false

namespace Terrasync.Scan

open Catalogue (BaseTable NativeScanRecord)
open Lib (latest latest_append)

variable {blake3Hex : SyncDelta.Bytes → List Char}

theorem lastObserved_append (first second : List ObservedEntry) (key : PathKey) :
    lastObserved (first ++ second) key = (lastObserved second key).or (lastObserved first key) := by
  rw [lastObserved, deliveredItems, List.flatMap_append]
  exact latest_append _ _ _

theorem deliverable_of_mem {batches : List (List ObservedEntry)} (deliverable : Deliverable batches.flatten)
    {batch : List ObservedEntry} (member : batch ∈ batches) : Deliverable batch := by
  have inside : ∀ entry ∈ batch, entry ∈ batches.flatten :=
    fun entry here => List.mem_flatten.2 ⟨batch, member, here⟩
  refine ⟨fun item delivered => ?_, fun entry here => deliverable.normal entry (inside entry here)⟩
  obtain ⟨entry, here, viewed⟩ := List.mem_flatMap.1 delivered
  exact deliverable.identified item (List.mem_flatMap.2 ⟨entry, inside entry here, viewed⟩)

theorem deliverable_rest {batch : List ObservedEntry} {rest : List (List ObservedEntry)}
    (deliverable : Deliverable (batch :: rest).flatten) : Deliverable rest.flatten := by
  rw [List.flatten_cons] at deliverable
  refine ⟨fun item member => deliverable.identified item ?_, fun entry member =>
    deliverable.normal entry (List.mem_append_right _ member)⟩
  rw [deliveredItems, List.flatMap_append]
  exact List.mem_append_right _ member

/-- Observations of a key agree on its identity. -/
def Consistent (items : List ObservedItem) : Prop :=
  ∀ first ∈ items, ∀ second ∈ items, itemKey first = itemKey second →
    first.entry.fileHandle = second.entry.fileHandle

section Typed

variable {committed : BaseTable} {generation : Nat} {seen : PathKey → Option ObservedItem}
variable {round final : ScanRound} {kind : StoreKind}

theorem tracks_start (typed : kind.typedHandles committed = true) :
    Tracks committed generation (fun _ => none) (.start kind committed generation) := by
  refine ⟨rfl, typed, fun key => rfl, fun key => rfl, fun key => ?_, fun record member => ?_,
    fun key item known => ?_⟩
  · rw [displacedAfter]
    cases committed.row key with
    | none => rfl
    | some row => rfl
  · cases member
  · cases known

theorem Tracks.run (base : Committed committed generation) {batches : List (List ObservedEntry)}
    (tracks : Tracks committed generation seen round) (deliverable : Deliverable batches.flatten)
    (along : (scanMachine blake3Hex).Along (Steady committed) round batches)
    (run : (scanMachine blake3Hex).exec round batches = some final) :
    Tracks committed generation (fun key => (lastObserved batches.flatten key).or (seen key)) final := by
  induction batches generalizing round seen with
  | nil =>
      cases run
      exact tracks
  | cons batch rest ih =>
      obtain ⟨next, stepped, remaining⟩ := Lib.Machine.exec_cons run
      have flushed := tracks.flush blake3Hex base (deliverable_of_mem deliverable List.mem_cons_self) along.1
      cases stepped
      have ended := ih flushed (deliverable_rest deliverable) (along.2 _ rfl) remaining
      simp only [List.flatten_cons, lastObserved_append, Option.or_assoc]
      exact ended

/-- Where a key keeps its identity, the batch is steady at the key. -/
theorem Tracks.steadyAt (tracks : Tracks committed generation seen round)
    (base : Committed committed generation) {items : List ObservedItem} (consistent : Consistent items)
    {key : PathKey} {row : NativeScanRecord} {last : ObservedItem}
    (agrees : ∀ item, seen key = some item → last.entry.fileHandle = item.entry.fileHandle)
    (found : round.base.row key = some row) (observed : latest itemKey items key = some last) :
    SteadyAt committed round items row last := by
  have member := Lib.mem_of_latest observed
  have here := (Lib.key_of_latest observed).trans (ScanRound.row_key found).symm
  rw [SteadyAt]
  split
  · next unseen =>
      obtain ⟨item, known, shape, -⟩ | ⟨-, -, previous⟩ := tracks.row_cases base found
      · refine absurd (agrees item known) (fun same => unseen last member here ?_)
        rw [same, shape]
        rfl
      · exact .inl previous
  · next known =>
      rw [Unseen] at known
      push Not at known
      obtain ⟨item, inside, position, same⟩ := known
      have whole : ∀ other ∈ items, itemKey other = row.key → other.entry.fileHandle = row.fileHandle :=
        fun other delivered at_ => (consistent other delivered item inside (at_.trans position.symm)).trans same
      exact ⟨whole last member here, fun _ => .inl whole⟩

/-- A round in which no key changes its identity is steady. -/
theorem Tracks.along (base : Committed committed generation) {batches : List (List ObservedEntry)}
    {items : List ObservedItem} (consistent : Consistent items)
    (tracks : Tracks committed generation seen round) (deliverable : Deliverable batches.flatten)
    (delivered : ∀ item ∈ deliveredItems batches.flatten, item ∈ items)
    (earlier : ∀ key item, seen key = some item → item ∈ items ∧ itemKey item = key) :
    (scanMachine blake3Hex).Along (Steady committed) round batches := by
  induction batches generalizing round seen with
  | nil => trivial
  | cons batch rest ih =>
      rw [List.flatten_cons, deliveredItems, List.flatMap_append] at delivered
      have inside : ∀ item ∈ deliveredItems batch, item ∈ items :=
        fun item member => delivered item (List.mem_append_left _ member)
      have steady : Steady committed round batch := by
        intro _ key row last found observed
        refine tracks.steadyAt base (fun first firstMember second secondMember => consistent first
          (inside first firstMember) second (inside second secondMember)) ?_ found observed
        intro item known
        obtain ⟨member, here⟩ := earlier key item known
        exact consistent last (inside last (Lib.mem_of_latest observed)) item member
          ((Lib.key_of_latest observed).trans here.symm)
      refine ⟨steady, fun next stepped => ?_⟩
      cases stepped
      refine ih (tracks.flush blake3Hex base (deliverable_of_mem deliverable List.mem_cons_self) steady)
        (deliverable_rest deliverable) (fun item member => delivered item (List.mem_append_right _ member)) ?_
      intro key item known
      obtain last | before := Option.or_eq_some_iff.1 known
      · exact ⟨inside item (Lib.mem_of_latest last), Lib.key_of_latest last⟩
      · exact earlier key item before.2

end Typed

section Untyped

/-- The tables while identities are not compared and the base started out empty. -/
structure Blank (generation : Nat) (seen : PathKey → Option ObservedItem) (round : ScanRound) : Prop where
  working : round.generation = generation
  untyped : round.typedHandles = false
  rows : ∀ key, round.base.row key = (seen key).map fun item => ⟨item, generation⟩
  operations : ∀ record ∈ round.events, record.operation = .new ∨ record.operation = .changed

variable {generation : Nat} {seen : PathKey → Option ObservedItem} {round final : ScanRound}

theorem compare_untyped (untyped : round.typedHandles = false) (items : List ObservedItem) :
    (round.compare blake3Hex items).displaced = [] ∧
      ∀ event ∈ (round.compare blake3Hex items).events, event.record.operation = .new ∨
        event.record.operation = .changed := by
  have unchanged : ∀ item, round.changedAt false items item = none := by
    intro item
    rw [ScanRound.changedAt, Option.filter_eq_none_iff]
    intro old _ changed
    cases changed
  have quiet : round.hasDisplaced false items = false := by
    rw [ScanRound.hasDisplaced, List.any_eq_false]
    intro item _
    rw [unchanged, Option.any_none]
    exact Bool.false_ne_true
  have absent : round.compareAbsent blake3Hex false items = [] := by
    rw [ScanRound.compareAbsent, List.filter_eq_nil_iff.2, List.filterMap_nil]
    intro item _ kept
    simp [unchanged] at kept
  rw [ScanRound.compare, untyped, Bool.false_and]
  simp only [quiet, absent, List.append_nil]
  refine ⟨rfl, fun event member => ?_⟩
  obtain direct | path := List.mem_append.1 member
  · obtain ⟨item, kind, rfl⟩ := ScanRound.compareDirect_changed direct
    exact .inr rfl
  · obtain ⟨item, -, compared⟩ := List.mem_filterMap.1 path
    split at compared
    · obtain ⟨kind, -, rfl⟩ := Option.map_eq_some_iff.1 compared
      exact .inr rfl
    · cases compared
      exact .inl rfl

theorem Blank.flushItems (blake3Hex : SyncDelta.Bytes → List Char) (blank : Blank generation seen round)
    (items : List ObservedItem) :
    Blank generation (fun key => (latest itemKey items key).or (seen key)) (round.flushItems blake3Hex items) := by
  obtain ⟨displaced, events⟩ := compare_untyped blank.untyped items
  rw [ScanRound.flushItems_eq]
  refine ⟨blank.working, blank.untyped, fun key => ?_, fun record member => ?_⟩
  · rw [ScanRound.row_insertViews, blank.rows, blank.working, ← Option.map_or]
  · obtain earlier | new := List.mem_append.1 member
    · exact blank.operations record earlier
    · rw [ScanRound.batchRecords, displaced, List.map_nil, List.nil_append] at new
      obtain ⟨event, known, rfl⟩ := List.mem_map.1 new
      exact events event known

theorem Blank.flush (blake3Hex : SyncDelta.Bytes → List Char) (blank : Blank generation seen round)
    {batch : List ObservedEntry} (deliverable : Deliverable batch) :
    Blank generation (fun key => (lastObserved batch key).or (seen key)) (round.flushBatch blake3Hex batch) := by
  rw [ScanRound.flushBatch]
  split
  · next empty =>
      subst empty
      exact blank
  · have flushed := blank.flushItems blake3Hex (batchItems batch)
    simp only [latest_batchItems deliverable.normal] at flushed
    exact flushed

theorem Blank.run {batches : List (List ObservedEntry)} (blank : Blank generation seen round)
    (deliverable : Deliverable batches.flatten) (run : (scanMachine blake3Hex).exec round batches = some final) :
    Blank generation (fun key => (lastObserved batches.flatten key).or (seen key)) final := by
  induction batches generalizing round seen with
  | nil =>
      cases run
      exact blank
  | cons batch rest ih =>
      obtain ⟨next, stepped, remaining⟩ := Lib.Machine.exec_cons run
      have flushed := blank.flush blake3Hex (deliverable_of_mem deliverable List.mem_cons_self)
      cases stepped
      have ended := ih flushed (deliverable_rest deliverable) remaining
      simp only [List.flatten_cons, lastObserved_append, Option.or_assoc]
      exact ended

/-- Nothing is old and nothing is a candidate. -/
theorem Blank.finalEvents (blank : Blank generation seen round) : round.finalEvents = .ok [] := by
  have unlogged : ∀ operation, operation ≠ .new → operation ≠ .changed → round.logged operation = [] := by
    intro operation notNew notChanged
    refine ScanRound.logged_nil fun record member same => ?_
    obtain new | changed := blank.operations record member
    · exact notNew (same.symm.trans new)
    · exact notChanged (same.symm.trans changed)
  have candidates : round.candidateRows = [] := by
    rw [ScanRound.candidateRows, unlogged .candidateNew OperationType.noConfusion OperationType.noConfusion,
      List.filter_eq_nil_iff.2, List.map_nil]
    intro row _ kept
    rw [List.any_nil, Bool.and_false] at kept
    cases kept
  have current : round.liveRows.filter round.previousGeneration = [] := by
    refine List.filter_eq_nil_iff.2 fun row member previous => ?_
    have found := ScanRound.mem_liveRows.1 member
    rw [blank.rows, Option.map_eq_some_iff] at found
    obtain ⟨item, -, rfl⟩ := found
    rw [ScanRound.previousGeneration, blank.working] at previous
    simp at previous
  have old : round.oldRows = [] := by
    rw [ScanRound.oldRows, current, unlogged .displacedOld OperationType.noConfusion OperationType.noConfusion]
    rfl
  have history : round.history = [] := by
    simp only [ScanRound.history, candidates, old, List.any_nil, List.isEmpty_nil]
  rw [ScanRound.finalEvents, old, candidates, history]
  rfl

end Untyped

/-- `finals` delivers the last observation of each key of `entries`, and nothing else. -/
structure LastOnly (entries : List ObservedEntry) (finals : List ObservedItem) : Prop where
  once : (finals.map itemKey).Nodup
  last : ∀ key, latest itemKey finals key = lastObserved entries key

/-- The base row of each key is its last observation, the final events are the expected
ones, and a committed object whose path ends with another identity is gone or has moved. -/
structure RoundOutcome (committed : BaseTable) (generation : Nat) (entries : List ObservedEntry)
    (expected : List ScanFinalEvent) (final : ScanRound) : Prop where
  rows : ∀ key item, lastObserved entries key = some item → final.base.row key = some ⟨item, generation⟩
  events : ∃ events, final.finalEvents = .ok events ∧ (∀ event, event ∈ events ↔ event ∈ expected) ∧
    ∀ key row item, committed.row key = some row → lastObserved entries key = some item →
      item.entry.fileHandle ≠ row.fileHandle →
        .deleted (summaryOf row.view) ∈ events ∨ ∃ target, .renamed key.1 key.2 target ∈ events ∧
          target.fileHandle = row.fileHandle

section Outcome

variable {committed : BaseTable} {generation : Nat} {entries : List ObservedEntry}
variable {finals : List ObservedItem} {kind : StoreKind}

theorem exec_batches (blake3Hex : SyncDelta.Bytes → List Char) (round : ScanRound)
    (batches : List (List ObservedEntry)) :
    ∃ final, (scanMachine blake3Hex).exec round batches = some final := by
  induction batches generalizing round with
  | nil => exact ⟨round, rfl⟩
  | cons batch rest ih => exact ih (round.flushBatch blake3Hex batch)

theorem LastOnly.observed (only : LastOnly entries finals) {item : ObservedItem} (member : item ∈ finals) :
    lastObserved entries (itemKey item) = some item := by
  obtain ⟨last, found⟩ := Option.isSome_iff_exists.1 (Lib.latest_isSome member : (latest itemKey _ _).isSome = true)
  have same := List.inj_on_of_nodup_map only.once (Lib.mem_of_latest found) member (Lib.key_of_latest found)
  rw [← only.last, found, same]

theorem LastOnly.identified (only : LastOnly entries finals) (deliverable : Deliverable entries) :
    Identified finals :=
  fun item member => deliverable.identified item (Lib.mem_of_latest (only.observed member))

theorem LastOnly.consistent (only : LastOnly entries finals) : Consistent finals := by
  intro first firstMember second secondMember same
  rw [List.inj_on_of_nodup_map only.once firstMember secondMember same]

/-- Delivering the last observations alone is steady. -/
theorem LastOnly.tracks (blake3Hex : SyncDelta.Bytes → List Char)
    (only : LastOnly entries finals) (base : Committed committed generation)
    (deliverable : Deliverable entries) (typed : kind.typedHandles committed = true) :
    Tracks committed generation (lastObserved entries)
      ((ScanRound.start kind committed generation).flushItems blake3Hex finals) := by
  have start : Tracks committed generation (fun _ => none) (.start kind committed generation) :=
    tracks_start typed
  have flushed := start.flushItems blake3Hex base (only.identified deliverable) fun key row last found observed =>
    start.steadyAt base only.consistent (fun item known => by cases known) found observed
  simp only [only.last, Option.or_none] at flushed
  exact flushed

theorem blank_start (untyped : kind.typedHandles committed = false) (base : Committed committed generation) :
    committed = [] ∧ Blank generation (fun _ => none) (.start kind committed generation) := by
  have empty : committed = [] := by
    cases kind with
    | cluster => cases untyped
    | single =>
        refine List.eq_nil_iff_forall_not_mem.2 fun row member => ?_
        exact List.any_eq_false.1 untyped row member (base.typed row member)
  subst empty
  exact ⟨rfl, rfl, untyped, fun _ => rfl, fun record member => by cases member⟩

end Outcome

theorem steady_round_ignores_batches (blake3Hex : SyncDelta.Bytes → List Char) (kind : StoreKind)
    (committed : BaseTable) (generation : Nat)
    (base : Committed committed generation) (entries : List ObservedEntry)
    (deliverable : Deliverable entries) (finals : List ObservedItem) (only : LastOnly entries finals) :
    ∃ expected,
      ((ScanRound.start kind committed generation).flushItems blake3Hex finals).finalEvents = .ok expected ∧
      ∀ batches, batches.flatten = entries →
        (scanMachine blake3Hex).Along (Steady committed) (.start kind committed generation) batches →
        ∃ final, (scanMachine blake3Hex).exec (.start kind committed generation) batches = some final ∧
          RoundOutcome committed generation entries expected final := by
  cases typed : kind.typedHandles committed with
  | true =>
      have reference := only.tracks blake3Hex base deliverable typed
      obtain ⟨expected, -, resolved, -⟩ := reference.finalEvents_congr reference
      refine ⟨expected, resolved, fun batches divided along => ?_⟩
      subst divided
      obtain ⟨final, run⟩ := exec_batches blake3Hex (.start kind committed generation) batches
      have tracks := (tracks_start typed).run base deliverable along run
      simp only [Option.or_none] at tracks
      obtain ⟨events, again, ended, same, members⟩ := tracks.finalEvents_congr reference
      rw [resolved, Except.ok.injEq] at same
      subst same
      refine ⟨final, run, fun key item observed => ?_, events, ended, members, ?_⟩
      · rw [tracks.rows, rowAfter, observed]
        rfl
      · intro key row item found observed lost
        exact tracks.lost_accounted base found observed lost ended
  | false =>
      obtain ⟨empty, blank⟩ := blank_start typed base
      refine ⟨[], (blank.flushItems blake3Hex finals).finalEvents, fun batches divided _ => ?_⟩
      subst divided
      obtain ⟨final, run⟩ := exec_batches blake3Hex (.start kind committed generation) batches
      have ended := blank.run deliverable run
      refine ⟨final, run, fun key item observed => ?_, [], ended.finalEvents, fun _ => Iff.rfl, ?_⟩
      · rw [ended.rows, observed]
        rfl
      · intro key row item found
        rw [empty] at found
        cases found

/-- A file at the path `k`, as one observation shows it. -/
def observedFile (handle : FileHandle) (mtime : Int) : ObservedEntry :=
  .new ['k'] .file (some 1) (some mtime) .nfs (some handle)

theorem normal_observedFile (handle : FileHandle) (mtime : Int) : NormalPath (observedFile handle mtime) := by
  simp [NormalPath, observedFile, ObservedEntry.new, EntryFacts.new]

@[simp] theorem all_observedFile (handle : FileHandle) (mtime : Int) :
    ObservedItem.all (observedFile handle mtime) = [⟨observedFile handle mtime, none⟩] := rfl

def committedFile : BaseTable := [⟨⟨observedFile ['1'] 0, none⟩, 0⟩]

theorem committed_file : Committed committedFile 1 where
  previous := by decide
  typed := by decide

theorem deliverable_file (first second : FileHandle) (before after : Int) :
    Deliverable [observedFile first before, observedFile second after] := by
  constructor
  · intro item member
    have delivered : item = ⟨observedFile first before, none⟩ ∨ item = ⟨observedFile second after, none⟩ := by
      simpa [deliveredItems] using member
    obtain rfl | rfl := delivered
    · rfl
    · rfl
  · intro entry member
    obtain rfl | rfl := List.mem_pair.1 member
    · exact normal_observedFile first before
    · exact normal_observedFile second after

theorem lastOnly_file (first second : FileHandle) (before after : Int) :
    LastOnly [observedFile first before, observedFile second after] [⟨observedFile second after, none⟩] where
  once := List.nodup_singleton _
  last := by
    intro key
    have delivered : lastObserved [observedFile first before, observedFile second after] key =
        (latest itemKey [⟨observedFile second after, none⟩] key).or
          (latest itemKey [⟨observedFile first before, none⟩] key) := lastObserved_append [_] [_] key
    rw [delivered]
    obtain missing | ⟨item, found⟩ := Option.eq_none_or_eq_some
        (latest itemKey [⟨observedFile second after, none⟩] key)
    · have elsewhere : latest itemKey [⟨observedFile first before, none⟩] key = none := by
        refine Lib.latest_eq_none.2 fun item member same => ?_
        rw [List.mem_singleton.1 member] at same
        exact Lib.latest_eq_none.1 missing _ (List.mem_singleton_self _) same
      rw [missing, elsewhere]
      rfl
    · rw [found, Option.some_or]

theorem steady_file {committed : BaseTable} {round : ScanRound} (handle : FileHandle) (mtime : Int)
    (steady : ∀ row, round.base.row (['k'], []) = some row →
      SteadyAt committed round [⟨observedFile handle mtime, none⟩] row ⟨observedFile handle mtime, none⟩) :
    Steady committed round [observedFile handle mtime] := by
  intro _ key row last found observed
  obtain rfl := List.mem_singleton.1 (Lib.mem_of_latest observed)
  have here : itemKey ⟨observedFile handle mtime, none⟩ = key := Lib.key_of_latest observed
  rw [← here] at found
  exact steady row found

/-- The file of a committed path gave way to another between two observations, and that to
a third, in two batches. -/
theorem steady_round_ignores_batches_replaced :
    ∃ expected, ((ScanRound.start .single committedFile 1).flushItems (fun _ => [])
        [⟨observedFile ['3'] 2, none⟩]).finalEvents = .ok expected ∧
      ∃ final, (scanMachine fun _ => []).exec (.start .single committedFile 1)
          [[observedFile ['2'] 1], [observedFile ['3'] 2]] = some final ∧
        RoundOutcome committedFile 1 [observedFile ['2'] 1, observedFile ['3'] 2] expected final := by
  obtain ⟨expected, resolved, each⟩ := steady_round_ignores_batches (fun _ => []) .single committedFile 1
    committed_file [observedFile ['2'] 1, observedFile ['3'] 2] (deliverable_file ['2'] ['3'] 1 2)
    [⟨observedFile ['3'] 2, none⟩] (lastOnly_file ['2'] ['3'] 1 2)
  refine ⟨expected, resolved, each [[observedFile ['2'] 1], [observedFile ['3'] 2]] rfl ?_⟩
  refine ⟨steady_file ['2'] 1 fun row found => ?_, fun next stepped => ⟨?_, fun _ _ => trivial⟩⟩
  · cases found
    rw [SteadyAt, if_pos (by decide)]
    exact .inl rfl
  · cases stepped
    refine steady_file ['3'] 2 fun row found => ?_
    rw [ScanRound.flushBatch, if_neg (List.cons_ne_nil _ _), batchItems, sortBatch,
      List.mergeSort_singleton] at found
    obtain rfl : ⟨⟨observedFile ['2'] 1, none⟩, 1⟩ = row := Option.some.inj found
    rw [SteadyAt, if_pos (by decide)]
    refine .inr fun before known => ?_
    cases known
    decide

/-- The batch shows the committed object and the one that took its path, so the row is not
told apart, and the object that is gone is neither deleted nor renamed. -/
theorem reused_path_in_one_batch :
    ¬∀ (blake3Hex : SyncDelta.Bytes → List Char) (kind : StoreKind) (committed : BaseTable)
        (generation : Nat), Committed committed generation →
      ∀ entries, Deliverable entries → ∀ finals, LastOnly entries finals →
        ∃ expected,
          ((ScanRound.start kind committed generation).flushItems blake3Hex finals).finalEvents = .ok expected ∧
          ∀ batches, batches.flatten = entries →
            ∃ final, (scanMachine blake3Hex).exec (.start kind committed generation) batches = some final ∧
              RoundOutcome committed generation entries expected final := by
  intro claim
  obtain ⟨expected, -, each⟩ := claim (fun _ => []) .cluster committedFile 1 committed_file
    [observedFile ['1'] 0, observedFile ['2'] 0] (deliverable_file ['1'] ['2'] 0 0)
    [⟨observedFile ['2'] 0, none⟩] (lastOnly_file ['1'] ['2'] 0 0)
  obtain ⟨final, run, outcome⟩ := each [[observedFile ['1'] 0, observedFile ['2'] 0]] rfl
  obtain ⟨events, resolved, -, lost⟩ := outcome.events
  have sorted : sortBatch [observedFile ['1'] 0, observedFile ['2'] 0] =
      [observedFile ['1'] 0, observedFile ['2'] 0] := List.mergeSort_of_pairwise (by decide)
  have flushed : final = (ScanRound.start .cluster committedFile 1).flushItems (fun _ => [])
      [⟨observedFile ['1'] 0, none⟩, ⟨observedFile ['2'] 0, none⟩] := by
    have stepped : some ((ScanRound.start .cluster committedFile 1).flushBatch (fun _ => [])
        [observedFile ['1'] 0, observedFile ['2'] 0]) = some final := run
    rw [ScanRound.flushBatch, if_neg (List.cons_ne_nil _ _), batchItems, sorted] at stepped
    exact (Option.some.inj stepped).symm
  have quiet : final.finalEvents = .ok [] := by
    rw [flushed]
    rfl
  rw [quiet, Except.ok.injEq] at resolved
  subst resolved
  obtain deleted | ⟨target, renamed, -⟩ := lost (['k'], []) _ ⟨observedFile ['2'] 0, none⟩ rfl rfl (by decide)
  · cases deleted
  · cases renamed

end Terrasync.Scan
