import Terrasync.Catalogue.CopyGenerationProperties
import Terrasync.Catalogue.CopyRounds
import Terrasync.Lib.Fallible

/-! The working generation of every copy round starts empty when the deletion phases
before it covered the old rows they read. Rows of three names of one file are not. -/

set_option autoImplicit false

namespace Terrasync.Catalogue

open Lib BaseTable

/-- What a process knows about the generation it runs. -/
structure Running (round : CopyRound) (lifecycle : ScanGenerationLifecycle) : Prop where
  working : lifecycle.working = round.tables.state.scanState
  progress : lifecycle.committed = false → round.tables.state.copyInProgress = true
  accounted : ∀ record ∈ round.tables.base.finalRows,
    record.currentState = lifecycle.working → record.view ∈ round.acknowledged
  /-- A recovering round relabelled every stored row, superseded ones included. -/
  recovered : lifecycle.copyRecovery = true → ∀ record ∈ round.tables.base,
    record.currentState = lifecycle.working → record.view ∈ round.acknowledged
  covered : ∀ statuses, round.pending = some statuses →
    ∀ record ∈ round.tables.base.finalRows, record.currentState ≠ lifecycle.working →
      ∃ status ∈ statuses, status.deletedPath = record.relativePath

structure Consistent (round : CopyRound) : Prop where
  scanState : round.tables.state.scanState ≤ 1
  rowStates : ∀ record ∈ round.tables.base, record.currentState ≤ 1
  settled : round.tables.state.copyInProgress = false →
    round.tables.state.baselineCommitted = true →
      ∀ record ∈ round.tables.base.finalRows, record.currentState = round.tables.state.scanState
  running : ∀ lifecycle, round.lifecycle = some lifecycle → Running round lifecycle

/-- The old rows that a deletion phase reads are rows whose path it covers. -/
def DetectCovers (ctime : ObservedItem → Int) (round : CopyRound) : RoundAction → Prop
  | .detect => ∀ lifecycle ∈ round.openLifecycle.toList,
      ∀ record ∈ round.tables.base.oldRows lifecycle.working,
        DetectionCovers ctime round.tables.base lifecycle record
  | _ => True

instance (ctime : ObservedItem → Int) (round : CopyRound) :
    ∀ action, Decidable (DetectCovers ctime round action)
  | .detect => inferInstanceAs (Decidable (∀ lifecycle ∈ round.openLifecycle.toList, _))
  | .begin _ => .isTrue trivial
  | .crashInBegin _ => .isTrue trivial
  | .write _ => .isTrue trivial
  | .merge _ => .isTrue trivial
  | .crashInDetect _ => .isTrue trivial
  | .apply => .isTrue trivial
  | .commit => .isTrue trivial
  | .stop => .isTrue trivial

theorem checkCopyRequest_eq {tables : GenerationTables} {requestKey : List Char}
    {recovering : Bool} (checked : checkCopyRequest tables requestKey = .ok recovering) :
    recovering = (tables.state.copyInProgress ||
      (!tables.state.baselineCommitted && !tables.base.isEmpty)) := by
  unfold checkCopyRequest at checked
  split at checked
  · cases checked
  · split at checked
    · cases checked
    · dsimp only at checked
      split at checked
      · cases checked
      · exact (Except.ok.inj checked).symm

/-- Every stored row of a recovered table, and every shown row of another, belongs to
the generation of the state row. -/
theorem rebaseRecovering_settled {round : CopyRound} (consistent : Consistent round)
    {requestKey : List Char} {recovering : Bool}
    (checked : checkCopyRequest round.tables requestKey = .ok recovering) :
    ∀ record ∈ (rebaseRecovering round.tables recovering).base.finalRows,
      record.currentState = round.tables.state.scanState := by
  intro record member
  unfold rebaseRecovering at member
  cases recovering with
  | true => exact currentState_of_relabel (mem_of_mem_finalRows member)
  | false =>
      have quiet := checkCopyRequest_eq checked
      cases inProgress : round.tables.state.copyInProgress with
      | true => simp [inProgress] at quiet
      | false =>
          cases baseline : round.tables.state.baselineCommitted with
          | true => exact consistent.settled inProgress baseline record member
          | false =>
              have empty : round.tables.base = [] := by
                simpa [inProgress, baseline] using quiet
              have stored := mem_of_mem_finalRows member
              simp only [Bool.false_eq_true, if_false, empty] at stored
              exact absurd stored List.not_mem_nil

theorem rebaseRecovering_recovered {tables : GenerationTables} {record : NativeScanRecord}
    (member : record ∈ (rebaseRecovering tables true).base) :
    record.currentState = tables.state.scanState :=
  currentState_of_relabel member

theorem rebaseRecovering_rowStates {round : CopyRound} (consistent : Consistent round)
    (recovering : Bool) :
    ∀ record ∈ (rebaseRecovering round.tables recovering).base, record.currentState ≤ 1 := by
  intro record member
  unfold rebaseRecovering at member
  cases recovering with
  | true => exact (currentState_of_relabel member).trans_le consistent.scanState
  | false => exact consistent.rowStates record member

theorem rebaseRecovering_state (tables : GenerationTables) (recovering : Bool) :
    (rebaseRecovering tables recovering).state = tables.state := by
  unfold rebaseRecovering
  split
  · rfl
  · rfl

theorem other_generation {generation : Nat} (bounded : generation ≤ 1) :
    generation ≠ 1 - generation := by
  omega

/-- What a successful `begin_copy_generation` leaves. -/
theorem begin_cases {round opened : CopyRound} {requestKey : List Char}
    (begun : round.begin requestKey = some opened) :
    ∃ recovering, checkCopyRequest round.tables requestKey = .ok recovering ∧
      opened = ⟨(openGeneration (rebaseRecovering round.tables recovering) requestKey recovering).1,
        some (openGeneration (rebaseRecovering round.tables recovering) requestKey recovering).2,
        none, []⟩ := by
  unfold CopyRound.begin at begun
  split at begun
  · cases begun
  · split at begun
    · rename_i tables lifecycle succeeded
      unfold beginCopyGeneration at succeeded
      obtain ⟨recovering, checked, opens⟩ := bind_eq_ok.mp succeeded
      have pair := Except.ok.inj opens
      refine ⟨recovering, checked, ?_⟩
      rw [pair]
      exact (Option.some.inj begun).symm
    · cases begun

/-- Right after a copy generation began, no shown row carries it. -/
theorem begin_starts_empty {round opened : CopyRound} (consistent : Consistent round)
    {requestKey : List Char} (begun : round.begin requestKey = some opened) :
    ∃ lifecycle, opened.lifecycle = some lifecycle ∧
      ∀ record ∈ opened.tables.base.finalRows, record.currentState ≠ lifecycle.working := by
  obtain ⟨recovering, checked, rfl⟩ := begin_cases begun
  refine ⟨_, rfl, ?_⟩
  intro record member
  have previous := rebaseRecovering_settled consistent checked record member
  rw [previous]
  simp only [openGeneration, rebaseRecovering_state]
  exact other_generation consistent.scanState

theorem begin_consistent {round opened : CopyRound} (consistent : Consistent round)
    {requestKey : List Char} (begun : round.begin requestKey = some opened) :
    Consistent opened := by
  obtain ⟨lifecycle, opens, startsEmpty⟩ := begin_starts_empty consistent begun
  obtain ⟨recovering, checked, rfl⟩ := begin_cases begun
  cases opens
  refine ⟨Nat.sub_le 1 _, rebaseRecovering_rowStates consistent recovering, ?_, ?_⟩
  · intro quiet
    cases quiet
  · intro lifecycle opens
    cases opens
    refine ⟨rfl, fun _ => rfl, ?_, ?_, ?_⟩
    · intro record member working
      exact absurd working (startsEmpty record member)
    · intro recovery record member working
      have recovers : recovering = true := recovery
      subst recovers
      have previous := rebaseRecovering_recovered member
      rw [previous] at working
      simp only [openGeneration, rebaseRecovering_state] at working
      exact absurd working (other_generation consistent.scanState)
    · intro statuses pending
      cases pending

theorem crashInBegin_consistent {round next : CopyRound} (consistent : Consistent round)
    {requestKey : List Char} (crashed : round.crashInBegin requestKey = some next) :
    Consistent next := by
  unfold CopyRound.crashInBegin at crashed
  split at crashed
  · cases crashed
  · rename_i idle
    split at crashed
    · rename_i recovering checked
      cases crashed
      refine ⟨?_, rebaseRecovering_rowStates consistent recovering, ?_, ?_⟩
      · simpa only [rebaseRecovering_state] using consistent.scanState
      · intro _ _
        simpa only [rebaseRecovering_state] using rebaseRecovering_settled consistent checked
      · intro lifecycle opens
        rw [show round.lifecycle = some lifecycle from opens] at idle
        exact absurd rfl idle
    · cases crashed

theorem openLifecycle_cases {round : CopyRound} {lifecycle : ScanGenerationLifecycle}
    (opens : round.openLifecycle = some lifecycle) :
    round.lifecycle = some lifecycle ∧ lifecycle.committed = false := by
  obtain ⟨same, running, uncommitted⟩ := Option.bind_eq_some_iff.mp opens
  split at uncommitted
  · cases uncommitted
  · rename_i notCommitted
    cases uncommitted
    exact ⟨running, Bool.not_eq_true _ ▸ notCommitted⟩

/-- While a generation is open, the rows shown may change in any way that keeps the
process's account of them. -/
theorem reshape_consistent {round next : CopyRound} (consistent : Consistent round)
    {lifecycle : ScanGenerationLifecycle} (opens : round.openLifecycle = some lifecycle)
    (sameState : next.tables.state = round.tables.state)
    (sameLifecycle : next.lifecycle = round.lifecycle)
    (rowStates : ∀ record ∈ next.tables.base, record.currentState ≤ 1)
    (accounted : ∀ record ∈ next.tables.base.finalRows,
      record.currentState = lifecycle.working → record.view ∈ next.acknowledged)
    (recovered : lifecycle.copyRecovery = true → ∀ record ∈ next.tables.base,
      record.currentState = lifecycle.working → record.view ∈ next.acknowledged)
    (covered : ∀ statuses, next.pending = some statuses →
      ∀ record ∈ next.tables.base.finalRows, record.currentState ≠ lifecycle.working →
        ∃ status ∈ statuses, status.deletedPath = record.relativePath) : Consistent next := by
  obtain ⟨running, uncommitted⟩ := openLifecycle_cases opens
  have runs := consistent.running lifecycle running
  refine ⟨by rw [sameState]; exact consistent.scanState, rowStates, ?_, ?_⟩
  · intro quiet
    rw [sameState, runs.progress uncommitted] at quiet
    cases quiet
  · intro other same
    rw [sameLifecycle, running] at same
    cases same
    exact ⟨by rw [sameState]; exact runs.working, by rw [sameState]; exact runs.progress,
      accounted, recovered, covered⟩

theorem write_consistent {round next : CopyRound} (consistent : Consistent round)
    {views : List ObservedItem} (written : round.write views = some next) : Consistent next := by
  obtain ⟨lifecycle, opens, rfl⟩ := Option.map_eq_some_iff.mp written
  obtain ⟨running, _⟩ := openLifecycle_cases opens
  have runs := consistent.running lifecycle running
  refine reshape_consistent consistent opens rfl rfl ?_ ?_ ?_ ?_
  · intro record member
    cases List.mem_append.mp member with
    | inl earlier => exact consistent.rowStates record earlier
    | inr inserted =>
        rw [(view_of_insertViews inserted).2, runs.working]
        exact consistent.scanState
  · intro record member working
    cases mem_finalRows_append member with
    | inl earlier => exact List.mem_append_left views (runs.accounted record earlier working)
    | inr inserted =>
        exact List.mem_append_right round.acknowledged
          (view_of_insertViews (mem_of_mem_finalRows inserted)).1
  · intro recovery record member working
    cases List.mem_append.mp member with
    | inl earlier =>
        exact List.mem_append_left views (runs.recovered recovery record earlier working)
    | inr inserted =>
        exact List.mem_append_right round.acknowledged (view_of_insertViews inserted).1
  · intro statuses pending record member old
    cases mem_finalRows_append member with
    | inl earlier => exact runs.covered statuses pending record earlier old
    | inr inserted => exact absurd (view_of_insertViews (mem_of_mem_finalRows inserted)).2 old

/-- A table that shows no more rows and stores no others keeps a round consistent. -/
theorem shrink_consistent {round : CopyRound} (consistent : Consistent round) {base : BaseTable}
    (stored : ∀ record ∈ base, record ∈ round.tables.base)
    (shown : ∀ record ∈ base.finalRows, record ∈ round.tables.base.finalRows) :
    Consistent (round.setBase base) := by
  refine ⟨consistent.scanState, fun record member => consistent.rowStates record (stored record member),
    fun quiet baseline record member =>
      consistent.settled quiet baseline record (shown record member), ?_⟩
  intro lifecycle running
  have runs := consistent.running lifecycle running
  exact ⟨runs.working, runs.progress,
    fun record member => runs.accounted record (shown record member),
    fun recovery record member => runs.recovered recovery record (stored record member),
    fun statuses pending record member => runs.covered statuses pending record (shown record member)⟩

theorem merge_consistent {round next : CopyRound} (consistent : Consistent round)
    {kept : BaseTable} (merged : round.merge kept = some next) : Consistent next := by
  unfold CopyRound.merge at merged
  split at merged
  · rename_i superseded
    cases merged
    apply shrink_consistent consistent
    · exact fun record member => superseded.1.subset member
    · intro record member
      rw [← superseded.2]
      exact member
  · cases merged

theorem stop_consistent {round : CopyRound} (consistent : Consistent round) :
    Consistent round.stop := by
  refine ⟨consistent.scanState, consistent.rowStates, consistent.settled, ?_⟩
  intro lifecycle running
  cases running

/-- Rows of the other generation are the rows `detect_deleted_items` reads. -/
theorem previous_of_ne {round : CopyRound} (consistent : Consistent round)
    {lifecycle : ScanGenerationLifecycle} (running : round.lifecycle = some lifecycle)
    {record : NativeScanRecord} (member : record ∈ round.tables.base)
    (old : record.currentState ≠ lifecycle.working) :
    record.currentState = 1 - lifecycle.working := by
  have rowState := consistent.rowStates record member
  have working := (consistent.running lifecycle running).working
  have scanState := consistent.scanState
  omega

theorem mem_of_mem_detect {ctime : ObservedItem → Int} {table : BaseTable}
    {lifecycle : ScanGenerationLifecycle} {record : NativeScanRecord}
    (member : record ∈ (detectDeletedItems ctime table lifecycle).1) : record ∈ table := by
  unfold detectDeletedItems at member
  split at member
  · exact List.mem_of_mem_filter member
  · exact member

/-- Detection shows a row of the working generation only if the round wrote it. -/
theorem detect_accounted {round : CopyRound} {lifecycle : ScanGenerationLifecycle}
    (runs : Running round lifecycle) {ctime : ObservedItem → Int} {record : NativeScanRecord}
    (member : record ∈ (detectDeletedItems ctime round.tables.base lifecycle).1.finalRows)
    (working : record.currentState = lifecycle.working) : record.view ∈ round.acknowledged := by
  cases recovery : lifecycle.copyRecovery with
  | true => exact runs.recovered recovery record (mem_of_mem_detect (mem_of_mem_finalRows member)) working
  | false =>
      simp only [detectDeletedItems, recovery, Bool.false_eq_true, if_false] at member
      exact runs.accounted record member working

theorem detect_consistent {ctime : ObservedItem → Int} {round next : CopyRound}
    (consistent : Consistent round) (covers : DetectCovers ctime round .detect)
    (detected : round.detect ctime = some next) : Consistent next := by
  unfold CopyRound.detect at detected
  split at detected
  · cases detected
  · obtain ⟨lifecycle, opens, rfl⟩ := Option.map_eq_some_iff.mp detected
    obtain ⟨running, _⟩ := openLifecycle_cases opens
    have runs := consistent.running lifecycle running
    refine reshape_consistent consistent opens rfl rfl ?_ ?_ ?_ ?_
    · exact fun record member => consistent.rowStates record (mem_of_mem_detect member)
    · exact fun record member working => detect_accounted runs member working
    · exact fun recovery record member =>
        runs.recovered recovery record (mem_of_mem_detect member)
    · intro statuses pending record member old
      cases pending
      exact detectDeletedItems_covers
        (covers lifecycle (by rw [opens]; exact List.mem_singleton_self lifecycle)) member old
        (previous_of_ne consistent running (mem_of_mem_detect (mem_of_mem_finalRows member)))

theorem crashInDetect_consistent {round next : CopyRound} (consistent : Consistent round)
    {count : Nat} (crashed : round.crashInDetect count = some next) : Consistent next := by
  obtain ⟨lifecycle, opens, retired⟩ := Option.bind_eq_some_iff.mp crashed
  obtain ⟨running, _⟩ := openLifecycle_cases opens
  have runs := consistent.running lifecycle running
  split at retired
  · rename_i recovery
    cases retired
    apply stop_consistent
    refine reshape_consistent consistent opens rfl rfl ?_ ?_ ?_ ?_
    · exact fun record member => consistent.rowStates record (List.mem_of_mem_filter member)
    · exact fun record member =>
        runs.recovered recovery record (List.mem_of_mem_filter (mem_of_mem_finalRows member))
    · exact fun _ record member => runs.recovered recovery record (List.mem_of_mem_filter member)
    · intro statuses pending record member old
      exact runs.covered statuses pending record (mem_finalRows_retire member old).1 old
  · cases retired

theorem baseEffect_message (generation : Nat) (table : BaseTable) (status : DeletionStatus) :
    App.baseEffect generation table status.message =
      (table.insertViews generation status.insertedViews).batchDeleteRecord
        [status.deletedPath] := by
  cases status with
  | deleted entry =>
      simp only [DeletionStatus.message, App.baseEffect, DeletionStatus.insertedViews,
        DeletionStatus.deletedPath, insertViews, List.map_nil, List.append_nil]
  | renamed fromEntry toEntry => rfl

theorem apply_cases {round next : CopyRound} (applied : round.apply = some next) :
    ∃ lifecycle status rest, round.openLifecycle = some lifecycle ∧
      round.pending = some (status :: rest) ∧
      ∃ written, round.write status.insertedViews = some written ∧
        next = { written.setBase (written.tables.base.batchDeleteRecord [status.deletedPath]) with
          pending := some rest } := by
  unfold CopyRound.apply at applied
  split at applied
  · rename_i lifecycle status rest opens pending
    refine ⟨lifecycle, status, rest, opens, pending, ?_⟩
    unfold CopyRound.write
    rw [opens]
    refine ⟨_, rfl, ?_⟩
    rw [← Option.some.inj applied, baseEffect_message]
    rfl
  · cases applied

theorem apply_consistent {round next : CopyRound} (consistent : Consistent round)
    (applied : round.apply = some next) : Consistent next := by
  obtain ⟨lifecycle, status, rest, opens, pending, written, writes, rfl⟩ := apply_cases applied
  have writtenConsistent := write_consistent consistent writes
  have shrunk : Consistent
      (written.setBase (written.tables.base.batchDeleteRecord [status.deletedPath])) :=
    shrink_consistent writtenConsistent (fun record member => List.mem_of_mem_filter member)
      fun record member => (mem_finalRows_batchDelete member).1
  obtain ⟨lifecycle', opens', rfl⟩ := Option.map_eq_some_iff.mp writes
  cases opens.symm.trans opens'
  obtain ⟨running, _⟩ := openLifecycle_cases opens
  have runs := shrunk.running lifecycle running
  refine reshape_consistent shrunk opens rfl rfl shrunk.rowStates runs.accounted runs.recovered ?_
  intro statuses remaining record member old
  cases remaining
  obtain ⟨shown, notDeleted⟩ := mem_finalRows_batchDelete member
  obtain ⟨covering, within, path⟩ := runs.covered (status :: rest) pending record member old
  cases List.mem_cons.mp within with
  | inl same =>
      rw [same] at path
      exact absurd (List.mem_singleton.mpr path.symm) notDeleted
  | inr later => exact ⟨covering, later, path⟩

theorem commit_consistent {round next : CopyRound} (consistent : Consistent round)
    (committed : round.commit = some next) : Consistent next := by
  unfold CopyRound.commit at committed
  split at committed
  · rename_i finished
    cases running : round.lifecycle with
    | none =>
        rw [running] at committed
        cases committed
    | some lifecycle =>
        have runs := consistent.running lifecycle running
        have settled : ∀ record ∈ round.tables.base.finalRows,
            record.currentState = lifecycle.working := by
          intro record member
          by_contra old
          obtain ⟨status, within, _⟩ := runs.covered [] finished record member old
          exact absurd within List.not_mem_nil
        rw [running] at committed
        simp only [commitScanGeneration] at committed
        split at committed
        · rename_i outcome tables after decided
          cases committed
          split at decided
          · cases decided
            refine ⟨consistent.scanState, consistent.rowStates, consistent.settled, ?_⟩
            intro other same
            cases same
            exact ⟨runs.working, runs.progress, runs.accounted, runs.recovered, runs.covered⟩
          · cases decided
            refine ⟨?_, consistent.rowStates, fun _ _ => settled, ?_⟩
            · exact (show lifecycle.working ≤ 1 by rw [runs.working]; exact consistent.scanState)
            · intro other same
              cases same
              refine ⟨rfl, ?_, runs.accounted, ?_, runs.covered⟩
              · intro uncommitted
                cases uncommitted
              · intro recovery
                cases recovery
        · cases committed
  · cases committed

theorem initial_consistent : Consistent CopyRound.initial := by
  refine ⟨Nat.zero_le 1, ?_, ?_, ?_⟩
  · exact fun record member => absurd member List.not_mem_nil
  · intro _ baseline
    cases baseline
  · intro lifecycle running
    cases running

theorem step_consistent {ctime : ObservedItem → Int} {round next : CopyRound}
    {action : RoundAction} (consistent : Consistent round)
    (covers : DetectCovers ctime round action)
    (stepped : (copyRounds ctime).step round action = some next) : Consistent next := by
  cases action with
  | begin requestKey => exact begin_consistent consistent stepped
  | crashInBegin requestKey => exact crashInBegin_consistent consistent stepped
  | write views => exact write_consistent consistent stepped
  | merge kept => exact merge_consistent consistent stepped
  | detect => exact detect_consistent consistent covers stepped
  | crashInDetect count => exact crashInDetect_consistent consistent stepped
  | apply => exact apply_consistent consistent stepped
  | commit => exact commit_consistent consistent stepped
  | stop =>
      cases stepped
      exact stop_consistent consistent

theorem run_consistent {ctime : ObservedItem → Int} {actions : List RoundAction}
    {final : CopyRound}
    (covers : (copyRounds ctime).Along (DetectCovers ctime) CopyRound.initial actions)
    (run : (copyRounds ctime).exec CopyRound.initial actions = some final) : Consistent final :=
  Machine.exec_invariant_along step_consistent initial_consistent covers run

def singleView : ObservedItem :=
  ⟨.new ['f'] .file (some 1) none .nfs none, none⟩

/-- One of several names of one file. -/
def linkView (name : Char) : ObservedItem :=
  ⟨.new [name] .file (some 1) none .nfs (some ['h']), none⟩

def linkRow (name : Char) (generation : Nat) : NativeScanRecord := ⟨linkView name, generation⟩

/-- The round in which the two files were seen, and the one that no longer sees either under its name. -/
def firstRound : CopyRound :=
  ⟨⟨[linkRow 'a' 1, ⟨singleView, 1⟩], ⟨1, false, true, ['k']⟩⟩, some ⟨1, false, false⟩, none,
    [linkView 'a', singleView]⟩

end Terrasync.Catalogue
