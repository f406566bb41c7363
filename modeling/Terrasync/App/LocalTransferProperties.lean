import Mathlib.Data.List.Perm.Basic
import Terrasync.App.LocalTransfer

/-! A local transfer spawns the files of its items in order, and every file that it spawns is
settled by one call on the sink, whatever order the attempts end in and wherever the run breaks
off. -/

set_option autoImplicit false

namespace Terrasync.App.LocalTransfer

variable {world : World}

/-! ### What is read of the items -/

theorem observed_entry (seen : List TraversalItem) (entry : ObservedEntry) :
    observed (seen ++ [.entry entry]) = observed seen ++ [entry] := by
  simp [observed, TraversalItem.entry?]

theorem observed_other (seen : List TraversalItem) {item : TraversalItem} (other : item.entry? = none) :
    observed (seen ++ [item]) = observed seen := by
  simp [observed, other]

theorem failures_failure (seen : List TraversalItem) (failure : EntryOperationFailure) :
    failures (seen ++ [.failure failure]) = failures seen ++ [failure] := by
  simp [failures, TraversalItem.failure?]

theorem failures_other (seen : List TraversalItem) {item : TraversalItem} (other : item.failure? = none) :
    failures (seen ++ [item]) = failures seen := by
  simp [failures, other]

theorem length_observed (items : List TraversalItem) :
    (observed items).length = (nonFiles items).length + (files items).length := by
  have split := List.length_eq_length_filter_add (l := observed items) (fun entry => decide (entry.kind = .file))
  have opposite : nonFiles items = (observed items).filter fun entry => !decide (entry.kind = .file) := by
    simp only [nonFiles, ne_eq, decide_not]
  rw [opposite, files]
  omega

/-! ### The invariant -/

/-- What the loop keeps behind the items `seen`. `admitted` holds the file that is observed and not
yet spawned, if there is one. -/
structure Sound (world : World) (limit : NonZeroUsize) (seen : List TraversalItem) (admitted : List ObservedEntry)
    (run : Run) : Prop where
  settled : (run.calls.filterMap SinkCall.attempt? ++ run.attempts).Perm run.spawned
  numbered : run.spawned.map Attempt.number = List.range run.spawned.length
  truthful : ∀ call ∈ run.calls, call.Reports world
  width : run.attempts.length ≤ limit.1
  widths : ∀ size ∈ run.inflight, size ≤ limit.1
  counted : run.report.completedFiles + run.report.transferFailures + run.attempts.length = run.spawned.length
  followed : run.spawned.map Attempt.entry ++ admitted = files seen
  observed : run.report.observedEntries = (observed seen).length
  skipped : run.report.skippedNonFiles = (nonFiles seen).length
  failed : run.report.entryFailures = (failures seen).length
  delivered : run.calls.filterMap SinkCall.failure? = failures seen

theorem sound_start (world : World) (limit : NonZeroUsize) : Sound world limit [] [] .start :=
  ⟨List.Perm.refl _, rfl, fun _ member => absurd member List.not_mem_nil, Nat.zero_le _,
    fun _ member => absurd member List.not_mem_nil, rfl, rfl, rfl, rfl, rfl, rfl⟩

theorem perm_eraseIdx {attempts : List Attempt} {place : Nat} {attempt : Attempt}
    (found : attempts[place]? = some attempt) : (attempt :: attempts.eraseIdx place).Perm attempts := by
  obtain ⟨inside, rfl⟩ := List.getElem?_eq_some_iff.mp found
  exact List.getElem_cons_eraseIdx_perm inside

/-- An attempt that ended leaves the set and is reported to the sink. -/
theorem Sound.settle {limit : NonZeroUsize} {seen : List TraversalItem} {admitted : List ObservedEntry} {run : Run}
    (sound : Sound world limit seen admitted run) {place : Nat} {attempt : Attempt}
    (found : run.attempts[place]? = some attempt) (call : SinkCall) (about : call.attempt? = some attempt)
    (reports : call.Reports world) (report : LocalTransferReport)
    (counted : report.observedEntries = run.report.observedEntries ∧
      report.skippedNonFiles = run.report.skippedNonFiles ∧ report.entryFailures = run.report.entryFailures ∧
        report.completedFiles + report.transferFailures =
          run.report.completedFiles + run.report.transferFailures + 1) (joined : Nat) :
    Sound world limit seen admitted { run with
      report, attempts := run.attempts.eraseIdx place, joined, calls := run.calls ++ [call] } := by
  have perm := perm_eraseIdx found
  have shorter := perm.length_eq
  obtain ⟨observed, skipped, failures, settled⟩ := counted
  have silent : call.failure? = none := by
    cases call with
    | entryFailed failure => cases about
    | completed | transferFailed => rfl
  refine ⟨?_, sound.numbered, fun other member => ?_, ?_, sound.widths, ?_, sound.followed,
    observed.trans sound.observed, skipped.trans sound.skipped, failures.trans sound.failed, ?_⟩
  · refine List.Perm.trans ?_ sound.settled
    rw [List.filterMap_append, List.append_assoc]
    refine List.Perm.append_left _ ?_
    simpa [about] using perm
  · obtain earlier | same := List.mem_append.mp member
    · exact sound.truthful other earlier
    · cases List.mem_singleton.mp same
      exact reports
  · have width := sound.width
    simp only [List.length_cons] at shorter
    dsimp only
    omega
  · have before := sound.counted
    simp only [List.length_cons] at shorter
    dsimp only
    omega
  · rw [List.filterMap_append, sound.delivered, List.filterMap_cons_none silent, List.filterMap_nil,
      List.append_nil]

section

variable {limit : NonZeroUsize} {seen : List TraversalItem} {admitted : List ObservedEntry}

end

/-- The error is one that the sink answered to a call of this run. -/
def SinkError (world : World) (run : Run) (error : AppError) : Prop :=
  ∃ turn < run.calls.length, world.sink turn = some error

theorem Sound.skip {limit : NonZeroUsize} {seen : List TraversalItem} {run : Run} (sound : Sound world limit seen [] run)
    {entry : ObservedEntry} (other : entry.kind ≠ .file) :
    Sound world limit (seen ++ [.entry entry]) [] { run with
      report := { run.report with
        observedEntries := run.report.observedEntries + 1
        skippedNonFiles := run.report.skippedNonFiles + 1 } } := by
  refine ⟨sound.settled, sound.numbered, sound.truthful, sound.width, sound.widths, sound.counted, ?_, ?_, ?_, ?_, ?_⟩
  · rw [files, observed_entry, List.filter_append, List.filter_singleton]
    simpa [other, files] using sound.followed
  · rw [observed_entry, List.length_append, ← sound.observed, List.length_singleton]
  · rw [nonFiles, observed_entry, List.filter_append, List.length_append, sound.skipped, nonFiles]
    simp [other]
  · rw [failures_other seen rfl, ← sound.failed]
  · rw [failures_other seen rfl, ← sound.delivered]

theorem Sound.admitted {limit : NonZeroUsize} {seen : List TraversalItem} {run : Run}
    (sound : Sound world limit seen [] run) {entry : ObservedEntry} (file : entry.kind = .file) :
    Sound world limit (seen ++ [.entry entry]) [entry] { run with
      report := { run.report with observedEntries := run.report.observedEntries + 1 } } := by
  refine ⟨sound.settled, sound.numbered, sound.truthful, sound.width, sound.widths, sound.counted, ?_, ?_, ?_, ?_, ?_⟩
  · have before := sound.followed
    rw [List.append_nil] at before
    rw [files, observed_entry, List.filter_append, before, files]
    simp [file]
  · rw [observed_entry, List.length_append, ← sound.observed, List.length_singleton]
  · rw [nonFiles, observed_entry, List.filter_append, List.length_append, sound.skipped, nonFiles]
    simp [file]
  · rw [failures_other seen rfl, ← sound.failed]
  · rw [failures_other seen rfl, ← sound.delivered]

theorem Sound.pass {limit : NonZeroUsize} {seen : List TraversalItem} {run : Run} (sound : Sound world limit seen [] run)
    {item : TraversalItem} (noEntry : item.entry? = none) (noFailure : item.failure? = none) :
    Sound world limit (seen ++ [item]) [] run := by
  refine ⟨sound.settled, sound.numbered, sound.truthful, sound.width, sound.widths, sound.counted, ?_, ?_, ?_, ?_, ?_⟩
  · rw [files, observed_other seen noEntry]
    exact sound.followed
  · rw [observed_other seen noEntry, sound.observed]
  · rw [nonFiles, observed_other seen noEntry]
    exact sound.skipped
  · rw [failures_other seen noFailure, sound.failed]
  · rw [failures_other seen noFailure, sound.delivered]

theorem Sound.report {limit : NonZeroUsize} {seen : List TraversalItem} {run : Run}
    (sound : Sound world limit seen [] run) (failure : EntryOperationFailure) :
    Sound world limit (seen ++ [.failure failure]) [] { run with
      report := { run.report with entryFailures := run.report.entryFailures + 1 }
      calls := run.calls ++ [.entryFailed failure] } := by
  refine ⟨?_, sound.numbered, fun call member => ?_, sound.width, sound.widths, sound.counted, ?_, ?_, ?_, ?_, ?_⟩
  · have silent : (run.calls ++ [SinkCall.entryFailed failure]).filterMap SinkCall.attempt? =
        run.calls.filterMap SinkCall.attempt? := by
      rw [List.filterMap_append, List.filterMap_cons_none rfl, List.filterMap_nil, List.append_nil]
    simpa only [silent] using sound.settled
  · obtain earlier | same := List.mem_append.mp member
    · exact sound.truthful call earlier
    · cases List.mem_singleton.mp same
      trivial
  · rw [files, observed_other seen rfl]
    exact sound.followed
  · rw [observed_other seen rfl, ← sound.observed]
  · rw [nonFiles, observed_other seen rfl]
    exact sound.skipped
  · rw [failures_failure, List.length_append, ← sound.failed, List.length_singleton]
  · rw [failures_failure, List.filterMap_append, sound.delivered]
    rfl

/-- Why the loop was left behind the items `seen`: the sink failed, there was no request for the
file just admitted, or the last item is none of this loop. -/
def Broke (world : World) (seen : List TraversalItem) (admitted : List ObservedEntry) (run : Run)
    (error : AppError) : Prop :=
  SinkError world run error ∨
    (∃ entry, admitted = [entry] ∧ world.request entry = .error error) ∨
    ∃ text, seen.getLast? = some (.unsupported text) ∧
      error = .configError ("unsupported traversal event: " ++ text)

/-- The reports balance: everything observed was skipped or settled. -/
structure Balanced (finish : Except AppError TraversalOutcome) (run : Run) (report : LocalTransferReport) : Prop where
  own : report = run.report
  observed : report.observedEntries = report.skippedNonFiles + report.completedFiles + report.transferFailures
  failures : report.entryFailures = (run.calls.filterMap SinkCall.failure?).length
  totals : ∀ totals, finish = .ok (.completed totals) →
    report.observedEntries = totals.emitted ∧
      report.entryFailures = totals.failedChildren + totals.listingFailures

/-- How the transfer ended behind the items `taken`. -/
def Ended (world : World) (identity : Except AppError Unit) (items : List TraversalItem)
    (finish : Except AppError TraversalOutcome) (taken : List TraversalItem) (admitted : List ObservedEntry)
    (run : Run) : Except AppError LocalTransferReport → Prop
  | .ok _ => taken = items ∧ admitted = []
  | .error error =>
      (identity = .error error ∧ taken = []) ∨
      (taken = items ∧ admitted = [] ∧ (close finish run).1 = .error error) ∨
      (run.cancelled = true ∧ Broke world taken admitted run error)

section

variable {limit : NonZeroUsize} {identity : Except AppError Unit} {items taken : List TraversalItem}
  {finish : Except AppError TraversalOutcome} {admitted : List ObservedEntry} {run : Run}

theorem Sound.balanced (sound : Sound world limit items [] run) (idle : run.attempts = []) :
    run.report.observedEntries =
      run.report.skippedNonFiles + run.report.completedFiles + run.report.transferFailures := by
  have spawned := congrArg List.length sound.followed
  have counted := sound.counted
  rw [List.append_nil, List.length_map] at spawned
  rw [idle, List.length_nil] at counted
  rw [sound.observed, sound.skipped, length_observed]
  omega

theorem Ended.cancelled {error : AppError}
    (ended : Ended world identity items finish taken admitted run (.error error)) :
    run.cancelled = true ∨ identity = .error error ∨ (close finish run).1 = .error error := by
  obtain ⟨refused, -⟩ | ⟨-, -, closing⟩ | ⟨stopped, -⟩ := ended
  · exact .inr (.inl refused)
  · exact .inr (.inr closing)
  · exact .inl stopped

end

def listed (path : String) (kind : EntryKind) : ObservedEntry := .new path.toList kind (some 4) none .local none

end Terrasync.App.LocalTransfer
