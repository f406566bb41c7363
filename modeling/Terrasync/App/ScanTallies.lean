import Terrasync.App.ScanAccounts

/-! The counts of the producer. Until a save is confirmed they are those of the items before it;
what is stamped is what the counts save for the checkpoint. -/

set_option autoImplicit false

namespace Terrasync.App.ScanPipeline

open Scan (ScanResumeState StatisticsCheckpoint)
open Scan.Statistics (EntryKindMethods)

section Tallies

variable {methods : EntryKindMethods} {origin : Origin} {state : State}

/-! ### Frames -/

section Frames

open Scan.Statistics

/-- `push` does not look at what was saved, and the distributions stay as complete as they are. -/
theorem push_frame {progress : ScanProgress} {snapshot : ScanSnapshot} {value : DirectoryStatistics}
    {counted : Scan.Statistics.State} (saved : List SavedCheckpoint)
    (pushed : push methods ⟨progress, snapshot, []⟩ value = some counted) :
    push methods ⟨progress, snapshot, saved⟩ value = some ⟨counted.progress, counted.snapshot, saved⟩ ∧
      counted.snapshot.distributionsComplete = snapshot.distributionsComplete := by
  unfold push at pushed ⊢
  dsimp only at pushed ⊢
  split at pushed
  · cases pushed
  · rename_i allowed
    rw [if_neg allowed]
    split at pushed
    · cases pushed
    · rename_i fresh
      rw [if_neg fresh]
      cases outcome : value.outcome with
      | none =>
          simp only [outcome] at pushed ⊢
          cases pushed
          exact ⟨rfl, rfl⟩
      | some result =>
          cases result with
          | complete =>
              simp only [outcome] at pushed ⊢
              split at pushed
              · rename_i clean
                cases pushed
                exact ⟨by rw [if_pos clean], rfl⟩
              · cases pushed
          | interrupted =>
              simp only [outcome] at pushed
              cases pushed
          | unreadable =>
              simp only [outcome] at pushed
              cases pushed

theorem resumed_frame {progress : ScanProgress} {snapshot : ScanSnapshot} {selected : Option (List UInt8)}
    {counted : Scan.Statistics.State} (saved : List SavedCheckpoint)
    (back : resumed methods ⟨progress, snapshot, []⟩ selected = some counted) :
    resumed methods ⟨progress, snapshot, saved⟩ selected = some ⟨counted.progress, counted.snapshot, saved⟩ := by
  obtain ⟨counts, chosen, rfl⟩ := Option.map_eq_some_iff.1 back
  exact Option.map_eq_some_iff.2 ⟨counts, chosen, rfl⟩

end Frames

/-! ### The counts before a save, at it and behind it -/

theorem Tallied.settled (tallied : Tallied methods origin state) (alive : state.producer.phase ≠ .failed)
    (saving : state.producer.saving = none) :
    ∃ saved, (ledger methods origin state.producer.consumed).scan =
      some ⟨state.producer.progress, state.statistics.snapshot, saved⟩ := by
  obtain ⟨before, saved, snapshot, consumed, scan, shown⟩ := tallied.scan alive
  rw [saving] at consumed shown
  rw [consumed, shown]
  exact ⟨saved, by simpa using scan⟩

theorem Tallied.of_settled {saved : List Scan.Statistics.SavedCheckpoint} (saving : state.producer.saving = none)
    (scan : (ledger methods origin state.producer.consumed).scan =
      some ⟨state.producer.progress, state.statistics.snapshot, saved⟩) : Tallied methods origin state := by
  constructor
  · refine fun _ => ⟨state.producer.consumed, saved, state.statistics.snapshot, ?_, scan, ?_⟩
    · rw [saving]
      exact (List.append_nil _).symm
    · rw [saving]
      simp
  · rw [saving]
    exact fun _ _ found => by cases found

/-- A save falls due. -/
theorem Tallied.due {later : Producer} {cause : SaveCause} (tallied : Tallied methods origin state)
    (alive : state.producer.phase ≠ .failed) (saving : state.producer.saving = none)
    (due : later.saving = some cause) (consumed : later.consumed = state.producer.consumed ++ [cause.item])
    (progress : later.progress = state.producer.progress) (phase : later.phase.stamped = false) :
    Tallied methods origin { state with producer := later } := by
  obtain ⟨saved, scan⟩ := tallied.settled alive saving
  constructor
  · refine fun _ => ⟨state.producer.consumed, saved, state.statistics.snapshot, ?_, ?_, ?_⟩
    · dsimp only
      rw [consumed, due]
      rfl
    · dsimp only
      rw [progress]
      exact scan
    · simp [phase]
  · intro stamped
    rw [phase] at stamped
    cases stamped

/-- Nothing is consumed or counted. -/
theorem Tallied.same {later : Producer} {port : Port} {statistics : Statistics}
    (tallied : Tallied methods origin state) (alive : state.producer.phase ≠ .failed)
    (consumed : later.consumed = state.producer.consumed) (saving : later.saving = state.producer.saving)
    (progress : later.progress = state.producer.progress)
    (stamped : later.phase.stamped = state.producer.phase.stamped)
    (snapshot : statistics.snapshot = state.statistics.snapshot) :
    Tallied methods origin { state with producer := later, port, statistics } := by
  constructor
  · intro _
    dsimp only
    rw [consumed, saving, progress, stamped, snapshot]
    exact tallied.scan alive
  · dsimp only
    rw [saving, progress, stamped]
    exact tallied.counts

/-- What is stamped are the counts of the source. -/
theorem Tallied.records {cause : SaveCause} {after : ScanResumeState} {action : SaveAction} {cuts : List Cut}
    {cut : Cut} (tallied : Tallied methods origin state) (stamping : state.producer.phase = .stamping)
    (saving : state.producer.saving = some cause) (distinct : cause.resumes = false)
    (stamped : state.producer.stamp methods state.statistics cause = some (after, action))
    (grown : (ledger methods origin state.producer.consumed).cuts = cuts ++ [cut]) :
    Records after cut.counted := by
  obtain ⟨before, saved, snapshot, consumed, scan, shown⟩ := tallied.scan (by rw [stamping]; exact nofun)
  have shown : state.statistics.snapshot = snapshot := by simpa [stamping, ProducerPhase.stamped] using shown
  rw [saving] at consumed
  cases cause with
  | resumed => cases distinct
  | checkpoint cursor =>
      have consumed : state.producer.consumed = before ++ [some (.checkpoint cursor)] := consumed
      rw [consumed, ledger_concat] at grown
      obtain ⟨-, last⟩ := List.append_inj' grown rfl
      cases last
      obtain ⟨counts, allowed, made⟩ := Option.bind_eq_some_iff.1 stamped
      obtain ⟨later, advanced, same⟩ := Option.map_eq_some_iff.1 made
      cases same
      rw [ScanResumeState.advance_eq advanced]
      refine ⟨⟨some cursor, snapshot.forPrefix methods counts, methods.total counts.scanned⟩, ?_, rfl, ?_⟩
      · simp [scan, Scan.Statistics.checkpoint, allowed]
      · rw [← shown]
        rfl
  | final =>
      have consumed : state.producer.consumed = before ++ [none] := consumed
      rw [consumed, ledger_concat] at grown
      obtain ⟨-, last⟩ := List.append_inj' grown rfl
      cases last
      simp only [Producer.stamp] at stamped
      split at stamped
      · cases stamped
      · rename_i clean
        obtain ⟨later, advanced, same⟩ := Option.map_eq_some_iff.1 stamped
        cases same
        rw [ScanResumeState.advance_eq advanced]
        refine ⟨⟨none, { snapshot with complete := true }, snapshot.scannedEntries⟩, ?_, ?_, ?_⟩
        · simp [scan, Scan.Statistics.finish, clean]
        · rw [← shown]
        · rw [← shown]
          rfl

theorem Producer.stamp_counts {producer : Producer} {statistics : Statistics} {cause : SaveCause}
    {stamped : ScanResumeState × SaveAction} (found : producer.stamp methods statistics cause = some stamped) :
    cause.Counts producer.progress := by
  cases cause with
  | resumed => trivial
  | checkpoint cursor =>
      obtain ⟨counts, allowed, -⟩ := Option.bind_eq_some_iff.1 found
      exact Option.isSome_iff_exists.2 ⟨counts, allowed⟩
  | final =>
      simp only [Producer.stamp] at found
      split at found
      · cases found
      · rename_i clean
        have clean : producer.progress.active.isEmpty = true := by simpa using clean
        exact clean

/-- The command is made up. -/
theorem Tallied.stamp {cause : SaveCause} {after : ScanResumeState} {action : SaveAction}
    (tallied : Tallied methods origin state) (stamping : state.producer.phase = .stamping)
    (saving : state.producer.saving = some cause)
    (stamped : state.producer.stamp methods state.statistics cause = some (after, action)) :
    Tallied methods origin { state with
      producer := { state.producer with state := after, phase := .submitting action }
      statistics := { state.statistics with
        snapshot :=
          if cause = .final then { state.statistics.snapshot with complete := true }
          else state.statistics.snapshot } } := by
  obtain ⟨before, saved, snapshot, consumed, scan, shown⟩ := tallied.scan (by rw [stamping]; exact nofun)
  have shown : state.statistics.snapshot = snapshot := by simpa [stamping, ProducerPhase.stamped] using shown
  constructor
  · refine fun _ => ⟨before, saved, snapshot, consumed, scan, ?_⟩
    dsimp only
    rw [saving, shown]
    by_cases last : cause = .final <;> simp [last, ProducerPhase.stamped]
  · intro _ other found
    dsimp only at found ⊢
    rw [saving] at found
    cases found
    exact Producer.stamp_counts stamped

/-- The save of a checkpoint, or the last one, is confirmed. -/
theorem Tallied.confirm {cause : SaveCause} (tallied : Tallied methods origin state)
    (confirming : state.producer.phase = .confirming) (saving : state.producer.saving = some cause)
    (distinct : cause.resumes = false) :
    ∃ saved, (ledger methods origin state.producer.consumed).scan =
      some ⟨match cause.cursor with
        | some cursor => state.producer.progress.confirm cursor
        | none => state.producer.progress, state.statistics.snapshot, saved⟩ := by
  obtain ⟨before, saved, snapshot, consumed, scan, shown⟩ := tallied.scan (by rw [confirming]; exact nofun)
  have counts := tallied.counts (by rw [confirming]; rfl) cause saving
  rw [saving] at consumed shown
  rw [confirming] at shown
  cases cause with
  | resumed => cases distinct
  | checkpoint cursor =>
      have consumed : state.producer.consumed = before ++ [some (.checkpoint cursor)] := consumed
      have shown : state.statistics.snapshot = snapshot := by simpa using shown
      obtain ⟨counted, allowed⟩ := Option.isSome_iff_exists.1 counts
      refine ⟨saved ++ [⟨some cursor, snapshot.forPrefix methods counted, methods.total counted.scanned⟩], ?_⟩
      rw [consumed, ledger_concat, shown]
      simp [Ledger.take, Ledger.cut, scan, Scan.Statistics.checkpoint, allowed, SaveCause.cursor]
  | final =>
      have consumed : state.producer.consumed = before ++ [none] := consumed
      have shown : state.statistics.snapshot = { snapshot with complete := true } := by
        simpa [ProducerPhase.stamped] using shown
      refine ⟨saved ++ [⟨none, { snapshot with complete := true }, snapshot.scannedEntries⟩], ?_⟩
      have clean : state.producer.progress.active.isEmpty = true := counts
      rw [consumed, ledger_concat, shown]
      simp [Ledger.take, Ledger.cut, scan, Scan.Statistics.finish, clean, SaveCause.cursor]

/-- The scan has gone back. -/
theorem Tallied.back {checkpoint : Option (List UInt8)} {counted : Scan.Statistics.State}
    (tallied : Tallied methods origin state) (confirming : state.producer.phase = .confirming)
    (saving : state.producer.saving = some (.resumed checkpoint))
    (back : Scan.Statistics.resumed methods state.scan checkpoint = some counted) :
    ∃ saved, (ledger methods origin state.producer.consumed).scan =
      some ⟨counted.progress, counted.snapshot, saved⟩ := by
  obtain ⟨before, saved, snapshot, consumed, scan, shown⟩ := tallied.scan (by rw [confirming]; exact nofun)
  rw [saving] at consumed shown
  have consumed : state.producer.consumed = before ++ [some (.resumed checkpoint)] := consumed
  have shown : state.statistics.snapshot = snapshot := by simpa using shown
  rw [State.scan, shown] at back
  refine ⟨saved, ?_⟩
  rw [consumed, ledger_concat, Ledger.take]
  dsimp only
  rw [scan]
  exact resumed_frame saved back

end Tallies

end Terrasync.App.ScanPipeline
