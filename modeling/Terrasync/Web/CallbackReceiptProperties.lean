import Terrasync.Lib.Fallible
import Terrasync.Web.CallbackReceipt
import Mathlib.Data.List.Chain

/-! Progress never moves backwards. One transaction is taken apart once; everything about
runs follows from what an accepted and a refused report may write. -/

set_option autoImplicit false

namespace Terrasync.Web

open App Lib

namespace Identity

/-- Strictly later, where equal times belong to equal ids. -/
def Precedes (earlier later : CallbackIdentity) : Prop :=
  earlier.roundStartedAtMillis < later.roundStartedAtMillis ∨
    earlier.roundStartedAtMillis = later.roundStartedAtMillis ∧ earlier.roundId = later.roundId ∧
      (earlier.attemptStartedAtMillis < later.attemptStartedAtMillis ∨
        earlier.attemptStartedAtMillis = later.attemptStartedAtMillis ∧
          earlier.attemptId = later.attemptId ∧ earlier.sequence < later.sequence)

/-- The attempt of the second identity started after the attempt of the first. -/
def StartsBefore (earlier later : CallbackIdentity) : Prop :=
  earlier.roundStartedAtMillis < later.roundStartedAtMillis ∨
    earlier.roundStartedAtMillis = later.roundStartedAtMillis ∧
      earlier.attemptStartedAtMillis < later.attemptStartedAtMillis

theorem Precedes.trans {first second third : CallbackIdentity} (before : Precedes first second)
    (after : Precedes second third) : Precedes first third := by
  rcases before with round | ⟨round, roundId, attempt | ⟨attempt, attemptId, sequence⟩⟩
  · rcases after with later | ⟨later, -⟩
    · exact .inl (round.trans later)
    · exact .inl (later ▸ round)
  · rcases after with later | ⟨later, laterId, next | ⟨next, -⟩⟩
    · exact .inl (round ▸ later)
    · exact .inr ⟨round.trans later, roundId.trans laterId, .inl (attempt.trans next)⟩
    · exact .inr ⟨round.trans later, roundId.trans laterId, .inl (next ▸ attempt)⟩
  · rcases after with later | ⟨later, laterId, next | ⟨next, nextId, last⟩⟩
    · exact .inl (round ▸ later)
    · exact .inr ⟨round.trans later, roundId.trans laterId, .inl (attempt ▸ next)⟩
    · exact .inr ⟨round.trans later, roundId.trans laterId,
        .inr ⟨attempt.trans next, attemptId.trans nextId, sequence.trans last⟩⟩

theorem StartsBefore.trans {first second third : CallbackIdentity} (before : StartsBefore first second)
    (after : Precedes second third) : StartsBefore first third := by
  rcases before with round | ⟨round, attempt⟩
  · rcases after with later | ⟨later, -⟩
    · exact .inl (round.trans later)
    · exact .inl (later ▸ round)
  · rcases after with later | ⟨later, -, next | ⟨next, -⟩⟩
    · exact .inl (round ▸ later)
    · exact .inr ⟨round.trans later, attempt.trans next⟩
    · exact .inr ⟨round.trans later, next ▸ attempt⟩

end Identity

namespace CallbackReceipt

/-- What following a cursor means: strictly later, and after a final report of another attempt. -/
theorem follows_spec {next current : CallbackIdentity} {finalReport : Bool}
    (newer : follows next current finalReport = true) :
    Identity.Precedes current next ∧
      (finalReport = true → Identity.StartsBefore current next ∧
        (current.roundId, current.attemptId) ≠ (next.roundId, next.attemptId)) := by
  simp only [follows] at newer
  cases round : compare next.roundStartedAtMillis current.roundStartedAtMillis with
  | lt => simp only [round, Bool.false_eq_true] at newer
  | gt =>
      simp only [round, decide_eq_true_eq] at newer
      have later := Nat.compare_eq_gt.mp round
      refine ⟨.inl later, fun _ => ⟨.inl later, ?_⟩⟩
      intro same
      exact newer (Prod.mk.inj same).1.symm
  | eq =>
      have equal := (Nat.compare_eq_eq.mp round).symm
      simp only [round] at newer
      split at newer
      · cases newer
      · next sameRound =>
          have roundId := (not_not.mp sameRound).symm
          cases attempt : compare next.attemptStartedAtMillis current.attemptStartedAtMillis with
          | lt => simp only [attempt, Bool.false_eq_true] at newer
          | gt =>
              simp only [attempt, decide_eq_true_eq] at newer
              have later := Nat.compare_eq_gt.mp attempt
              refine ⟨.inr ⟨equal, roundId, .inl later⟩, fun _ => ⟨.inr ⟨equal, later⟩, ?_⟩⟩
              intro same
              exact newer (Prod.mk.inj same).2.symm
          | eq =>
              simp only [attempt, decide_eq_true_eq] at newer
              obtain ⟨attemptId, sequence, open_⟩ := newer
              refine ⟨.inr ⟨equal, roundId, .inr ⟨(Nat.compare_eq_eq.mp attempt).symm, attemptId.symm, sequence⟩⟩, ?_⟩
              intro final
              exact absurd final open_

/-- Diagnostics are written to their own tables only. -/
structure KeepsProgress (tables stored : Tables) : Prop where
  tasks : stored.tasks = tables.tasks
  executions : stored.executions = tables.executions
  progress : stored.progress = tables.progress
  cursor : stored.cursor = tables.cursor

theorem KeepsProgress.refl (tables : Tables) : KeepsProgress tables tables := ⟨rfl, rfl, rfl, rfl⟩

theorem storeEvents_keeps {faults : Faults} {tables stored : Tables} {taskId : Text}
    {incoming : List DiagnosticEvent} (succeeded : storeEvents faults tables taskId incoming = .ok stored) :
    KeepsProgress tables stored := by
  simp only [storeEvents] at succeeded
  split at succeeded
  · cases succeeded
    exact .refl tables
  · obtain ⟨events, -, afterGather⟩ := bind_eq_ok.mp succeeded
    obtain ⟨_, -, afterSelect⟩ := bind_eq_ok.mp afterGather
    split at afterSelect
    · cases afterSelect
    · obtain ⟨_, -, afterInsert⟩ := bind_eq_ok.mp afterSelect
      cases afterInsert
      exact ⟨rfl, rfl, rfl, rfl⟩

theorem storeBatch_keeps {faults : Faults} {tables stored : Tables} {taskId : Text} {batch : DiagnosticBatch}
    (succeeded : storeBatch faults tables taskId batch = .ok stored) : KeepsProgress tables stored := by
  obtain ⟨_, -, afterSelect⟩ := bind_eq_ok.mp succeeded
  cases known : tables.batches taskId batch.batchId with
  | some existing =>
      simp only [known] at afterSelect
      split at afterSelect
      · cases afterSelect
        exact .refl tables
      · cases afterSelect
  | none =>
      simp only [known] at afterSelect
      obtain ⟨written, events, afterEvents⟩ := bind_eq_ok.mp afterSelect
      obtain ⟨_, -, afterInsert⟩ := bind_eq_ok.mp afterEvents
      obtain ⟨_, -, afterOmitted⟩ := bind_eq_ok.mp afterInsert
      obtain ⟨_, -, afterWrite⟩ := bind_eq_ok.mp afterOmitted
      cases afterWrite
      have kept := storeEvents_keeps events
      exact ⟨kept.tasks, kept.executions, kept.progress, kept.cursor⟩

/-- What an accepted report writes. -/
structure Writes (tables written : Tables) (submission : ProgressSubmission) : Prop where
  progress : written.progress =
    Function.update tables.progress submission.progress.taskId (some submission.progress)
  cursor : written.cursor = match submission.identity with
    | some identity =>
        Function.update tables.cursor submission.progress.taskId (some (identity, submission.progress.isFinal))
    | none => tables.cursor
  executions : written.executions = match submission.finalStats with
    | some stats =>
        tables.executions.writeStats (statsTarget tables.executions submission) submission.progress.taskId stats
    | none => tables.executions

theorem writeCursor_eq {faults : Faults} {tables written : Tables} {submission : ProgressSubmission}
    (succeeded : writeCursor faults tables submission = .ok written) :
    written = { tables with cursor := match submission.identity with
      | some identity => Function.update tables.cursor submission.progress.taskId
          (some (identity, submission.progress.isFinal))
      | none => tables.cursor } := by
  simp only [writeCursor] at succeeded
  cases identified : submission.identity with
  | none =>
      simp only [identified] at succeeded
      cases succeeded
      rfl
  | some identity =>
      simp only [identified] at succeeded
      obtain ⟨_, -, afterWrite⟩ := bind_eq_ok.mp succeeded
      cases afterWrite
      rfl

theorem writeStats_eq {faults : Faults} {tables written : Tables} {submission : ProgressSubmission}
    (succeeded : writeStats faults tables submission = .ok written) :
    written = { tables with executions := match submission.finalStats with
      | some stats => tables.executions.writeStats (statsTarget tables.executions submission)
          submission.progress.taskId stats
      | none => tables.executions } := by
  simp only [writeStats] at succeeded
  cases final : submission.finalStats with
  | none =>
      simp only [final] at succeeded
      cases succeeded
      rfl
  | some stats =>
      simp only [final] at succeeded
      obtain ⟨_, -, afterWrite⟩ := bind_eq_ok.mp succeeded
      cases afterWrite
      rfl

theorem storeProgress_writes {faults : Faults} {tables written : Tables} {submission : ProgressSubmission}
    (succeeded : storeProgress faults tables submission = .ok written) : Writes tables written submission := by
  obtain ⟨_, -, afterProgress⟩ := bind_eq_ok.mp succeeded
  obtain ⟨cursored, cursor, stats⟩ := bind_eq_ok.mp afterProgress
  cases writeCursor_eq cursor
  cases writeStats_eq stats
  exact ⟨rfl, rfl, rfl⟩

/-- The execution a report is bound to, if any, belongs to its task and runs as stated. -/
def Bound (tables : Tables) (submission : ProgressSubmission) (running : Option Bool) : Prop :=
  match submission.executionId with
  | none => running = none
  | some id => ∃ execution, tables.executions.find id submission.progress.taskId = some execution ∧
      running = some (decide (execution.status = .running))

theorem executionRunning_bound {faults : Faults} {tables : Tables} {submission : ProgressSubmission}
    {running : Option Bool} (succeeded : executionRunning faults tables submission = .ok running) :
    Bound tables submission running := by
  simp only [executionRunning] at succeeded
  cases bound : submission.executionId with
  | none =>
      simp only [bound] at succeeded
      cases succeeded
      simp only [Bound, bound]
  | some id =>
      simp only [bound] at succeeded
      obtain ⟨_, -, afterSelect⟩ := bind_eq_ok.mp succeeded
      cases found : tables.executions.find id submission.progress.taskId with
      | none =>
          simp only [found] at afterSelect
          cases afterSelect
      | some execution =>
          simp only [found] at afterSelect
          cases afterSelect
          simp only [Bound, bound]
          exact ⟨execution, found, rfl⟩

/-- Everything a committed transaction may do. -/
structure Committed (tables written : Tables) (submission : ProgressSubmission) (status : TaskStatus)
    (running : Option Bool) (receipt : ProgressReceipt) : Prop where
  known : tables.tasks submission.progress.taskId = some status
  bound : Bound tables submission running
  accepted : receipt.accepted =
    accepts (tables.cursor submission.progress.taskId) status running submission
  writes : receipt.accepted = true → Writes tables written submission
  refuses : receipt.accepted = false → KeepsProgress tables written

theorem storeDiagnostics_keeps {faults : Faults} {tables stored : Tables} {submission : ProgressSubmission}
    (succeeded : storeDiagnostics faults tables submission = .ok stored) : KeepsProgress tables stored := by
  simp only [storeDiagnostics] at succeeded
  cases delivered : submission.diagnostics with
  | none =>
      simp only [delivered] at succeeded
      cases succeeded
      exact .refl tables
  | some batch =>
      simp only [delivered] at succeeded
      exact storeBatch_keeps succeeded

theorem receive_committed {faults : Faults} {tables written : Tables} {submission : ProgressSubmission}
    {receipt : ProgressReceipt} (succeeded : receive faults tables submission = .ok (receipt, written)) :
    ∃ status running, Committed tables written submission status running receipt := by
  obtain ⟨_, -, afterTask⟩ := bind_eq_ok.mp succeeded
  cases known : tables.tasks submission.progress.taskId with
  | none =>
      simp only [known] at afterTask
      cases afterTask
  | some status =>
      simp only [known] at afterTask
      obtain ⟨_, -, afterValidation⟩ := bind_eq_ok.mp afterTask
      obtain ⟨running, execution, afterExecution⟩ := bind_eq_ok.mp afterValidation
      obtain ⟨stored, diagnostics, afterDiagnostics⟩ := bind_eq_ok.mp afterExecution
      obtain ⟨_, -, decided⟩ := bind_eq_ok.mp afterDiagnostics
      have kept := storeDiagnostics_keeps diagnostics
      rw [kept.cursor] at decided
      have bound := executionRunning_bound execution
      refine ⟨status, running, ?_⟩
      cases accepted : accepts (tables.cursor submission.progress.taskId) status running submission with
      | true =>
          simp only [accepted, if_true] at decided
          obtain ⟨final, progress, returned⟩ := bind_eq_ok.mp decided
          cases returned
          obtain ⟨wroteProgress, wroteCursor, wroteStats⟩ := storeProgress_writes progress
          rw [kept.progress] at wroteProgress
          rw [kept.cursor] at wroteCursor
          rw [kept.executions] at wroteStats
          exact ⟨known, bound, accepted.symm, fun _ => ⟨wroteProgress, wroteCursor, wroteStats⟩, nofun⟩
      | false =>
          simp only [accepted, Bool.false_eq_true, if_false] at decided
          cases decided
          exact ⟨known, bound, accepted.symm, nofun, fun _ => kept⟩

/-- Accepting means following the cursor; without a cursor there is nothing to follow. -/
theorem accepts_spec {cursor : Option (CallbackIdentity × Bool)} {status : TaskStatus} {running : Option Bool}
    {submission : ProgressSubmission} (accepted : accepts cursor status running submission = true) :
    (∀ current finalReport, cursor = some (current, finalReport) →
      ∃ identity, submission.identity = some identity ∧ follows identity current finalReport = true) ∧
      running.all id = true := by
  simp only [accepts, Bool.and_eq_true] at accepted
  obtain ⟨⟨newer, bound⟩, -⟩ := accepted
  refine ⟨?_, bound⟩
  intro current finalReport stored
  cases identified : submission.identity with
  | none => simp only [identified, stored, Bool.false_eq_true] at newer
  | some identity =>
      simp only [identified, stored] at newer
      exact ⟨identity, rfl, newer⟩

end CallbackReceipt

namespace Executions

/-- Final statistics reach at most one execution: a running one of the report's task, and
the one the report is bound to. -/
def Updated (before after : Executions) (submission : ProgressSubmission) : Prop :=
  after.rows = before.rows ∨ ∃ front row back stats, submission.finalStats = some stats ∧
    before.rows = front ++ row :: back ∧
    after.rows = front ++ { row with statsJson := some stats } :: back ∧
    row.taskId = submission.progress.taskId ∧ row.status = .running ∧
    ∀ id, submission.executionId = some id → row.id = id

theorem map_writeRow {rows : List Execution} (keyed : (rows.map Execution.id).Nodup) (id : Option Text)
    (taskId stats : Text) :
    rows.map (writeRow id taskId stats) = rows ∨
      ∃ front row back, rows = front ++ row :: back ∧
        rows.map (writeRow id taskId stats) = front ++ { row with statsJson := some stats } :: back ∧
        some row.id = id ∧ row.taskId = taskId ∧ row.status = .running := by
  induction rows with
  | nil => exact .inl rfl
  | cons row rest ih =>
      obtain ⟨fresh, distinct⟩ := List.nodup_cons.mp keyed
      by_cases chosen : some row.id = id ∧ row.taskId = taskId ∧ row.status = .running
      · -- the id is taken, so no later row is written
        have untouched : rest.map (writeRow id taskId stats) = rest := by
          rw [List.map_congr_left (g := fun other => other), List.map_id']
          intro other member
          simp only [writeRow]
          split
          · next written =>
              have same : other.id = row.id := Option.some.inj (written.1.trans chosen.1.symm)
              exact absurd (List.mem_map.mpr ⟨other, member, same⟩) fresh
          · rfl
        refine .inr ⟨[], row, rest, rfl, ?_, chosen⟩
        rw [List.map_cons, untouched, writeRow, if_pos chosen]
        rfl
      · have kept : writeRow id taskId stats row = row := if_neg chosen
        rcases ih distinct with same | ⟨front, target, back, split, written, rest⟩
        · refine .inl ?_
          rw [List.map_cons, same, kept]
        · refine .inr ⟨row :: front, target, back, ?_, ?_, rest⟩
          · rw [split]
            rfl
          · rw [List.map_cons, written, kept]
            rfl

end Executions

/-- What one transaction may do, seen from the tables it started with. -/
structure Guarded (faults : Faults) (tables : Tables) (submission : ProgressSubmission) : Prop where
  failed : ∀ reason, (SqliteProgressRepo.receive faults tables submission).1 = .error reason →
    (SqliteProgressRepo.receive faults tables submission).2 = tables
  idle : ∀ id, submission.executionId = some id →
    (∀ row ∈ tables.executions.rows, row.id = id → row.taskId = submission.progress.taskId →
      row.status ≠ .running) →
    CallbackReceipt.KeepsProgress tables (SqliteProgressRepo.receive faults tables submission).2
  statistics : tables.executions.Updated (SqliteProgressRepo.receive faults tables submission).2.executions
    submission

open CallbackReceipt

theorem SqliteProgressRepo.receive_cases (faults : Faults) (tables : Tables) (submission : ProgressSubmission) :
    (∃ reason, SqliteProgressRepo.receive faults tables submission = (.error reason, tables)) ∨
      ∃ receipt written status running,
        SqliteProgressRepo.receive faults tables submission = (.ok receipt, written) ∧
        Committed tables written submission status running receipt := by
  simp only [SqliteProgressRepo.receive]
  cases received : CallbackReceipt.receive faults tables submission with
  | error reason => exact .inl ⟨reason, rfl⟩
  | ok result =>
      obtain ⟨receipt, written⟩ := result
      obtain ⟨status, running, committed⟩ := receive_committed received
      cases query faults .commit with
      | error reason => exact .inl ⟨reason, rfl⟩
      | ok _ => exact .inr ⟨receipt, written, status, running, rfl, committed⟩

theorem find_mem {executions : Executions} {id taskId : Text} {row : Execution}
    (found : executions.find id taskId = some row) :
    row ∈ executions.rows ∧ row.id = id ∧ row.taskId = taskId := by
  have named := List.find?_some (p := fun row : Execution => decide (row.id = id ∧ row.taskId = taskId)) found
  exact ⟨List.mem_of_find?_eq_some found, of_decide_eq_true named⟩

/-- A report bound to an execution that does not run is never accepted. -/
theorem CallbackReceipt.Committed.running {tables written : Tables} {submission : ProgressSubmission} {status : TaskStatus}
    {running : Option Bool} {receipt : ProgressReceipt}
    (committed : Committed tables written submission status running receipt)
    (accepted : receipt.accepted = true) {id : Text} (bound : submission.executionId = some id) :
    ∃ row ∈ tables.executions.rows, row.id = id ∧ row.taskId = submission.progress.taskId ∧
      row.status = .running := by
  have belongs := committed.bound
  simp only [Bound, bound] at belongs
  obtain ⟨row, found, rfl⟩ := belongs
  obtain ⟨member, named, owned⟩ := find_mem found
  have runs := (accepts_spec (committed.accepted ▸ accepted)).2
  exact ⟨row, member, named, owned, of_decide_eq_true runs⟩

theorem CallbackReceipt.Writes.statistics {tables written : Tables} {submission : ProgressSubmission}
    (writes : Writes tables written submission) : tables.executions.Updated written.executions submission := by
  rw [writes.executions]
  cases final : submission.finalStats with
  | none => exact .inl rfl
  | some stats =>
      rcases Executions.map_writeRow tables.executions.keyed (statsTarget tables.executions submission)
          submission.progress.taskId stats with same | ⟨front, row, back, before, after, target, owned, runs⟩
      · exact .inl same
      · refine .inr ⟨front, row, back, stats, final, before, after, owned, runs, ?_⟩
        intro id bound
        simp only [statsTarget, bound, Option.some_or, Option.some.injEq] at target
        exact target

theorem guarded (faults : Faults) (tables : Tables) (submission : ProgressSubmission) :
    Guarded faults tables submission := by
  rcases SqliteProgressRepo.receive_cases faults tables submission with
    ⟨reason, failed⟩ | ⟨receipt, written, status, running, committed, outcome⟩
  · constructor
    · intro _ _
      rw [failed]
    · intro _ _ _
      rw [failed]
      exact .refl tables
    · rw [failed]
      exact .inl rfl
  · constructor
    · intro reason impossible
      rw [committed] at impossible
      cases impossible
    · intro id bound idle
      rw [committed]
      cases accepted : receipt.accepted with
      | false => exact outcome.refuses accepted
      | true =>
          obtain ⟨row, member, named, owned, runs⟩ := outcome.running accepted bound
          exact absurd runs (idle row member named owned)
    · rw [committed]
      cases accepted : receipt.accepted with
      | false => exact .inl (congrArg Executions.rows (outcome.refuses accepted).executions)
      | true => exact (outcome.writes accepted).statistics

namespace ProgressSubmission

/-- The later report is strictly newer, and of a later attempt once the earlier one is final. -/
def Advances (earlier later : ProgressSubmission) : Prop :=
  ∀ before, earlier.identity = some before → ∃ after, later.identity = some after ∧
    Identity.Precedes before after ∧ (earlier.progress.isFinal = true → Identity.StartsBefore before after)

/-- The report that replaces a final report belongs to another attempt. -/
def Replaces (earlier later : ProgressSubmission) : Prop :=
  ∀ before after, earlier.identity = some before → later.identity = some after →
    earlier.progress.isFinal = true → (before.roundId, before.attemptId) ≠ (after.roundId, after.attemptId)

instance : Trans Advances Advances Advances where
  trans := by
    intro first second third before after identity identified
    obtain ⟨middle, named, precedes, starts⟩ := before identity identified
    obtain ⟨last, lastNamed, follows, -⟩ := after middle named
    exact ⟨last, lastNamed, precedes.trans follows, fun final => (starts final).trans follows⟩

/-- Accepting a report against the cursor of the last one accepted. -/
theorem succeeds {last submission : ProgressSubmission} {status : TaskStatus} {running : Option Bool}
    (accepted : accepts (last.identity.map fun identity => (identity, last.progress.isFinal)) status running
      submission = true) : last.Advances submission ∧ last.Replaces submission := by
  obtain ⟨newer, -⟩ := accepts_spec accepted
  constructor
  · intro before identified
    obtain ⟨after, named, follows⟩ := newer before last.progress.isFinal (by rw [identified]; rfl)
    obtain ⟨precedes, final⟩ := follows_spec follows
    exact ⟨after, named, precedes, fun isFinal => (final isFinal).1⟩
  · intro before after identified named isFinal
    obtain ⟨same, sameNamed, follows⟩ := newer before last.progress.isFinal (by rw [identified]; rfl)
    cases named.symm.trans sameNamed
    exact ((follows_spec follows).2 isFinal).2

end ProgressSubmission

namespace Receiver

/-- The tables of a task are those of its last accepted report. -/
structure Tracks (start : Tables) (taskId : Text) (receiver : Receiver) : Prop where
  chain : (receiver.acceptedFor taskId).IsChain fun earlier later =>
    earlier.Advances later ∧ earlier.Replaces later
  progress : receiver.tables.progress taskId =
    ((receiver.acceptedFor taskId).getLast?.map ProgressSubmission.progress).or (start.progress taskId)
  cursor : ∀ last ∈ (receiver.acceptedFor taskId).getLast?,
    receiver.tables.cursor taskId = last.identity.map fun identity => (identity, last.progress.isFinal)

theorem Tracks.congr {start : Tables} {taskId : Text} {receiver next : Receiver}
    (tracks : receiver.Tracks start taskId) (accepted : next.acceptedFor taskId = receiver.acceptedFor taskId)
    (progress : next.tables.progress taskId = receiver.tables.progress taskId)
    (cursor : next.tables.cursor taskId = receiver.tables.cursor taskId) : next.Tracks start taskId := by
  constructor
  · rw [accepted]
    exact tracks.chain
  · rw [accepted, progress]
    exact tracks.progress
  · rw [accepted, cursor]
    exact tracks.cursor

theorem acceptedFor_append (receiver : Receiver) (tables : Tables) (submission : ProgressSubmission)
    (taskId : Text) :
    acceptedFor { tables, accepted := receiver.accepted ++ [submission] } taskId =
      receiver.acceptedFor taskId ++ if submission.progress.taskId = taskId then [submission] else [] := by
  simp only [acceptedFor, List.filter_append, List.filter_cons, List.filter_nil, decide_eq_true_eq]

/-- An accepted report becomes the last one. -/
theorem Tracks.accept {start : Tables} {taskId : Text} {receiver : Receiver} {submission : ProgressSubmission}
    {status : TaskStatus} {running : Option Bool} {receipt : ProgressReceipt} {written : Tables}
    (tracks : receiver.Tracks start taskId)
    (committed : Committed receiver.tables written submission status running receipt)
    (accepted : receipt.accepted = true) :
    Tracks start taskId { tables := written, accepted := receiver.accepted ++ [submission] } := by
  obtain ⟨progress, cursor, -⟩ := committed.writes accepted
  have agreed := committed.accepted ▸ accepted
  have appended := acceptedFor_append receiver written submission taskId
  by_cases own : submission.progress.taskId = taskId
  · rw [if_pos own] at appended
    cases own
    constructor
    · rw [appended]
      apply tracks.chain.append (.singleton submission)
      intro last member other single
      cases Option.mem_some_iff.mp single
      rw [tracks.cursor last member] at agreed
      exact ProgressSubmission.succeeds agreed
    · rw [appended, List.getLast?_concat, progress]
      exact Function.update_self ..
    · rw [appended, List.getLast?_concat]
      intro last member
      cases Option.mem_some_iff.mp member
      simp only [cursor]
      cases identified : submission.identity with
      | some identity => exact Function.update_self ..
      | none =>
          -- a report without identity is accepted only without a cursor
          cases stored : receiver.tables.cursor submission.progress.taskId with
          | none => exact stored
          | some current =>
              obtain ⟨identity, named, -⟩ := (accepts_spec agreed).1 current.1 current.2 stored
              rw [identified] at named
              cases named
  · rw [if_neg own, List.append_nil] at appended
    apply tracks.congr appended
    · simp only [progress]
      exact Function.update_of_ne (Ne.symm own) ..
    · simp only [cursor]
      cases submission.identity with
      | some identity => exact Function.update_of_ne (Ne.symm own) ..
      | none => rfl

theorem tracks_step {start : Tables} {taskId : Text} {receiver next : Receiver} {action : Action}
    (tracks : receiver.Tracks start taskId) (stepped : receiver.step action = some next) :
    next.Tracks start taskId := by
  cases action with
  | environment tasks executions =>
      cases stepped
      exact tracks.congr rfl rfl rfl
  | receive faults submission =>
      cases stepped
      rcases SqliteProgressRepo.receive_cases faults receiver.tables submission with
        ⟨reason, failed⟩ | ⟨receipt, written, status, running, committed, outcome⟩
      · rw [failed]
        exact tracks.congr rfl rfl rfl
      · rw [committed]
        cases accepted : receipt.accepted with
        | true =>
            simp only [wasAccepted, accepted, if_true]
            exact tracks.accept outcome accepted
        | false =>
            have kept := outcome.refuses accepted
            simp only [wasAccepted, accepted, Bool.false_eq_true, if_false]
            exact tracks.congr rfl (congrFun kept.progress taskId) (congrFun kept.cursor taskId)

/-- The reports a receiver accepts for a task only move forward, the stored progress is the
last of them, and no transaction writes more than it may. -/
theorem progress_never_moves_backwards {start final : Receiver} {actions : List Action}
    (fresh : start.accepted = []) (run : machine.exec start actions = some final) (taskId : Text) :
    (final.acceptedFor taskId).Pairwise ProgressSubmission.Advances ∧
      (final.acceptedFor taskId).IsChain ProgressSubmission.Replaces ∧
      final.tables.progress taskId =
        ((final.acceptedFor taskId).getLast?.map ProgressSubmission.progress).or
          (start.tables.progress taskId) ∧
      ∀ faults submission, Guarded faults final.tables submission := by
  have initially : start.Tracks start.tables taskId := by
    have none : start.acceptedFor taskId = [] := by
      rw [acceptedFor, fresh]
      rfl
    constructor
    · rw [none]
      exact .nil
    · rw [none]
      rfl
    · rw [none]
      exact nofun
  have tracks := machine.exec_invariant tracks_step initially run
  refine ⟨?_, ?_, tracks.progress, fun faults submission => guarded faults final.tables submission⟩
  · exact List.isChain_iff_pairwise.mp (tracks.chain.imp fun _ _ both => both.1)
  · exact tracks.chain.imp fun _ _ both => both.2

def sampleTables : Tables where
  tasks := fun id => if id = ['t'] then some .running else none
  executions := { rows := [⟨['e'], ['t'], .running, 1, none⟩], keyed := by decide }
  progress := fun _ => none
  cursor := fun _ => none
  events := fun _ _ => none
  batches := fun _ _ => none
  omitted := fun _ => none

def sampleReport (sequence : Nat) (isFinal : Bool) : ProgressSubmission where
  progress := ⟨['t'], [], isFinal, sequence⟩
  identity := some ⟨['r'], ['a'], 1, 2, sequence⟩
  diagnostics := none
  executionId := some ['e']
  finalStats := if isFinal then some [] else none

/-- A first report, the final one, and a report that comes too late. -/
def sampleActions : List Action :=
  [sampleReport 1 false, sampleReport 3 true, sampleReport 4 false].map (.receive fun _ => false)

theorem sampleRun_enabled : (machine.exec ⟨sampleTables, []⟩ sampleActions).isSome = true := by decide

def sampleFinal : Receiver := (machine.exec ⟨sampleTables, []⟩ sampleActions).get sampleRun_enabled

example : sampleFinal.accepted = [sampleReport 1 false, sampleReport 3 true] := by decide

theorem progress_never_moves_backwards_sample :
    (sampleFinal.acceptedFor ['t']).Pairwise ProgressSubmission.Advances ∧
      (sampleFinal.acceptedFor ['t']).IsChain ProgressSubmission.Replaces ∧
      sampleFinal.tables.progress ['t'] =
        ((sampleFinal.acceptedFor ['t']).getLast?.map ProgressSubmission.progress).or none ∧
      ∀ faults submission, Guarded faults sampleFinal.tables submission :=
  progress_never_moves_backwards rfl (Option.some_get sampleRun_enabled).symm ['t']

end Receiver

end Terrasync.Web
