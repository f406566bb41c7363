import Terrasync.Observation

/-! The local transfer loop of `local_transfer.rs`. The traversal's items are given; what the
transfers, the sink and the join set answer is taken from a world, so that every completion
order and every pattern of sink errors is some world. No transfer panics. -/

set_option autoImplicit false

namespace Terrasync.App.LocalTransfer

/-- `max_concurrent_files`. -/
abbrev NonZeroUsize := { value : Nat // 0 < value }

structure TransferOutcome where
  transferredBytes : Nat
deriving DecidableEq, Repr

structure TransferFailure where
  diagnostic : String
deriving DecidableEq, Repr

structure EntryOperationFailure where
  path : RelativePath
  diagnostic : String
deriving DecidableEq, Repr

/-- `other` stands for the errors of the sink, the session and the data-mover calls. -/
inductive AppError where
  | configError (message : String)
  | traversalCountMismatch (consumedEntries reportedEntries consumedFailures reportedFailures : Nat)
  | other (diagnostic : String)
deriving DecidableEq, Repr

/-- `unsupported` carries the debug text of an event that this loop does not take. -/
inductive TraversalItem where
  | entry (entry : ObservedEntry)
  | failure (failure : EntryOperationFailure)
  | directoryListed
  | checkpoint
  | unsupported (text : String)
deriving DecidableEq, Repr

structure ScanTotals where
  emitted : Nat
  failedChildren : Nat
  listingFailures : Nat
deriving DecidableEq, Repr

inductive TraversalOutcome where
  | cancelled
  | completed (totals : ScanTotals)
deriving DecidableEq, Repr

structure LocalTransferReport where
  observedEntries : Nat
  completedFiles : Nat
  transferredBytes : Nat
  entryFailures : Nat
  transferFailures : Nat
  skippedNonFiles : Nat
  peakInflightFiles : Nat
  cancelled : Bool
deriving DecidableEq, Repr

def LocalTransferReport.default : LocalTransferReport := ⟨0, 0, 0, 0, 0, 0, 0, false⟩

/-- A spawned transfer; the number tells attempts on equal entries apart. -/
structure Attempt where
  number : Nat
  entry : ObservedEntry
deriving DecidableEq, Repr

inductive SinkCall where
  | completed (attempt : Attempt) (outcome : TransferOutcome)
  | entryFailed (failure : EntryOperationFailure)
  | transferFailed (attempt : Attempt) (failure : TransferFailure)
deriving DecidableEq, Repr

/-- `request` is `request_for`; `transfer` is how an attempt ends; the n-th `join_next` yields the
attempt at place `joins n` of those in the set; `sink n` is the error of the n-th sink call. -/
structure World where
  request : ObservedEntry → Except AppError Unit
  transfer : Attempt → Except TransferFailure TransferOutcome
  joins : Nat → Nat
  sink : Nat → Option AppError

/-- The variables of `run_local_transfer`, with the calls on the sink, the attempts spawned and
the size of the join set after each spawn. -/
structure Run where
  report : LocalTransferReport
  attempts : List Attempt
  joined : Nat
  cancelled : Bool
  calls : List SinkCall
  spawned : List Attempt
  inflight : List Nat
deriving DecidableEq, Repr

def Run.start : Run := ⟨.default, [], 0, false, [], [], []⟩

section

variable (world : World)

def callSink (run : Run) (call : SinkCall) : Option AppError × Run :=
  (world.sink run.calls.length, { run with calls := run.calls ++ [call] })

def settleOne (run : Run) : Option AppError × Run :=
  let place := world.joins run.joined % run.attempts.length
  match run.attempts[place]? with
  | none => (none, run)
  | some attempt =>
      let run := { run with attempts := run.attempts.eraseIdx place, joined := run.joined + 1 }
      match world.transfer attempt with
      | .ok outcome =>
          callSink world { run with
            report := { run.report with
              completedFiles := run.report.completedFiles + 1
              transferredBytes := run.report.transferredBytes + outcome.transferredBytes } }
            (.completed attempt outcome)
      | .error failure =>
          callSink world { run with
            report := { run.report with transferFailures := run.report.transferFailures + 1 } }
            (.transferFailed attempt failure)

/-- `while least <= attempts.len() { settle_one()? }`, with a turn for each attempt. -/
def settleWhile (least : Nat) : Nat → Run → Option AppError × Run
  | 0, run => (none, run)
  | turns + 1, run =>
      if least ≤ run.attempts.length then
        match settleOne world run with
        | (some error, run) => (some error, run)
        | (none, run) => settleWhile least turns run
      else (none, run)

/-- The loop of `drain_after_error`, which drops the errors of the sink. -/
def drain : Nat → Run → Run
  | 0, run => run
  | turns + 1, run => if run.attempts.isEmpty then run else drain turns (settleOne world run).2

def spawn (run : Run) (entry : ObservedEntry) : Run :=
  let attempt : Attempt := ⟨run.spawned.length, entry⟩
  let attempts := run.attempts ++ [attempt]
  { run with
    attempts
    spawned := run.spawned ++ [attempt]
    inflight := run.inflight ++ [attempts.length]
    report := { run.report with peakInflightFiles := max run.report.peakInflightFiles attempts.length } }

/-- The body of the loop over the traversal; an error leaves the loop for `drain_after_error`. -/
def handle (limit : NonZeroUsize) (run : Run) : TraversalItem → Option AppError × Run
  | .entry entry =>
      let run := { run with report := { run.report with observedEntries := run.report.observedEntries + 1 } }
      if entry.kind ≠ .file then
        (none, { run with report := { run.report with skippedNonFiles := run.report.skippedNonFiles + 1 } })
      else
        match settleWhile world limit.1 run.attempts.length run with
        | (some error, run) => (some error, run)
        | (none, run) =>
            match world.request entry with
            | .error error => (some error, run)
            | .ok () => (none, spawn run entry)
  | .failure failure =>
      callSink world { run with report := { run.report with entryFailures := run.report.entryFailures + 1 } }
        (.entryFailed failure)
  | .directoryListed | .checkpoint => (none, run)
  | .unsupported text => (some (.configError ("unsupported traversal event: " ++ text)), run)

/-- The part behind `session.finish()`. -/
def close (finish : Except AppError TraversalOutcome) (run : Run) : Except AppError LocalTransferReport × Run :=
  match finish with
  | .error error => (.error error, run)
  | .ok .cancelled =>
      let run := { run with report := { run.report with cancelled := true } }
      (.ok run.report, run)
  | .ok (.completed totals) =>
      if totals.emitted ≠ run.report.observedEntries ∨
          totals.failedChildren + totals.listingFailures ≠ run.report.entryFailures then
        (.error (.traversalCountMismatch run.report.observedEntries totals.emitted run.report.entryFailures
          (totals.failedChildren + totals.listingFailures)), run)
      else (.ok run.report, run)

end

/-! ### Reading the items and the calls -/

def TraversalItem.entry? : TraversalItem → Option ObservedEntry
  | .entry listed => some listed
  | _ => none

def TraversalItem.failure? : TraversalItem → Option EntryOperationFailure
  | .failure refused => some refused
  | _ => none

def observed (items : List TraversalItem) : List ObservedEntry := items.filterMap TraversalItem.entry?

def files (items : List TraversalItem) : List ObservedEntry := (observed items).filter (·.kind = .file)

def nonFiles (items : List TraversalItem) : List ObservedEntry := (observed items).filter (·.kind ≠ .file)

def failures (items : List TraversalItem) : List EntryOperationFailure := items.filterMap TraversalItem.failure?

def SinkCall.attempt? : SinkCall → Option Attempt
  | .completed attempt _ | .transferFailed attempt _ => some attempt
  | .entryFailed _ => none

def SinkCall.failure? : SinkCall → Option EntryOperationFailure
  | .entryFailed failure => some failure
  | .completed .. | .transferFailed .. => none

/-- The call reports how its attempt ended. -/
def SinkCall.Reports (world : World) : SinkCall → Prop
  | .completed attempt outcome => world.transfer attempt = .ok outcome
  | .transferFailed attempt failure => world.transfer attempt = .error failure
  | .entryFailed _ => True

end Terrasync.App.LocalTransfer
