import Terrasync.App.Diagnostics
import Terrasync.Lib.Machine
import Mathlib.Logic.Function.Basic

/-! The transaction that receives one callback. Diagnostics are stored whether or not the
report is accepted; a report replaces the stored progress only when its identity follows the
stored cursor. Stored JSON texts are modelled by the values they encode. -/

set_option autoImplicit false

namespace Terrasync.Web

open App

inductive TaskStatus where
  | pending
  | running
  | completed
  | failed
  | cancelled
deriving DecidableEq, Repr

structure TaskProgress where
  taskId : Text
  reportJson : Text
  isFinal : Bool
  updatedAt : Nat
deriving DecidableEq, Repr

structure ProgressSubmission where
  progress : TaskProgress
  identity : Option CallbackIdentity
  diagnostics : Option DiagnosticBatch
  executionId : Option Text
  /-- the serialised `ExecutionStats` -/
  finalStats : Option Text
deriving DecidableEq, Repr

structure ProgressReceipt where
  accepted : Bool
  ack : CallbackAck
deriving DecidableEq, Repr

inductive WebError where
  | endpointNotFound (id : Text)
  | pathNotFound (id : Text)
  | taskNotFound (id : Text)
  | validation (message : String)
  | database
deriving DecidableEq, Repr

/-- A row of `task_executions`. -/
structure Execution where
  id : Text
  taskId : Text
  status : TaskStatus
  startedAt : Nat
  statsJson : Option Text
deriving DecidableEq, Repr

/-- The table `task_executions`, whose primary key is the id. -/
structure Executions where
  rows : List Execution
  keyed : (rows.map Execution.id).Nodup

namespace Executions

def find (executions : Executions) (id taskId : Text) : Option Execution :=
  executions.rows.find? fun row => row.id = id ∧ row.taskId = taskId

/-- The latest running execution of a task. -/
def latest (executions : Executions) (taskId : Text) : Option Execution :=
  ((executions.rows.filter fun row => row.taskId = taskId ∧ row.status = .running).mergeSort
    fun first second => second.startedAt ≤ first.startedAt).head?

/-- One row under `UPDATE task_executions SET stats_json=? WHERE id=? AND task_id=? AND status='running'`. -/
def writeRow (id : Option Text) (taskId stats : Text) (row : Execution) : Execution :=
  if some row.id = id ∧ row.taskId = taskId ∧ row.status = .running then { row with statsJson := some stats }
  else row

theorem writeRow_id (id : Option Text) (taskId stats : Text) (row : Execution) :
    (writeRow id taskId stats row).id = row.id := by
  simp only [writeRow]
  split <;> rfl

def writeStats (executions : Executions) (id : Option Text) (taskId stats : Text) : Executions where
  rows := executions.rows.map (writeRow id taskId stats)
  keyed := by
    have ids : Execution.id ∘ writeRow id taskId stats = Execution.id := funext (writeRow_id id taskId stats)
    rw [List.map_map, ids]
    exact executions.keyed

end Executions

/-- The tables the transaction reads and writes, keyed by the task. -/
structure Tables where
  tasks : Text → Option TaskStatus
  executions : Executions
  progress : Text → Option TaskProgress
  cursor : Text → Option (CallbackIdentity × Bool)
  events : Text → Text → Option DiagnosticEvent
  batches : Text → Text → Option DiagnosticBatch
  omitted : Text → Option Nat

inductive Statement where
  | selectTask
  | selectExecution
  | selectBatch
  | selectEvents
  | insertEvents
  | insertBatch
  | selectOmitted
  | writeOmitted
  | selectCursor
  | writeProgress
  | writeCursor
  | writeStats
  | commit
deriving DecidableEq, Repr

/-- The statements at which the database fails. -/
abbrev Faults := Statement → Bool

def query (faults : Faults) (statement : Statement) : Except WebError Unit :=
  if faults statement then .error .database else .ok ()

namespace CallbackReceipt

def invalidCallback : WebError := .validation "Invalid callback diagnostic identity or batch"

def validId (value : Text) : Bool :=
  value ≠ [] && value.byteLength ≤ 256 && value.all fun character =>
    character.isAlphanum || "-_:./".toList.contains character

def validateIdentity (identity : CallbackIdentity) : Bool :=
  validId identity.roundId && validId identity.attemptId &&
    identity.roundStartedAtMillis ≤ identity.attemptStartedAtMillis

def validateBatch (identity : Option CallbackIdentity) (batch : DiagnosticBatch) : Bool :=
  (validId batch.batchId && batch.events.length ≤ maxDiagnosticBatchEvents) &&
    (batch.events.all fun event =>
      validId event.eventId && validId event.roundId && validId event.attemptId &&
        identity.any fun identity => identity.roundId = event.roundId) &&
    identity.isSome

def validateSubmission (submission : ProgressSubmission) : Except WebError Unit :=
  if submission.identity.all validateIdentity ∧
      submission.diagnostics.all (validateBatch submission.identity) then
    .ok ()
  else .error invalidCallback

def follows (next current : CallbackIdentity) (finalReport : Bool) : Bool :=
  match compare next.roundStartedAtMillis current.roundStartedAtMillis with
  | .gt => next.roundId ≠ current.roundId
  | .lt => false
  | .eq =>
      if next.roundId ≠ current.roundId then false
      else match compare next.attemptStartedAtMillis current.attemptStartedAtMillis with
        | .gt => next.attemptId ≠ current.attemptId
        | .lt => false
        | .eq => next.attemptId = current.attemptId ∧ current.sequence < next.sequence ∧ ¬ finalReport

/-- The events of a batch by their id; one id with two contents is refused. -/
def gather (gathered : Text → Option DiagnosticEvent) :
    List DiagnosticEvent → Except WebError (Text → Option DiagnosticEvent)
  | [] => .ok gathered
  | event :: rest =>
      if (gathered event.eventId).any fun existing => existing ≠ event then .error invalidCallback
      else gather (Function.update gathered event.eventId (some event)) rest

def storeEvents (faults : Faults) (tables : Tables) (taskId : Text) (incoming : List DiagnosticEvent) :
    Except WebError Tables :=
  if incoming = [] then .ok tables
  else do
    let events ← gather (fun _ => none) incoming
    query faults .selectEvents
    if incoming.any fun event =>
        (tables.events taskId event.eventId).any fun existing => events event.eventId ≠ some existing then
      throw invalidCallback
    query faults .insertEvents
    -- INSERT OR IGNORE keeps the rows that exist
    return { tables with
      events := Function.update tables.events taskId fun eventId =>
        (tables.events taskId eventId).or (events eventId) }

def sanitizeBatch (batch : DiagnosticBatch) : DiagnosticBatch :=
  { batch with events := batch.events.map DiagnosticEvent.sanitize }

def storeBatch (faults : Faults) (tables : Tables) (taskId : Text) (batch : DiagnosticBatch) :
    Except WebError Tables := do
  let sanitized := sanitizeBatch batch
  query faults .selectBatch
  match tables.batches taskId batch.batchId with
  | some existing => if existing = sanitized then return tables else throw invalidCallback
  | none =>
      let tables ← storeEvents faults tables taskId sanitized.events
      query faults .insertBatch
      query faults .selectOmitted
      let total := min ((tables.omitted taskId).getD 0 + batch.omittedCount) u64Max
      query faults .writeOmitted
      return { tables with
        batches := Function.update tables.batches taskId
          (Function.update (tables.batches taskId) batch.batchId (some sanitized))
        omitted := Function.update tables.omitted taskId (some total) }

/-- A bound report must name an execution of its task; is that execution running? -/
def executionRunning (faults : Faults) (tables : Tables) (submission : ProgressSubmission) :
    Except WebError (Option Bool) :=
  match submission.executionId with
  | none => .ok none
  | some id => do
      query faults .selectExecution
      match tables.executions.find id submission.progress.taskId with
      | none => throw invalidCallback
      | some execution => return some (execution.status = .running)

def accepts (cursor : Option (CallbackIdentity × Bool)) (status : TaskStatus) (running : Option Bool)
    (submission : ProgressSubmission) : Bool :=
  let newer := match submission.identity, cursor with
    | some identity, some (current, finalReport) => follows identity current finalReport
    | some _, none => true
    | none, none => true
    | none, some _ => false
  newer && running.all id && !(submission.progress.isFinal && status ≠ .running)

/-- `COALESCE(?, latest running execution)` -/
def statsTarget (executions : Executions) (submission : ProgressSubmission) : Option Text :=
  submission.executionId.or ((executions.latest submission.progress.taskId).map Execution.id)

/-- A report without identity leaves the cursor alone. -/
def writeCursor (faults : Faults) (tables : Tables) (submission : ProgressSubmission) :
    Except WebError Tables :=
  match submission.identity with
  | none => .ok tables
  | some identity => do
      query faults .writeCursor
      return { tables with
        cursor := Function.update tables.cursor submission.progress.taskId
          (some (identity, submission.progress.isFinal)) }

def writeStats (faults : Faults) (tables : Tables) (submission : ProgressSubmission) :
    Except WebError Tables :=
  match submission.finalStats with
  | none => .ok tables
  | some stats => do
      query faults .writeStats
      return { tables with
        executions := tables.executions.writeStats (statsTarget tables.executions submission)
          submission.progress.taskId stats }

def storeProgress (faults : Faults) (tables : Tables) (submission : ProgressSubmission) :
    Except WebError Tables := do
  query faults .writeProgress
  let reported := { tables with
    progress := Function.update tables.progress submission.progress.taskId (some submission.progress) }
  let tables ← writeCursor faults reported submission
  writeStats faults tables submission

def storeDiagnostics (faults : Faults) (tables : Tables) (submission : ProgressSubmission) :
    Except WebError Tables :=
  match submission.diagnostics with
  | none => .ok tables
  | some batch => storeBatch faults tables submission.progress.taskId batch

/-- The part of the transaction after the task has been found. -/
def receiveFor (faults : Faults) (tables : Tables) (status : TaskStatus) (submission : ProgressSubmission) :
    Except WebError (ProgressReceipt × Tables) := do
  validateSubmission submission
  let running ← executionRunning faults tables submission
  let stored ← storeDiagnostics faults tables submission
  query faults .selectCursor
  let accepted := accepts (stored.cursor submission.progress.taskId) status running submission
  let receipt : ProgressReceipt :=
    { accepted, ack := { batchId := submission.diagnostics.map DiagnosticBatch.batchId } }
  if accepted then do
    let written ← storeProgress faults stored submission
    return (receipt, written)
  else return (receipt, stored)

def receive (faults : Faults) (tables : Tables) (submission : ProgressSubmission) :
    Except WebError (ProgressReceipt × Tables) := do
  query faults .selectTask
  match tables.tasks submission.progress.taskId with
  | none => throw (.taskNotFound submission.progress.taskId)
  | some status => receiveFor faults tables status submission

end CallbackReceipt

namespace SqliteProgressRepo

/-- An error, also one of the commit itself, rolls the transaction back. -/
def receive (faults : Faults) (tables : Tables) (submission : ProgressSubmission) :
    Except WebError ProgressReceipt × Tables :=
  match CallbackReceipt.receive faults tables submission with
  | .error reason => (.error reason, tables)
  | .ok (receipt, written) =>
      match query faults .commit with
      | .error reason => (.error reason, tables)
      | .ok () => (.ok receipt, written)

end SqliteProgressRepo

/-- The receiver over a run: its tables, and the accepted reports so far. -/
structure Receiver where
  tables : Tables
  accepted : List ProgressSubmission

namespace Receiver

inductive Action where
  | receive (faults : Faults) (submission : ProgressSubmission)
  /-- tasks and executions change their status, appear or are replaced -/
  | environment (tasks : Text → Option TaskStatus) (executions : Executions)

def wasAccepted : Except WebError ProgressReceipt → Bool
  | .ok receipt => receipt.accepted
  | .error _ => false

def step (receiver : Receiver) : Action → Option Receiver
  | .receive faults submission =>
      let outcome := SqliteProgressRepo.receive faults receiver.tables submission
      some {
        tables := outcome.2
        accepted := if wasAccepted outcome.1 then receiver.accepted ++ [submission] else receiver.accepted }
  | .environment tasks executions =>
      some { receiver with tables := { receiver.tables with tasks, executions } }

def machine : Lib.Machine Receiver Action := ⟨step⟩

/-- The accepted reports of one task, the newest last. -/
def acceptedFor (receiver : Receiver) (taskId : Text) : List ProgressSubmission :=
  receiver.accepted.filter fun submission => submission.progress.taskId = taskId

end Receiver

end Terrasync.Web
