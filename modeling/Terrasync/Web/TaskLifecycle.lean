import Terrasync.Lib.Machine
import Terrasync.Web.Task

/-! Concurrent requests for one task, and its worker threads, as a machine that steps
from one await to the next. A process is one request; a `start_task` that succeeds goes
on as the worker thread it spawned. -/

set_option autoImplicit false

namespace Terrasync.Web

/-- Where a request or the worker it spawned stands, with the task it works on. -/
inductive Process where
  | idle
  | startReading
  | startClaiming (task : MigrationTask)
  | startLookingUp (task : MigrationTask)
  | startSaving (task : MigrationTask)
  | startMarking (task : MigrationTask)
  | workerCreating (task : MigrationTask)
  | workerClearing (task : MigrationTask)
  | workerWritingBack (task : MigrationTask)
  | workerRunning (task : MigrationTask)
  | workerMarking (status : TaskStatus)
  | workerMarkingExecution (status : TaskStatus)
  | updateReading (request : UpdateTaskRequest)
  | updateWriting (task : MigrationTask)
  | deleteReading
  | deleteCleaning
  | deleteDropping
  | deleteExecutions
  | deleteRow
  | returned
deriving DecidableEq

namespace Process

/-- The process owns the guard of the task's entry in `running_tasks`. -/
def holdsSlot : Process → Bool
  | startLookingUp _ | startSaving _ | startMarking _ => true
  | workerCreating _ | workerClearing _ | workerWritingBack _ | workerRunning _ => true
  | workerMarking _ | workerMarkingExecution _ => true
  | _ => false

def isWorker : Process → Bool
  | workerCreating _ | workerClearing _ | workerWritingBack _ | workerRunning _ => true
  | workerMarking _ | workerMarkingExecution _ => true
  | _ => false

/-- A `delete_task` that passed its check. -/
def deletes : Process → Bool
  | deleteCleaning | deleteDropping | deleteExecutions | deleteRow => true
  | _ => false

end Process

/-- An execution of the task, named after the process that saved it. -/
structure TaskExecution where
  id : Nat
  status : TaskStatus
deriving DecidableEq, Repr

structure TaskSystem where
  task : Option MigrationTask
  executions : List TaskExecution
  /-- The settings of each run that wrote to the scan tables. -/
  scanTables : List ScanScope
  jobDir : Bool
  /-- The task's entry in `running_tasks`, as the process that inserted it. -/
  runningTask : Option Nat
  cancelled : Nat → Bool
  processes : Nat → Process

inductive Request where
  | start
  | cancel
  | update (request : UpdateTaskRequest)
  | delete

/-- How an await ends. -/
inductive Outcome where
  | ok
  | failed
deriving DecidableEq

inductive TaskAction where
  | request (process : Nat) (request : Request)
  | advance (process : Nat) (outcome : Outcome)
  /-- A running worker writes scan rows or its job directory. -/
  | work (process : Nat)
  /-- The server stops and starts again. -/
  | restart

/-- `task_outcome` -/
def taskOutcome (outcome : Outcome) (cancelled : Bool) : TaskStatus :=
  if cancelled then .cancelled
  else
    match outcome with
    | .ok => .completed
    | .failed => .failed

namespace TaskSystem

/-- A task that `create_task` just saved. -/
def created (task : MigrationTask) : TaskSystem where
  task := some (task.withStatus .pending)
  executions := []
  scanTables := []
  jobDir := false
  runningTask := none
  cancelled := fun _ => false
  processes := fun _ => .idle

def setProcess (system : TaskSystem) (process : Nat) (next : Process) : TaskSystem :=
  { system with processes := Function.update system.processes process next }

/-- The guard is dropped. -/
def release (system : TaskSystem) (process : Nat) : TaskSystem :=
  { system.setProcess process .returned with runningTask := none }

/-- `start_task` of the service: it reads the task before the runner sees it. -/
def startRead (system : TaskSystem) (process : Nat) : Outcome → TaskSystem
  | .ok =>
      match system.task with
      | some task => system.setProcess process (.startClaiming task)
      | none => system.setProcess process .returned
  | .failed => system.setProcess process .returned

/-- The check, the slot and the permit, without an await between them. -/
def startClaim (system : TaskSystem) (process : Nat) (task : MigrationTask) :
    Outcome → TaskSystem
  | .ok =>
      if task.status.canStart ∧ system.runningTask = none then
        { system.setProcess process (.startLookingUp task) with runningTask := some process }
      else system.setProcess process .returned
  | .failed => system.setProcess process .returned

def startLookUp (tables : Endpoints) (system : TaskSystem) (process : Nat)
    (task : MigrationTask) : Outcome → TaskSystem
  | .ok =>
      if task.resolves tables then system.setProcess process (.startSaving task)
      else system.release process
  | .failed => system.release process

/-- The execution's foreign key needs the task's row. -/
def startSave (system : TaskSystem) (process : Nat) (task : MigrationTask) :
    Outcome → TaskSystem
  | .ok =>
      match system.task with
      | some _ =>
          { system.setProcess process (.startMarking task) with
            executions := system.executions ++ [⟨process, .running⟩] }
      | none => system.release process
  | .failed => system.release process

/-- A failure here leaves the saved execution as it is. -/
def startMark (system : TaskSystem) (process : Nat) (task : MigrationTask) :
    Outcome → TaskSystem
  | .ok =>
      match system.task with
      | some row =>
          { system.setProcess process (.workerCreating task) with
            task := some (row.withStatus .running) }
      | none => system.release process
  | .failed => system.release process

/-- Without a runtime the thread returns at once. -/
def workerCreate (system : TaskSystem) (process : Nat) (task : MigrationTask) :
    Outcome → TaskSystem
  | .ok =>
      if task.taskType = .scan ∧ task.config.resetScanOnStart then
        system.setProcess process (.workerClearing task)
      else system.setProcess process (.workerRunning task)
  | .failed => system.release process

def finish (system : TaskSystem) (process : Nat) (outcome : Outcome) : TaskSystem :=
  system.setProcess process (.workerMarking (taskOutcome outcome (system.cancelled process)))

def workerClear (system : TaskSystem) (process : Nat) (task : MigrationTask) :
    Outcome → TaskSystem
  | .ok => { system.setProcess process (.workerWritingBack task) with scanTables := [] }
  | .failed => system.finish process .failed

/-- The worker stores the whole task as `start_task` read it. -/
def workerWriteBack (system : TaskSystem) (process : Nat) (task : MigrationTask) :
    Outcome → TaskSystem
  | .ok =>
      match system.task with
      | some row =>
          { system.setProcess process (.workerRunning task) with
            task := some (row.store task.clearReset) }
      | none => system.finish process .failed
  | .failed => system.finish process .failed

/-- A failure to store the status is only logged. -/
def workerMark (system : TaskSystem) (process : Nat) (status : TaskStatus) :
    Outcome → TaskSystem
  | .ok =>
      { system.setProcess process (.workerMarkingExecution status) with
        task := system.task.map fun row => row.withStatus status }
  | .failed => system.setProcess process (.workerMarkingExecution status)

def markExecution (process : Nat) (status : TaskStatus) (execution : TaskExecution) :
    TaskExecution :=
  if execution.id = process then { execution with status := status } else execution

def workerMarkExecution (system : TaskSystem) (process : Nat) (status : TaskStatus) :
    Outcome → TaskSystem
  | .ok =>
      { system.release process with
        executions := system.executions.map (markExecution process status) }
  | .failed => system.release process

/-- The lookups of an edit read nothing that other requests for the task write, so they
belong to the step that reads the task. -/
def updateRead (tables : Endpoints) (system : TaskSystem) (process : Nat)
    (request : UpdateTaskRequest) : Outcome → TaskSystem
  | .ok =>
      match system.task with
      | some old =>
          if old.status = .running then system.setProcess process .returned
          else
            match old.edit tables request with
            | .ok task => system.setProcess process (.updateWriting task)
            | .error _ => system.setProcess process .returned
      | none => system.setProcess process .returned
  | .failed => system.setProcess process .returned

def updateWrite (system : TaskSystem) (process : Nat) (task : MigrationTask) :
    Outcome → TaskSystem
  | .ok =>
      { system.setProcess process .returned with
        task := system.task.map fun row => row.store task }
  | .failed => system.setProcess process .returned

def deleteRead (system : TaskSystem) (process : Nat) : Outcome → TaskSystem
  | .ok =>
      match system.task with
      | some task =>
          if task.status.canDelete then system.setProcess process .deleteCleaning
          else system.setProcess process .returned
      | none => system.setProcess process .returned
  | .failed => system.setProcess process .returned

/-- The job directory is removed at once, a failure is only logged. -/
def deleteClean (system : TaskSystem) (process : Nat) : Outcome → TaskSystem
  | .ok => { system.setProcess process .deleteDropping with jobDir := false }
  | .failed => system.setProcess process .deleteDropping

def deleteDrop (system : TaskSystem) (process : Nat) : Outcome → TaskSystem
  | .ok => { system.setProcess process .deleteExecutions with scanTables := [] }
  | .failed => system.setProcess process .deleteExecutions

def deleteByTaskId (system : TaskSystem) (process : Nat) : Outcome → TaskSystem
  | .ok => { system.setProcess process .deleteRow with executions := [] }
  | .failed => system.setProcess process .returned

/-- The executions go with the row. -/
def deleteTaskRow (system : TaskSystem) (process : Nat) : Outcome → TaskSystem
  | .ok => { system.setProcess process .returned with task := none, executions := [] }
  | .failed => system.setProcess process .returned

def advance (tables : Endpoints) (system : TaskSystem) (process : Nat) (outcome : Outcome) :
    Option TaskSystem :=
  match system.processes process with
  | .idle => none
  | .startReading => some (system.startRead process outcome)
  | .startClaiming task => some (system.startClaim process task outcome)
  | .startLookingUp task => some (system.startLookUp tables process task outcome)
  | .startSaving task => some (system.startSave process task outcome)
  | .startMarking task => some (system.startMark process task outcome)
  | .workerCreating task => some (system.workerCreate process task outcome)
  | .workerClearing task => some (system.workerClear process task outcome)
  | .workerWritingBack task => some (system.workerWriteBack process task outcome)
  | .workerRunning _ => some (system.finish process outcome)
  | .workerMarking status => some (system.workerMark process status outcome)
  | .workerMarkingExecution status => some (system.workerMarkExecution process status outcome)
  | .updateReading request => some (system.updateRead tables process request outcome)
  | .updateWriting task => some (system.updateWrite process task outcome)
  | .deleteReading => some (system.deleteRead process outcome)
  | .deleteCleaning => some (system.deleteClean process outcome)
  | .deleteDropping => some (system.deleteDrop process outcome)
  | .deleteExecutions => some (system.deleteByTaskId process outcome)
  | .deleteRow => some (system.deleteTaskRow process outcome)
  | .returned => none

/-- `cancel_task`: the token in the task's entry, without an await. -/
def cancelTask (system : TaskSystem) (process : Nat) : TaskSystem :=
  match system.runningTask with
  | some holder =>
      { system.setProcess process .returned with
        cancelled := Function.update system.cancelled holder true }
  | none => system.setProcess process .returned

def request (system : TaskSystem) (process : Nat) (request : Request) : Option TaskSystem :=
  if system.processes process = .idle then
    match request with
    | .start => some (system.setProcess process .startReading)
    | .cancel => some (system.cancelTask process)
    | .update edit => some (system.setProcess process (.updateReading edit))
    | .delete => some (system.setProcess process .deleteReading)
  else none

def work (system : TaskSystem) (process : Nat) : Option TaskSystem :=
  match system.processes process with
  | .workerRunning task =>
      some { system with
        jobDir := true
        scanTables :=
          if task.taskType = .scan then system.scanTables ++ [task.scope] else system.scanTables }
  | _ => none

def recoveredStatus (taskType : Option TaskType) (status : TaskStatus) : TaskStatus :=
  if status = .running then
    if taskType = some .scan then .cancelled else .failed
  else status

/-- Every request and thread is gone, then `recover_interrupted_tasks` runs. -/
def restart (system : TaskSystem) : TaskSystem where
  task := system.task.map fun row =>
    row.withStatus (recoveredStatus (some row.taskType) row.status)
  executions := system.executions.map fun execution =>
    ⟨execution.id, recoveredStatus (system.task.map MigrationTask.taskType) execution.status⟩
  scanTables := system.scanTables
  jobDir := system.jobDir
  runningTask := none
  cancelled := system.cancelled
  processes := fun process => if system.processes process = .idle then .idle else .returned

def step (tables : Endpoints) (system : TaskSystem) : TaskAction → Option TaskSystem
  | .request process asked => system.request process asked
  | .advance process outcome => system.advance tables process outcome
  | .work process => system.work process
  | .restart => some system.restart

end TaskSystem

def taskLifecycle (tables : Endpoints) : Lib.Machine TaskSystem TaskAction where
  step := TaskSystem.step tables

end Terrasync.Web
