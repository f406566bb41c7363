import Terrasync.Web.CallbackReceipt

/-! Migration tasks and the edits that `update_task` makes to one. Times and error texts
of a task are left out. -/

set_option autoImplicit false

namespace Terrasync.Web

open App

inductive TaskType where
  | scan
  | sync
  | integrityCheck
deriving DecidableEq, Repr

namespace TaskStatus

def canStart (status : TaskStatus) : Bool := status ≠ .running

def canDelete (status : TaskStatus) : Bool := status ≠ .running

end TaskStatus

structure TaskConfig where
  scanResume : Bool
  matchExpr : Option Text
  excludeExpr : Option Text
  depth : UInt32
  enableIntegrityCheck : Bool
  enableAcl : Bool
  qos : Option Text
  /-- the bits of the rate -/
  peakQosRate : UInt32
  blockSize : Option Text
  iops : Option UInt32
  concurrency : Option Nat
  resetScanOnStart : Bool
deriving DecidableEq, Repr

structure MigrationTask where
  id : Text
  name : Text
  taskType : TaskType
  sourceEndpointId : Text
  sourcePathId : Option Text
  destEndpointId : Option Text
  destPathId : Option Text
  config : TaskConfig
  status : TaskStatus
deriving DecidableEq, Repr

structure UpdateTaskRequest where
  name : Option Text
  sourceEndpointId : Option Text
  sourcePathId : Option Text
  config : Option TaskConfig
deriving DecidableEq, Repr

/-- What the tables of endpoints and paths hold. -/
structure Endpoints where
  hasEndpoint : Text → Bool
  hasPath : Text → Bool

/-- The characters with the Unicode property `White_Space`. -/
def isWhiteSpace (character : Char) : Bool :=
  let code := character.toNat
  (0x9 ≤ code && code ≤ 0xD) || code = 0x20 || code = 0x85 || code = 0xA0 || code = 0x1680 ||
    (0x2000 ≤ code && code ≤ 0x200A) || code = 0x2028 || code = 0x2029 || code = 0x202F ||
    code = 0x205F || code = 0x3000

/-- `name.trim().is_empty()` -/
def isBlank (name : Text) : Bool := name.all isWhiteSpace

def validateTaskConfig (config : TaskConfig) : Except WebError Unit :=
  match config.concurrency with
  | some value =>
      if 1 ≤ value ∧ value ≤ 128 then .ok () else .error (.validation "并发度必须为 1 到 128")
  | none => .ok ()

/-- What a scan reads besides its source data. -/
structure ScanScope where
  sourceEndpointId : Text
  sourcePathId : Option Text
  scanResume : Bool
  depth : UInt32
  matchExpr : Option Text
  excludeExpr : Option Text
deriving DecidableEq, Repr

namespace MigrationTask

def scope (task : MigrationTask) : ScanScope where
  sourceEndpointId := task.sourceEndpointId
  sourcePathId := task.sourcePathId
  scanResume := task.config.scanResume
  depth := task.config.depth
  matchExpr := task.config.matchExpr
  excludeExpr := task.config.excludeExpr

def editName (task : MigrationTask) : Option Text → Except WebError MigrationTask
  | none => .ok task
  | some name =>
      if isBlank name then .error (.validation "Task name cannot be empty")
      else .ok { task with name := name }

/-- Another endpoint drops the path. -/
def editSourceEndpoint (tables : Endpoints) (task : MigrationTask) :
    Option Text → Except WebError MigrationTask
  | none => .ok task
  | some sourceEndpointId =>
      if tables.hasEndpoint sourceEndpointId then
        .ok { task with
          sourceEndpointId := sourceEndpointId
          sourcePathId :=
            if task.sourceEndpointId ≠ sourceEndpointId then none else task.sourcePathId }
      else .error (.endpointNotFound sourceEndpointId)

def editSourcePath (tables : Endpoints) (task : MigrationTask) :
    Option Text → Except WebError MigrationTask
  | none => .ok task
  | some sourcePathId =>
      if sourcePathId = [] then .ok { task with sourcePathId := none }
      else if tables.hasPath sourcePathId then .ok { task with sourcePathId := some sourcePathId }
      else .error (.pathNotFound sourcePathId)

/-- A request cannot set the reset flag itself. -/
def editConfig (old task : MigrationTask) : Option TaskConfig → Except WebError MigrationTask
  | none => .ok task
  | some config => do
      validateTaskConfig config
      return { task with config := { config with resetScanOnStart := old.config.resetScanOnStart } }

/-- The edit changes what the scan tables would have to hold. -/
def changesScan (old task : MigrationTask) : Bool :=
  old.sourceEndpointId ≠ task.sourceEndpointId || old.sourcePathId ≠ task.sourcePathId ||
    old.config.scanResume ≠ task.config.scanResume || old.config.depth ≠ task.config.depth ||
    old.config.matchExpr ≠ task.config.matchExpr || old.config.excludeExpr ≠ task.config.excludeExpr

def requestReset (old task : MigrationTask) : MigrationTask :=
  if task.taskType = .scan ∧ changesScan old task then
    { task with config := { task.config with resetScanOnStart := true } }
  else task

/-- The body of `update_task` between its read and its write. -/
def edit (tables : Endpoints) (old : MigrationTask) (request : UpdateTaskRequest) :
    Except WebError MigrationTask := do
  let named ← old.editName request.name
  let sourced ← named.editSourceEndpoint tables request.sourceEndpointId
  let pathed ← sourced.editSourcePath tables request.sourcePathId
  let configured ← editConfig old pathed request.config
  return requestReset old configured

/-- `SqliteTaskRepo::update`: the columns it writes. -/
def store (row task : MigrationTask) : MigrationTask :=
  { row with
    name := task.name
    sourceEndpointId := task.sourceEndpointId
    sourcePathId := task.sourcePathId
    config := task.config }

def withStatus (row : MigrationTask) (status : TaskStatus) : MigrationTask :=
  { row with status := status }

def clearReset (task : MigrationTask) : MigrationTask :=
  { task with config := { task.config with resetScanOnStart := false } }

/-- The lookups that `start_task` makes. -/
def resolves (tables : Endpoints) (task : MigrationTask) : Bool :=
  tables.hasEndpoint task.sourceEndpointId && task.sourcePathId.all tables.hasPath &&
    match task.destEndpointId, task.destPathId with
    | some endpoint, some path => tables.hasEndpoint endpoint && tables.hasPath path
    | _, _ => true

end MigrationTask

end Terrasync.Web
