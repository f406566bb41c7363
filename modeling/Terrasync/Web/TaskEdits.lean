import Terrasync.Lib.Fallible
import Terrasync.Web.TaskLifecycleProperties

/-! What a worker's reset does to concurrent edits of its task, and whose rows the scan
tables hold when a worker scans. -/

set_option autoImplicit false

namespace Terrasync.Web

open App Lib

namespace MigrationTask

/-- What `update_task` returns, apart from the reset flag. -/
def edits (task : MigrationTask) : Text × Text × Option Text × TaskConfig :=
  (task.name, task.sourceEndpointId, task.sourcePathId, task.clearReset.config)

/-- A scan started from this task does not clear the tables, so they must have its scope. -/
def bound (task : MigrationTask) : Option ScanScope :=
  if task.config.resetScanOnStart then none else some task.scope

theorem edits_store (row task : MigrationTask) : (row.store task).edits = task.edits := rfl

theorem edits_withStatus (row : MigrationTask) (status : TaskStatus) :
    (row.withStatus status).edits = row.edits := rfl

theorem bound_withStatus (row : MigrationTask) (status : TaskStatus) :
    (row.withStatus status).bound = row.bound := rfl

theorem bound_store (row task : MigrationTask) : (row.store task).bound = task.bound := rfl

theorem bound_clearReset (task : MigrationTask) : task.clearReset.bound = some task.scope := rfl

theorem changesScan_eq_false_iff {old task : MigrationTask} :
    changesScan old task = false ↔ old.scope = task.scope := by
  simp only [changesScan, scope, Bool.or_eq_false_iff, decide_eq_false_iff_not, ne_eq,
    not_not, ScanScope.mk.injEq, and_assoc]

theorem editName_same {task named : MigrationTask} {name : Option Text}
    (edited : task.editName name = .ok named) :
    named.taskType = task.taskType ∧ named.config = task.config := by
  cases name with
  | none =>
      cases edited
      exact ⟨rfl, rfl⟩
  | some name =>
      simp only [editName] at edited
      split at edited
      · cases edited
      · cases edited
        exact ⟨rfl, rfl⟩

theorem editSourceEndpoint_same {tables : Endpoints} {task sourced : MigrationTask}
    {sourceEndpointId : Option Text}
    (edited : task.editSourceEndpoint tables sourceEndpointId = .ok sourced) :
    sourced.taskType = task.taskType ∧ sourced.config = task.config := by
  cases sourceEndpointId with
  | none =>
      cases edited
      exact ⟨rfl, rfl⟩
  | some sourceEndpointId =>
      simp only [editSourceEndpoint] at edited
      split at edited
      · cases edited
        exact ⟨rfl, rfl⟩
      · cases edited

theorem editSourcePath_same {tables : Endpoints} {task pathed : MigrationTask}
    {sourcePathId : Option Text}
    (edited : task.editSourcePath tables sourcePathId = .ok pathed) :
    pathed.taskType = task.taskType ∧ pathed.config = task.config := by
  cases sourcePathId with
  | none =>
      cases edited
      exact ⟨rfl, rfl⟩
  | some sourcePathId =>
      simp only [editSourcePath] at edited
      split at edited
      · cases edited
        exact ⟨rfl, rfl⟩
      · split at edited
        · cases edited
          exact ⟨rfl, rfl⟩
        · cases edited

theorem editConfig_keeps_reset {old task configured : MigrationTask} {config : Option TaskConfig}
    (edited : editConfig old task config = .ok configured)
    (same : task.config.resetScanOnStart = old.config.resetScanOnStart) :
    configured.taskType = task.taskType ∧
      configured.config.resetScanOnStart = old.config.resetScanOnStart := by
  cases config with
  | none =>
      cases edited
      exact ⟨rfl, same⟩
  | some config =>
      obtain ⟨_, _, configures⟩ := bind_eq_ok.mp edited
      cases configures
      exact ⟨rfl, rfl⟩

theorem requestReset_taskType (old task : MigrationTask) :
    (requestReset old task).taskType = task.taskType := by
  unfold requestReset
  split
  · rfl
  · rfl

/-- Without the flag, the request kept the scope and found the flag off. -/
theorem requestReset_bound {old task : MigrationTask} {own : ScanScope}
    (scans : task.taskType = .scan)
    (same : task.config.resetScanOnStart = old.config.resetScanOnStart)
    (binds : (requestReset old task).bound = some own) : old.bound = some own := by
  unfold requestReset at binds
  cases changes : changesScan old task with
  | true =>
      rw [if_pos ⟨scans, changes⟩] at binds
      cases binds
  | false =>
      rw [if_neg fun both => by rw [changes] at both; exact Bool.false_ne_true both.2] at binds
      unfold bound at binds ⊢
      rw [← same, changesScan_eq_false_iff.mp changes]
      exact binds

/-- An edit of a scan task leaves the flag off only if it keeps the scope. -/
theorem edit_bound {tables : Endpoints} {old task : MigrationTask} {request : UpdateTaskRequest}
    (scans : old.taskType = .scan) (edited : old.edit tables request = .ok task) :
    task.taskType = .scan ∧ ∀ own, task.bound = some own → old.bound = some own := by
  unfold edit at edited
  obtain ⟨named, names, edited⟩ := bind_eq_ok.mp edited
  obtain ⟨sourced, sources, edited⟩ := bind_eq_ok.mp edited
  obtain ⟨pathed, paths, edited⟩ := bind_eq_ok.mp edited
  obtain ⟨configured, configures, returned⟩ := bind_eq_ok.mp edited
  cases returned
  obtain ⟨namedType, namedConfig⟩ := editName_same names
  obtain ⟨sourcedType, sourcedConfig⟩ := editSourceEndpoint_same sources
  obtain ⟨pathedType, pathedConfig⟩ := editSourcePath_same paths
  have sameConfig : pathed.config = old.config :=
    pathedConfig.trans (sourcedConfig.trans namedConfig)
  have sameType : pathed.taskType = old.taskType := pathedType.trans (sourcedType.trans namedType)
  obtain ⟨configuredType, reset⟩ := editConfig_keeps_reset configures (by rw [sameConfig])
  have configuredScans : configured.taskType = .scan :=
    configuredType.trans (sameType.trans scans)
  refine ⟨(requestReset_taskType old configured).trans configuredScans, ?_⟩
  exact fun own binds => requestReset_bound configuredScans reset binds

end MigrationTask

namespace Process

/-- The task that a process works on. -/
def snapshot : Process → Option MigrationTask
  | startClaiming task | startLookingUp task | startSaving task | startMarking task => some task
  | workerCreating task | workerClearing task | workerWritingBack task => some task
  | workerRunning task | updateWriting task => some task
  | _ => none

/-- The scope that the scan tables must have for what the process will still do. -/
def binds : Process → Option ScanScope
  | startClaiming task | startLookingUp task | startSaving task | startMarking task => task.bound
  | workerCreating task | updateWriting task => task.bound
  | workerWritingBack task | workerRunning task => some task.scope
  | _ => none

end Process

namespace TaskSystem

/-- Neither the stored task nor a process needs the scan tables to have another scope. -/
def BoundTo (scope : ScanScope) (system : TaskSystem) : Prop :=
  (∀ row, system.task = some row → ∀ own, row.bound = some own → own = scope) ∧
    ∀ process own, (system.processes process).binds = some own → own = scope

structure Uniform (scope : ScanScope) (system : TaskSystem) : Prop where
  rowScans : ∀ row, system.task = some row → row.taskType = .scan
  processScans : ∀ process task,
    (system.processes process).snapshot = some task → task.taskType = .scan
  bound : BoundTo scope system
  written : ∀ written ∈ system.scanTables, written = scope

/-- A worker clears the tables when nobody needs them in another scope, and writes its
task back when the stored one still has the edits it read. -/
def CleanReset (system : TaskSystem) : TaskAction → Prop
  | .advance process .ok =>
      match system.processes process with
      | .workerClearing task => BoundTo task.scope system
      | .workerWritingBack task => ∀ row, system.task = some row → row.edits = task.edits
      | _ => True
  | _ => True

/-- No `update_task` writes and no `delete_task` removes the row. -/
def KeepsRow (system : TaskSystem) : TaskAction → Prop
  | .advance process .ok =>
      match system.processes process with
      | .updateWriting _ | .deleteRow => False
      | _ => True
  | _ => True

variable {tables : Endpoints} {system next : TaskSystem} {process : Nat} {outcome : Outcome}
  {scope : ScanScope}

/-- A step of one process that leaves the scan tables as they are, or empties them. -/
theorem uniform_change (uniform : Uniform scope system) {after : Process}
    (moved : next.processes = Function.update system.processes process after)
    (rows : ∀ row, next.task = some row →
      row.taskType = .scan ∧ ∀ own, row.bound = some own → own = scope)
    (scans : ∀ task, after.snapshot = some task → task.taskType = .scan)
    (binds : ∀ own, after.binds = some own → own = scope)
    (written : ∀ written ∈ next.scanTables, written ∈ system.scanTables) :
    Uniform scope next := by
  refine ⟨fun row stored => (rows row stored).1, ?_, ⟨fun row stored => (rows row stored).2, ?_⟩,
    fun scanned member => uniform.written scanned (written scanned member)⟩
  · intro other task snapshot
    rw [moved] at snapshot
    by_cases same : other = process
    · rw [same, Function.update_self] at snapshot
      exact scans task snapshot
    · rw [Function.update_of_ne same] at snapshot
      exact uniform.processScans other task snapshot
  · intro other own needs
    rw [moved] at needs
    by_cases same : other = process
    · rw [same, Function.update_self] at needs
      exact binds own needs
    · rw [Function.update_of_ne same] at needs
      exact uniform.bound.2 other own needs

theorem uniform_rows (uniform : Uniform scope system) (row : MigrationTask)
    (stored : system.task = some row) :
    row.taskType = .scan ∧ ∀ own, row.bound = some own → own = scope :=
  ⟨uniform.rowScans row stored, uniform.bound.1 row stored⟩

/-- A process that goes on with its task, or without one. -/
theorem uniform_move (uniform : Uniform scope system) {before after : Process}
    (stands : system.processes process = before)
    (snapshot : ∀ task, after.snapshot = some task → before.snapshot = some task)
    (binds : ∀ own, after.binds = some own → before.binds = some own) :
    Uniform scope (system.setProcess process after) := by
  refine uniform_change uniform rfl (fun row stored => uniform_rows uniform row stored) ?_ ?_ ?_
  · intro task holds
    exact uniform.processScans process task (by rw [stands]; exact snapshot task holds)
  · intro own needs
    exact uniform.bound.2 process own (by rw [stands]; exact binds own needs)
  · exact fun _ member => member

theorem uniform_return (uniform : Uniform scope system) :
    Uniform scope (system.setProcess process .returned) := by
  refine uniform_change uniform rfl (fun row stored => uniform_rows uniform row stored) ?_ ?_ ?_
  · intro task impossible
    cases impossible
  · intro own impossible
    cases impossible
  · exact fun _ member => member

/-- The slot, the executions and the job directory bind nothing. -/
theorem uniform_other (uniform : Uniform scope system) (sameTask : next.task = system.task)
    (sameTables : next.scanTables = system.scanTables)
    (sameProcesses : next.processes = system.processes) : Uniform scope next := by
  refine ⟨?_, ?_, ⟨?_, ?_⟩, ?_⟩
  · rw [sameTask]
    exact uniform.rowScans
  · rw [sameProcesses]
    exact uniform.processScans
  · rw [sameTask]
    exact uniform.bound.1
  · rw [sameProcesses]
    exact uniform.bound.2
  · rw [sameTables]
    exact uniform.written

theorem uniform_release (uniform : Uniform scope system) :
    Uniform scope (system.release process) := by
  have returned : Uniform scope (system.setProcess process .returned) := uniform_return uniform
  exact uniform_other returned rfl rfl rfl

theorem uniform_finish (uniform : Uniform scope system) :
    Uniform scope (system.finish process outcome) := by
  refine uniform_change uniform rfl (fun row stored => uniform_rows uniform row stored) ?_ ?_ ?_
  · intro task impossible
    cases impossible
  · intro own impossible
    cases impossible
  · exact fun _ member => member

theorem startRead_uniform (uniform : Uniform scope system) :
    Uniform scope (system.startRead process outcome) := by
  unfold startRead
  split
  · split
    · rename_i row stored
      obtain ⟨scans, bound⟩ := uniform_rows uniform row stored
      refine uniform_change uniform rfl (fun row stored => uniform_rows uniform row stored) ?_ ?_ ?_
      · intro task holds
        cases holds
        exact scans
      · exact bound
      · exact fun _ member => member
    · exact uniform_return uniform
  · exact uniform_return uniform

theorem startClaim_uniform (uniform : Uniform scope system) {task : MigrationTask}
    (stands : system.processes process = .startClaiming task) :
    Uniform scope (system.startClaim process task outcome) := by
  unfold startClaim
  split
  · split
    · have moved : Uniform scope (system.setProcess process (.startLookingUp task)) :=
        uniform_move uniform stands (fun _ holds => holds) (fun _ needs => needs)
      exact uniform_other moved rfl rfl rfl
    · exact uniform_return uniform
  · exact uniform_return uniform

theorem startLookUp_uniform (uniform : Uniform scope system) {task : MigrationTask}
    (stands : system.processes process = .startLookingUp task) :
    Uniform scope (system.startLookUp tables process task outcome) := by
  unfold startLookUp
  split
  · split
    · exact uniform_move uniform stands (fun _ holds => holds) (fun _ needs => needs)
    · exact uniform_release uniform
  · exact uniform_release uniform

theorem startSave_uniform (uniform : Uniform scope system) {task : MigrationTask}
    (stands : system.processes process = .startSaving task) :
    Uniform scope (system.startSave process task outcome) := by
  unfold startSave
  split
  · split
    · have moved : Uniform scope (system.setProcess process (.startMarking task)) :=
        uniform_move uniform stands (fun _ holds => holds) (fun _ needs => needs)
      exact uniform_other moved rfl rfl rfl
    · exact uniform_release uniform
  · exact uniform_release uniform

theorem startMark_uniform (uniform : Uniform scope system) {task : MigrationTask}
    (stands : system.processes process = .startMarking task) :
    Uniform scope (system.startMark process task outcome) := by
  unfold startMark
  split
  · split
    · rename_i row stored
      refine uniform_change uniform rfl ?_ ?_ ?_ ?_
      · intro marked same
        cases same
        exact uniform_rows uniform row stored
      · intro held holds
        exact uniform.processScans process held (by rw [stands]; exact holds)
      · intro own needs
        exact uniform.bound.2 process own (by rw [stands]; exact needs)
      · exact fun _ member => member
    · exact uniform_release uniform
  · exact uniform_release uniform

/-- A worker that does not reset runs over tables of its own scope. -/
theorem workerCreate_uniform (uniform : Uniform scope system) {task : MigrationTask}
    (stands : system.processes process = .workerCreating task) :
    Uniform scope (system.workerCreate process task outcome) := by
  unfold workerCreate
  split
  · split
    · refine uniform_move uniform stands (fun _ holds => holds) ?_
      intro own impossible
      cases impossible
    · rename_i keeps
      refine uniform_move uniform stands (fun _ holds => holds) ?_
      have scans := uniform.processScans process task (by rw [stands]; rfl)
      intro own needs
      have off : task.config.resetScanOnStart = false := by
        cases reset : task.config.resetScanOnStart with
        | false => rfl
        | true => exact absurd ⟨scans, reset⟩ keeps
      simp only [Process.binds, MigrationTask.bound, off, Bool.false_eq_true, if_false]
      exact needs
  · exact uniform_release uniform

/-- Clearing the tables settles their next scope. -/
theorem workerClear_uniform (uniform : Uniform scope system) {task : MigrationTask}
    (stands : system.processes process = .workerClearing task)
    (clean : outcome = .ok → BoundTo task.scope system) :
    ∃ scope, Uniform scope (system.workerClear process task outcome) := by
  unfold workerClear
  split
  · refine ⟨task.scope, ?_⟩
    have empty : Uniform task.scope { system with scanTables := [] } :=
      ⟨uniform.rowScans, uniform.processScans, clean rfl,
        fun _ member => absurd member List.not_mem_nil⟩
    refine uniform_change empty rfl (fun row stored => uniform_rows empty row stored) ?_ ?_ ?_
    · intro held holds
      exact uniform.processScans process held (by rw [stands]; exact holds)
    · intro own needs
      exact (Option.some.inj needs).symm
    · exact fun _ member => member
  · exact ⟨scope, uniform_finish uniform⟩

theorem workerWriteBack_uniform (uniform : Uniform scope system) {task : MigrationTask}
    (stands : system.processes process = .workerWritingBack task) :
    Uniform scope (system.workerWriteBack process task outcome) := by
  have same : task.scope = scope := uniform.bound.2 process task.scope (by rw [stands]; rfl)
  unfold workerWriteBack
  split
  · split
    · rename_i row stored
      refine uniform_change uniform rfl ?_ ?_ ?_ ?_
      · intro written holds
        cases holds
        refine ⟨uniform.rowScans row stored, ?_⟩
        intro own needs
        rw [MigrationTask.bound_store, MigrationTask.bound_clearReset] at needs
        exact (Option.some.inj needs).symm.trans same
      · intro held holds
        exact uniform.processScans process held (by rw [stands]; exact holds)
      · intro own needs
        exact (Option.some.inj needs).symm.trans same
      · exact fun _ member => member
    · exact uniform_finish uniform
  · exact uniform_finish uniform

theorem workerMark_uniform (uniform : Uniform scope system) {status : TaskStatus} :
    Uniform scope (system.workerMark process status outcome) := by
  unfold workerMark
  split
  · refine uniform_change uniform rfl ?_ ?_ ?_ ?_
    · intro marked same
      obtain ⟨row, stored, rfl⟩ := Option.map_eq_some_iff.mp same
      exact uniform_rows uniform row stored
    · intro held impossible
      cases impossible
    · intro own impossible
      cases impossible
    · exact fun _ member => member
  · refine uniform_change uniform rfl (fun row stored => uniform_rows uniform row stored) ?_ ?_ ?_
    · intro task impossible
      cases impossible
    · intro own impossible
      cases impossible
    · exact fun _ member => member

theorem workerMarkExecution_uniform (uniform : Uniform scope system) {status : TaskStatus} :
    Uniform scope (system.workerMarkExecution process status outcome) := by
  have released : Uniform scope (system.release process) := uniform_release uniform
  unfold workerMarkExecution
  split
  · exact uniform_other released rfl rfl rfl
  · exact released

theorem updateRead_uniform (uniform : Uniform scope system) {request : UpdateTaskRequest} :
    Uniform scope (system.updateRead tables process request outcome) := by
  unfold updateRead
  split
  · split
    · rename_i old stored
      split
      · exact uniform_return uniform
      · split
        · rename_i task edited
          obtain ⟨scans, bound⟩ := uniform_rows uniform old stored
          obtain ⟨taskScans, keeps⟩ := MigrationTask.edit_bound scans edited
          refine uniform_change uniform rfl (fun row stored => uniform_rows uniform row stored) ?_ ?_ ?_
          · intro held holds
            cases holds
            exact taskScans
          · exact fun own needs => bound own (keeps own needs)
          · exact fun _ member => member
        · exact uniform_return uniform
    · exact uniform_return uniform
  · exact uniform_return uniform

theorem updateWrite_uniform (uniform : Uniform scope system) {task : MigrationTask}
    (stands : system.processes process = .updateWriting task) :
    Uniform scope (system.updateWrite process task outcome) := by
  unfold updateWrite
  split
  · refine uniform_change uniform rfl ?_ ?_ ?_ ?_
    · intro written same
      obtain ⟨row, stored, rfl⟩ := Option.map_eq_some_iff.mp same
      refine ⟨uniform.rowScans row stored, ?_⟩
      intro own needs
      exact uniform.bound.2 process own (by rw [stands]; exact needs)
    · intro held impossible
      cases impossible
    · intro own impossible
      cases impossible
    · exact fun _ member => member
  · exact uniform_return uniform

/-- The steps of a delete bind nothing and leave no more rows. -/
theorem uniform_delete (uniform : Uniform scope system) {after : Process}
    (holdsNothing : after.snapshot = none) (bindsNothing : after.binds = none)
    (moved : next.processes = Function.update system.processes process after)
    (rows : ∀ row, next.task = some row → system.task = some row)
    (written : ∀ written ∈ next.scanTables, written ∈ system.scanTables) :
    Uniform scope next := by
  refine uniform_change uniform moved (fun row stored => uniform_rows uniform row (rows row stored))
    ?_ ?_ written
  · intro task holds
    rw [holdsNothing] at holds
    cases holds
  · intro own needs
    rw [bindsNothing] at needs
    cases needs

theorem deleteRead_uniform (uniform : Uniform scope system) :
    Uniform scope (system.deleteRead process outcome) := by
  unfold deleteRead
  split
  · split
    · split
      · exact uniform_delete uniform rfl rfl rfl (fun _ stored => stored) (fun _ member => member)
      · exact uniform_return uniform
    · exact uniform_return uniform
  · exact uniform_return uniform

theorem deleteClean_uniform (uniform : Uniform scope system) :
    Uniform scope (system.deleteClean process outcome) := by
  unfold deleteClean
  split
  · exact uniform_delete uniform rfl rfl rfl (fun _ stored => stored) (fun _ member => member)
  · exact uniform_delete uniform rfl rfl rfl (fun _ stored => stored) (fun _ member => member)

theorem deleteDrop_uniform (uniform : Uniform scope system) :
    Uniform scope (system.deleteDrop process outcome) := by
  unfold deleteDrop
  split
  · exact uniform_delete uniform rfl rfl rfl (fun _ stored => stored)
      (fun _ member => absurd member List.not_mem_nil)
  · exact uniform_delete uniform rfl rfl rfl (fun _ stored => stored) (fun _ member => member)

theorem deleteByTaskId_uniform (uniform : Uniform scope system) :
    Uniform scope (system.deleteByTaskId process outcome) := by
  unfold deleteByTaskId
  split
  · exact uniform_delete uniform rfl rfl rfl (fun _ stored => stored) (fun _ member => member)
  · exact uniform_return uniform

theorem deleteTaskRow_uniform (uniform : Uniform scope system) :
    Uniform scope (system.deleteTaskRow process outcome) := by
  unfold deleteTaskRow
  split
  · refine uniform_delete uniform rfl rfl rfl ?_ (fun _ member => member)
    intro row impossible
    cases impossible
  · exact uniform_return uniform

theorem request_uniform (uniform : Uniform scope system) {asked : Request}
    (taken : system.request process asked = some next) : Uniform scope next := by
  unfold request at taken
  split at taken
  · cases asked with
    | start =>
        cases taken
        exact uniform_delete uniform rfl rfl rfl (fun _ stored => stored) (fun _ member => member)
    | cancel =>
        cases taken
        have returned : Uniform scope (system.setProcess process .returned) := uniform_return uniform
        unfold cancelTask
        split
        · exact uniform_other returned rfl rfl rfl
        · exact returned
    | update edit =>
        cases taken
        exact uniform_delete uniform rfl rfl rfl (fun _ stored => stored) (fun _ member => member)
    | delete =>
        cases taken
        exact uniform_delete uniform rfl rfl rfl (fun _ stored => stored) (fun _ member => member)
  · cases taken

/-- A running scan adds rows of the scope the tables have. -/
theorem work_uniform (uniform : Uniform scope system) (worked : system.work process = some next) :
    Uniform scope next := by
  unfold work at worked
  split at worked
  · rename_i task stands
    have same : task.scope = scope := uniform.bound.2 process task.scope (by rw [stands]; rfl)
    cases worked
    refine ⟨uniform.rowScans, uniform.processScans, uniform.bound, ?_⟩
    intro written member
    dsimp only at member
    split at member
    · cases List.mem_append.mp member with
      | inl earlier => exact uniform.written written earlier
      | inr added => exact (List.mem_singleton.mp added).trans same
    · exact uniform.written written member
  · cases worked

theorem restart_uniform (uniform : Uniform scope system) : Uniform scope system.restart := by
  refine ⟨?_, ?_, ⟨?_, ?_⟩, uniform.written⟩
  · intro row recovered
    obtain ⟨before, stored, rfl⟩ := Option.map_eq_some_iff.mp recovered
    exact uniform.rowScans before stored
  · intro process task holds
    rcases restart_processes system process with idle | returned
    · rw [idle] at holds
      cases holds
    · rw [returned] at holds
      cases holds
  · intro row recovered own needs
    obtain ⟨before, stored, rfl⟩ := Option.map_eq_some_iff.mp recovered
    exact uniform.bound.1 before stored own needs
  · intro process own needs
    rcases restart_processes system process with idle | returned
    · rw [idle] at needs
      cases needs
    · rw [returned] at needs
      cases needs

theorem advance_uniform (uniform : Uniform scope system)
    (clean : CleanReset system (.advance process outcome))
    (advanced : system.advance tables process outcome = some next) :
    ∃ scope, Uniform scope next := by
  unfold advance at advanced
  cases stands : system.processes process with
  | idle =>
      rw [stands] at advanced
      cases advanced
  | returned =>
      rw [stands] at advanced
      cases advanced
  | startReading =>
      rw [stands] at advanced
      cases advanced
      exact ⟨scope, startRead_uniform uniform⟩
  | startClaiming task =>
      rw [stands] at advanced
      cases advanced
      exact ⟨scope, startClaim_uniform uniform stands⟩
  | startLookingUp task =>
      rw [stands] at advanced
      cases advanced
      exact ⟨scope, startLookUp_uniform uniform stands⟩
  | startSaving task =>
      rw [stands] at advanced
      cases advanced
      exact ⟨scope, startSave_uniform uniform stands⟩
  | startMarking task =>
      rw [stands] at advanced
      cases advanced
      exact ⟨scope, startMark_uniform uniform stands⟩
  | workerCreating task =>
      rw [stands] at advanced
      cases advanced
      exact ⟨scope, workerCreate_uniform uniform stands⟩
  | workerClearing task =>
      rw [stands] at advanced
      cases advanced
      apply workerClear_uniform uniform stands
      rintro rfl
      simp only [CleanReset, stands] at clean
      exact clean
  | workerWritingBack task =>
      rw [stands] at advanced
      cases advanced
      exact ⟨scope, workerWriteBack_uniform uniform stands⟩
  | workerRunning task =>
      rw [stands] at advanced
      cases advanced
      exact ⟨scope, uniform_finish uniform⟩
  | workerMarking status =>
      rw [stands] at advanced
      cases advanced
      exact ⟨scope, workerMark_uniform uniform⟩
  | workerMarkingExecution status =>
      rw [stands] at advanced
      cases advanced
      exact ⟨scope, workerMarkExecution_uniform uniform⟩
  | updateReading request =>
      rw [stands] at advanced
      cases advanced
      exact ⟨scope, updateRead_uniform uniform⟩
  | updateWriting task =>
      rw [stands] at advanced
      cases advanced
      exact ⟨scope, updateWrite_uniform uniform stands⟩
  | deleteReading =>
      rw [stands] at advanced
      cases advanced
      exact ⟨scope, deleteRead_uniform uniform⟩
  | deleteCleaning =>
      rw [stands] at advanced
      cases advanced
      exact ⟨scope, deleteClean_uniform uniform⟩
  | deleteDropping =>
      rw [stands] at advanced
      cases advanced
      exact ⟨scope, deleteDrop_uniform uniform⟩
  | deleteExecutions =>
      rw [stands] at advanced
      cases advanced
      exact ⟨scope, deleteByTaskId_uniform uniform⟩
  | deleteRow =>
      rw [stands] at advanced
      cases advanced
      exact ⟨scope, deleteTaskRow_uniform uniform⟩

theorem step_uniform {action : TaskAction} (uniform : ∃ scope, Uniform scope system)
    (clean : CleanReset system action)
    (stepped : (taskLifecycle tables).step system action = some next) :
    ∃ scope, Uniform scope next := by
  obtain ⟨scope, uniform⟩ := uniform
  cases action with
  | request process asked => exact ⟨scope, request_uniform uniform stepped⟩
  | advance process outcome => exact advance_uniform uniform clean stepped
  | work process => exact ⟨scope, work_uniform uniform stepped⟩
  | restart =>
      cases stepped
      exact ⟨scope, restart_uniform uniform⟩

theorem created_uniform {task : MigrationTask} (scans : task.taskType = .scan) :
    Uniform task.scope (created task) := by
  refine ⟨?_, ?_, ⟨?_, ?_⟩, fun _ member => absurd member List.not_mem_nil⟩
  · intro row stored
    cases stored
    exact scans
  · intro process held impossible
    cases impossible
  · intro row stored own needs
    cases stored
    rw [MigrationTask.bound_withStatus, MigrationTask.bound] at needs
    split at needs
    · cases needs
    · exact (Option.some.inj needs).symm
  · intro process own impossible
    cases impossible

/-- The stored task has these edits. -/
def Stores (task : MigrationTask) (system : TaskSystem) : Prop :=
  ∃ row, system.task = some row ∧ row.edits = task.edits

theorem stores_of_same {task : MigrationTask} (stores : Stores task system)
    (same : next.task = system.task) : Stores task next := by
  obtain ⟨row, stored, edits⟩ := stores
  exact ⟨row, same.trans stored, edits⟩

theorem workerWriteBack_stores {task held : MigrationTask} (stores : Stores task system)
    (clean : outcome = .ok → ∀ row, system.task = some row → row.edits = held.edits) :
    Stores task (system.workerWriteBack process held outcome) := by
  unfold workerWriteBack
  split
  · split
    · rename_i row stored
      obtain ⟨before, storedBefore, edits⟩ := stores
      refine ⟨_, rfl, ?_⟩
      rw [MigrationTask.edits_store, ← edits]
      exact (clean rfl before storedBefore).symm
    · exact stores_of_same stores rfl
  · exact stores_of_same stores rfl

theorem startMark_stores {task held : MigrationTask} (stores : Stores task system) :
    Stores task (system.startMark process held outcome) := by
  unfold startMark
  split
  · split
    · rename_i row stored
      obtain ⟨before, storedBefore, edits⟩ := stores
      cases stored.symm.trans storedBefore
      exact ⟨_, rfl, edits⟩
    · exact stores_of_same stores rfl
  · exact stores_of_same stores rfl

theorem workerMark_stores {task : MigrationTask} {status : TaskStatus}
    (stores : Stores task system) : Stores task (system.workerMark process status outcome) := by
  unfold workerMark
  split
  · obtain ⟨row, stored, edits⟩ := stores
    exact ⟨row.withStatus status, by rw [stored]; rfl, edits⟩
  · exact stores_of_same stores rfl

theorem restart_stores {task : MigrationTask} (stores : Stores task system) :
    Stores task system.restart := by
  obtain ⟨row, stored, edits⟩ := stores
  exact ⟨row.withStatus (recoveredStatus (some row.taskType) row.status),
    by rw [restart, stored]; rfl, edits⟩

theorem advance_stores {task : MigrationTask} (stores : Stores task system)
    (clean : CleanReset system (.advance process outcome))
    (keeps : KeepsRow system (.advance process outcome))
    (advanced : system.advance tables process outcome = some next) : Stores task next := by
  unfold advance at advanced
  cases stands : system.processes process with
  | idle =>
      rw [stands] at advanced
      cases advanced
  | returned =>
      rw [stands] at advanced
      cases advanced
  | startReading =>
      rw [stands] at advanced
      cases advanced
      refine stores_of_same stores ?_
      unfold startRead
      repeat' split
      all_goals rfl
  | startClaiming task =>
      rw [stands] at advanced
      cases advanced
      refine stores_of_same stores ?_
      unfold startClaim
      repeat' split
      all_goals rfl
  | startLookingUp task =>
      rw [stands] at advanced
      cases advanced
      refine stores_of_same stores ?_
      unfold startLookUp
      repeat' split
      all_goals rfl
  | startSaving task =>
      rw [stands] at advanced
      cases advanced
      refine stores_of_same stores ?_
      unfold startSave
      repeat' split
      all_goals rfl
  | startMarking task =>
      rw [stands] at advanced
      cases advanced
      exact startMark_stores stores
  | workerCreating task =>
      rw [stands] at advanced
      cases advanced
      refine stores_of_same stores ?_
      unfold workerCreate
      repeat' split
      all_goals rfl
  | workerClearing task =>
      rw [stands] at advanced
      cases advanced
      refine stores_of_same stores ?_
      unfold workerClear
      repeat' split
      all_goals rfl
  | workerWritingBack held =>
      rw [stands] at advanced
      cases advanced
      apply workerWriteBack_stores stores
      rintro rfl
      simp only [CleanReset, stands] at clean
      exact clean
  | workerRunning task =>
      rw [stands] at advanced
      cases advanced
      exact stores_of_same stores rfl
  | workerMarking status =>
      rw [stands] at advanced
      cases advanced
      exact workerMark_stores stores
  | workerMarkingExecution status =>
      rw [stands] at advanced
      cases advanced
      refine stores_of_same stores ?_
      unfold workerMarkExecution
      repeat' split
      all_goals rfl
  | updateReading request =>
      rw [stands] at advanced
      cases advanced
      refine stores_of_same stores ?_
      unfold updateRead
      repeat' split
      all_goals rfl
  | updateWriting task =>
      rw [stands] at advanced
      cases advanced
      cases outcome with
      | ok =>
          simp only [KeepsRow, stands] at keeps
      | failed => exact stores_of_same stores rfl
  | deleteReading =>
      rw [stands] at advanced
      cases advanced
      refine stores_of_same stores ?_
      unfold deleteRead
      repeat' split
      all_goals rfl
  | deleteCleaning =>
      rw [stands] at advanced
      cases advanced
      refine stores_of_same stores ?_
      unfold deleteClean
      repeat' split
      all_goals rfl
  | deleteDropping =>
      rw [stands] at advanced
      cases advanced
      refine stores_of_same stores ?_
      unfold deleteDrop
      repeat' split
      all_goals rfl
  | deleteExecutions =>
      rw [stands] at advanced
      cases advanced
      refine stores_of_same stores ?_
      unfold deleteByTaskId
      repeat' split
      all_goals rfl
  | deleteRow =>
      rw [stands] at advanced
      cases advanced
      cases outcome with
      | ok =>
          simp only [KeepsRow, stands] at keeps
      | failed => exact stores_of_same stores rfl

theorem step_stores {task : MigrationTask} {action : TaskAction} (stores : Stores task system)
    (condition : CleanReset system action ∧ KeepsRow system action)
    (stepped : (taskLifecycle tables).step system action = some next) : Stores task next := by
  cases action with
  | request process asked =>
      refine stores_of_same stores ?_
      simp only [taskLifecycle, step, request] at stepped
      split at stepped
      · cases asked with
        | start =>
            cases stepped
            rfl
        | cancel =>
            cases stepped
            unfold cancelTask
            split
            · rfl
            · rfl
        | update edit =>
            cases stepped
            rfl
        | delete =>
            cases stepped
            rfl
      · cases stepped
  | advance process outcome => exact advance_stores stores condition.1 condition.2 stepped
  | work process =>
      refine stores_of_same stores ?_
      simp only [taskLifecycle, step, work] at stepped
      split at stepped
      · cases stepped
        rfl
      · cases stepped
  | restart =>
      cases stepped
      exact restart_stores stores

/-- What an update writes stays stored until another request writes the row. -/
theorem update_stores {edited row : MigrationTask}
    (stands : system.processes process = .updateWriting edited)
    (stored : system.task = some row) :
    ∃ written, (taskLifecycle tables).step system (.advance process .ok) = some written ∧
      written.processes process = .returned ∧ Stores edited written := by
  refine ⟨system.updateWrite process edited .ok, ?_, Function.update_self .., row.store edited, ?_,
    rfl⟩
  · simp only [taskLifecycle, step, advance, stands]
  · simp only [updateWrite, stored, Option.map_some]

/-- When every reset of a run is clean, a completed edit stays stored until a later one,
and a worker scans into tables that only runs of its own scope wrote. -/
theorem edits_kept_and_scans_own {task : MigrationTask} (scans : task.taskType = .scan)
    {actions : List TaskAction} {final : TaskSystem}
    (clean : (taskLifecycle tables).Along CleanReset (created task) actions)
    (run : (taskLifecycle tables).exec (created task) actions = some final) :
    (∀ process edited row, final.processes process = .updateWriting edited →
      final.task = some row →
      ∃ written, (taskLifecycle tables).step final (.advance process .ok) = some written ∧
        written.processes process = .returned ∧
        ∀ later last, (taskLifecycle tables).Along
            (fun system action => CleanReset system action ∧ KeepsRow system action)
            written later →
          (taskLifecycle tables).exec written later = some last →
          ∃ stored, last.task = some stored ∧ stored.edits = edited.edits) ∧
    ∀ process running, final.processes process = .workerRunning running →
      ∀ written ∈ final.scanTables, written = running.scope := by
  constructor
  · intro process edited row stands stored
    obtain ⟨written, steps, returned, stores⟩ := update_stores stands stored
    refine ⟨written, steps, returned, ?_⟩
    intro later last keeps laterRun
    exact Machine.exec_invariant_along step_stores stores keeps laterRun
  · intro process running stands written member
    have initially : ∃ scope, Uniform scope (created task) := ⟨task.scope, created_uniform scans⟩
    obtain ⟨scope, uniform⟩ :=
      Machine.exec_invariant_along step_uniform initially clean run
    have same : running.scope = scope :=
      uniform.bound.2 process running.scope (by rw [stands]; rfl)
    exact (uniform.written written member).trans same.symm

/-- An edit of the depth alone. -/
def editDepth (depth : UInt32) : UpdateTaskRequest :=
  ⟨none, none, none, some { sampleConfig with depth := depth }⟩

/-- An edit that asks for a reset, and the run that makes it. -/
def resetActions : List TaskAction :=
  [.request 0 (.update (editDepth 1)), .advance 0 .ok, .advance 0 .ok, .request 1 .start,
    .advance 1 .ok, .advance 1 .ok, .advance 1 .ok, .advance 1 .ok, .advance 1 .ok,
    .advance 1 .ok, .advance 1 .ok, .advance 1 .ok, .work 1]

theorem edits_kept_and_scans_own_sample :
    ∃ final running, (taskLifecycle allEndpoints).exec (created sampleTask) resetActions =
        some final ∧ final.processes 1 = .workerRunning running ∧
      ∀ written ∈ final.scanTables, written = running.scope := by
  have clean : (taskLifecycle allEndpoints).Along CleanReset (created sampleTask)
      resetActions := by
    refine ⟨trivial, fun _ asked => ?_⟩
    cases asked
    refine ⟨trivial, fun _ read => ?_⟩
    cases read
    refine ⟨trivial, fun _ edited => ?_⟩
    cases edited
    refine ⟨trivial, fun _ asked => ?_⟩
    cases asked
    refine ⟨trivial, fun _ read => ?_⟩
    cases read
    refine ⟨trivial, fun _ claimed => ?_⟩
    cases claimed
    refine ⟨trivial, fun _ lookedUp => ?_⟩
    cases lookedUp
    refine ⟨trivial, fun _ saved => ?_⟩
    cases saved
    refine ⟨trivial, fun _ marked => ?_⟩
    cases marked
    refine ⟨trivial, fun _ built => ?_⟩
    cases built
    refine ⟨⟨?_, ?_⟩, fun _ cleared => ?_⟩
    · intro row stored own needs
      cases stored
      cases needs
    · intro process own needs
      match process with
      | 0 => cases needs
      | 1 => cases needs
      | _ + 2 => cases needs
    · cases cleared
      refine ⟨?_, fun _ wroteBack => ?_⟩
      · intro row stored
        cases stored
        rfl
      · cases wroteBack
        exact ⟨trivial, fun _ _ => trivial⟩
  have run : ∃ final, (taskLifecycle allEndpoints).exec (created sampleTask) resetActions =
      some final ∧ ∃ running, final.processes 1 = .workerRunning running := ⟨_, rfl, _, rfl⟩
  obtain ⟨final, run, running, stands⟩ := run
  exact ⟨final, running, run, stands,
    (edits_kept_and_scans_own rfl clean run).2 1 running stands⟩

/-- A completed edit of the name is undone by the reset of a worker that read the task
before it. A start that read the task before an edit and a whole run of another start
scans over the rows of that run. -/
theorem edit_lost_and_foreign_scan :
    (∃ before final edited stored, (taskLifecycle allEndpoints).exec (created sampleTask)
        [.request 0 (.update (editDepth 1)), .advance 0 .ok, .advance 0 .ok, .request 1 .start,
          .advance 1 .ok, .advance 1 .ok,
          .request 2 (.update ⟨some ['n'], none, none, none⟩), .advance 2 .ok] = some before ∧
      before.processes 2 = .updateWriting edited ∧
      (taskLifecycle allEndpoints).exec before [.advance 2 .ok, .advance 1 .ok, .advance 1 .ok,
        .advance 1 .ok, .advance 1 .ok, .advance 1 .ok, .advance 1 .ok] = some final ∧
      final.processes 2 = .returned ∧ final.task = some stored ∧ edited.name = ['n'] ∧
      stored.name = ['s']) ∧
    ∃ final running, (taskLifecycle allEndpoints).exec (created sampleTask)
        [.request 0 .start, .advance 0 .ok,
          .request 1 (.update (editDepth 1)), .advance 1 .ok, .advance 1 .ok,
          .request 2 .start, .advance 2 .ok, .advance 2 .ok, .advance 2 .ok, .advance 2 .ok,
          .advance 2 .ok, .advance 2 .ok, .advance 2 .ok, .advance 2 .ok, .work 2,
          .advance 2 .ok, .advance 2 .ok, .advance 2 .ok,
          .advance 0 .ok, .advance 0 .ok, .advance 0 .ok, .advance 0 .ok, .advance 0 .ok] =
        some final ∧
      final.processes 0 = .workerRunning running ∧ running.config.depth = 0 ∧
      final.scanTables.map ScanScope.depth = [1] := by
  constructor
  · exact ⟨_, _, _, _, rfl, rfl, rfl, rfl, rfl, rfl, rfl⟩
  · exact ⟨_, _, rfl, rfl, rfl, rfl⟩

end TaskSystem

end Terrasync.Web
