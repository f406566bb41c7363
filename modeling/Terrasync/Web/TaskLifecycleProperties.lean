import Terrasync.Web.TaskLifecycle

/-! The lifecycle of a task in runs whose status writes succeed and in which no
`start_task` overlaps a `delete_task`, and how it fails without these. -/

set_option autoImplicit false

namespace Terrasync.Web

open Lib

namespace Process

/-- The process saved an execution that it has not finished. -/
def recorded : Process → Bool
  | startMarking _ => true
  | process => process.isWorker

/-- The process marked the task as running. -/
def marked : Process → Bool
  | workerMarkingExecution _ => false
  | process => process.isWorker

/-- The status a worker is about to store. -/
def finalStatus : Process → Option TaskStatus
  | workerMarking status | workerMarkingExecution status => some status
  | _ => none

theorem ne_running_of_none {process : Process} (stores : process.finalStatus = none) :
    process.finalStatus ≠ some .running := by
  rw [stores]
  exact (Option.some_ne_none _).symm

theorem recorded_of_marked {process : Process} (marks : process.marked = true) :
    process.recorded = true := by
  cases process
  all_goals first | rfl | cases marks

theorem holdsSlot_of_recorded {process : Process} (records : process.recorded = true) :
    process.holdsSlot = true := by
  cases process
  all_goals first | rfl | cases records

theorem holdsSlot_of_worker {process : Process} (works : process.isWorker = true) :
    process.holdsSlot = true := by
  cases process
  all_goals first | rfl | cases works

end Process

namespace TaskSystem

structure Sound (system : TaskSystem) : Prop where
  owned : ∀ process,
    (system.processes process).holdsSlot = true ↔ system.runningTask = some process
  executionRuns : ∀ execution ∈ system.executions, execution.status = .running →
    (system.processes execution.id).recorded = true
  taskRuns : ∀ row, system.task = some row → row.status = .running →
    ∃ process, (system.processes process).marked = true
  deleting : ∀ process, (system.processes process).deletes = true → system.runningTask = none
  rowless : system.task = none → system.executions = []
  final : ∀ process, (system.processes process).finalStatus ≠ some .running

/-- A step of one process keeps the lifecycle sound when the slot, the executions and the
row change with the process. -/
theorem sound_change {system next : TaskSystem} (sound : Sound system) {process : Nat}
    {after : Process} (moved : next.processes = Function.update system.processes process after)
    (others : ∀ other, other ≠ process →
      (next.runningTask = some other ↔ system.runningTask = some other))
    (holder : after.holdsSlot = true ↔ next.runningTask = some process)
    (executions : ∀ execution ∈ next.executions, execution.status = .running →
      if execution.id = process then after.recorded = true else execution ∈ system.executions)
    (rows : ∀ row, next.task = some row → row.status = .running →
      after.marked = true ∨ ((system.processes process).marked = false ∧
        ∃ before, system.task = some before ∧ before.status = .running))
    (deleter : after.deletes = true → next.runningTask = none)
    (bystanders : ∀ other, other ≠ process → (system.processes other).deletes = true →
      next.runningTask = none)
    (rowless : next.task = none → next.executions = [])
    (final : after.finalStatus ≠ some .running) : Sound next := by
  have self : next.processes process = after := by rw [moved, Function.update_self]
  have other {q : Nat} (distinct : q ≠ process) : next.processes q = system.processes q := by
    rw [moved, Function.update_of_ne distinct]
  refine ⟨?_, ?_, ?_, ?_, rowless, ?_⟩
  · intro q
    by_cases same : q = process
    · rw [same, self]
      exact holder
    · rw [other same, others q same]
      exact sound.owned q
  · intro execution member running
    have saved := executions execution member running
    by_cases same : execution.id = process
    · rw [if_pos same] at saved
      rw [same, self]
      exact saved
    · rw [if_neg same] at saved
      rw [other same]
      exact sound.executionRuns execution saved running
  · intro row stored running
    rcases rows row stored running with marks | ⟨unmarked, before, storedBefore, runningBefore⟩
    · exact ⟨process, self ▸ marks⟩
    · obtain ⟨q, marks⟩ := sound.taskRuns before storedBefore runningBefore
      have distinct : q ≠ process := by
        rintro rfl
        rw [unmarked] at marks
        cases marks
      exact ⟨q, other distinct ▸ marks⟩
  · intro q deletes
    by_cases same : q = process
    · rw [same, self] at deletes
      exact deleter deletes
    · rw [other same] at deletes
      exact bystanders q same deletes
  · intro q
    by_cases same : q = process
    · rw [same, self]
      exact final
    · rw [other same]
      exact sound.final q

/-- A process that only moves on keeps what it holds. -/
theorem sound_move {system : TaskSystem} (sound : Sound system) {process : Nat}
    {before after : Process} (stands : system.processes process = before)
    (holds : after.holdsSlot = before.holdsSlot)
    (recorded : before.recorded = true → after.recorded = true)
    (marked : before.marked = true → after.marked = true)
    (deletes : after.deletes = true → system.runningTask = none)
    (final : after.finalStatus ≠ some .running) : Sound (system.setProcess process after) := by
  apply sound_change sound rfl
  · exact fun _ _ => Iff.rfl
  · rw [holds, ← stands]
    exact sound.owned process
  · intro execution member running
    split
    · rename_i same
      have runs := sound.executionRuns execution member running
      rw [same, stands] at runs
      exact recorded runs
    · exact member
  · intro row stored running
    cases unmarked : before.marked with
    | true => exact .inl (marked unmarked)
    | false => exact .inr ⟨by rw [stands]; exact unmarked, row, stored, running⟩
  · exact deletes
  · exact fun other _ deleting => sound.deleting other deleting
  · exact sound.rowless
  · exact final

/-- A step that neither gains nor loses anything, and starts no deletion. -/
theorem sound_step {system : TaskSystem} (sound : Sound system) {process : Nat}
    {before after : Process} (stands : system.processes process = before)
    (holds : after.holdsSlot = before.holdsSlot) (records : after.recorded = before.recorded)
    (marks : after.marked = before.marked) (keeps : after.deletes = false)
    (stores : after.finalStatus = none) : Sound (system.setProcess process after) := by
  apply sound_move sound stands holds
  · rw [records]
    exact fun recorded => recorded
  · rw [marks]
    exact fun marked => marked
  · intro impossible
    rw [keeps] at impossible
    cases impossible
  · exact Process.ne_running_of_none stores

/-- A step of a `delete_task` that passed its check. -/
theorem sound_delete {system : TaskSystem} (sound : Sound system) {process : Nat}
    {before after : Process} (stands : system.processes process = before)
    (holds : before.holdsSlot = false) (free : system.runningTask = none)
    (deletes : after.deletes = true) : Sound (system.setProcess process after) := by
  have unheld : after.holdsSlot = false := by
    cases after
    all_goals first | rfl | cases deletes
  have stores : after.finalStatus = none := by
    cases after
    all_goals first | rfl | cases deletes
  apply sound_move sound stands (unheld.trans holds.symm)
  · intro records
    rw [Process.holdsSlot_of_recorded records] at holds
    cases holds
  · intro marks
    rw [Process.holdsSlot_of_recorded (Process.recorded_of_marked marks)] at holds
    cases holds
  · exact fun _ => free
  · exact Process.ne_running_of_none stores

/-- Dropping the guard before an execution was saved changes nothing else. -/
theorem sound_release {system : TaskSystem} (sound : Sound system) {process : Nat}
    (holds : (system.processes process).holdsSlot = true)
    (unmarked : (system.processes process).marked = false)
    (finished : ∀ execution ∈ system.executions, execution.status = .running →
      execution.id ≠ process) : Sound (system.release process) := by
  have owner := (sound.owned process).mp holds
  apply sound_change sound rfl
  · intro other distinct
    rw [owner]
    constructor
    · intro impossible
      cases impossible
    · exact fun same => absurd (Option.some.inj same).symm distinct
  · constructor
    · intro impossible
      cases impossible
    · intro impossible
      cases impossible
  · intro execution member running
    rw [if_neg (finished execution member running)]
    exact member
  · exact fun row stored running => .inr ⟨unmarked, row, stored, running⟩
  · exact fun _ => rfl
  · exact fun _ _ _ => rfl
  · exact sound.rowless
  · exact Process.ne_running_of_none rfl

theorem sound_release_unrecorded {system : TaskSystem} (sound : Sound system) {process : Nat}
    (holds : (system.processes process).holdsSlot = true)
    (unrecorded : (system.processes process).recorded = false) :
    Sound (system.release process) := by
  apply sound_release sound holds
  · cases marks : (system.processes process).marked with
    | false => rfl
    | true =>
        rw [Process.recorded_of_marked marks] at unrecorded
        cases unrecorded
  · rintro execution member running rfl
    rw [sound.executionRuns execution member running] at unrecorded
    cases unrecorded

variable {tables : Endpoints} {system next : TaskSystem} {process : Nat} {outcome : Outcome}

/-- A request that gives up keeps the lifecycle sound if it holds nothing. -/
theorem sound_return (sound : Sound system) {before : Process}
    (stands : system.processes process = before) (free : before.holdsSlot = false) :
    Sound (system.setProcess process .returned) := by
  have same : Process.returned.holdsSlot = before.holdsSlot := free.symm
  apply sound_move sound stands same
  · intro records
    rw [Process.holdsSlot_of_recorded records] at free
    cases free
  · intro marks
    rw [Process.holdsSlot_of_recorded (Process.recorded_of_marked marks)] at free
    cases free
  · intro impossible
    cases impossible
  · exact Process.ne_running_of_none rfl

theorem startRead_sound (sound : Sound system)
    (stands : system.processes process = .startReading) :
    Sound (system.startRead process outcome) := by
  unfold startRead
  split
  · split
    · exact sound_step sound stands rfl rfl rfl rfl rfl
    · exact sound_return sound stands rfl
  · exact sound_return sound stands rfl

/-- A `start_task` takes the slot while no `delete_task` passed its check. -/
theorem startClaim_sound (sound : Sound system) {task : MigrationTask}
    (stands : system.processes process = .startClaiming task)
    (alone : outcome = .ok → task.status.canStart = true →
      ∀ other, (system.processes other).deletes = false) :
    Sound (system.startClaim process task outcome) := by
  unfold startClaim
  split
  · split
    · rename_i claims
      have noDelete := alone rfl claims.1
      apply sound_change sound rfl
      · intro other distinct
        rw [claims.2]
        constructor
        · exact fun same => absurd (Option.some.inj same).symm distinct
        · intro impossible
          cases impossible
      · exact ⟨fun _ => rfl, fun _ => rfl⟩
      · intro execution member running
        have runs := sound.executionRuns execution member running
        split
        · rename_i same
          rw [same, stands] at runs
          cases runs
        · exact member
      · exact fun row stored running => .inr ⟨by rw [stands]; rfl, row, stored, running⟩
      · intro impossible
        cases impossible
      · intro other _ deleting
        rw [noDelete other] at deleting
        cases deleting
      · exact sound.rowless
      · exact Process.ne_running_of_none rfl
    · exact sound_return sound stands rfl
  · exact sound_return sound stands rfl

theorem startLookUp_sound (sound : Sound system) {task : MigrationTask}
    (stands : system.processes process = .startLookingUp task) :
    Sound (system.startLookUp tables process task outcome) := by
  have gaveUp : Sound (system.release process) :=
    sound_release_unrecorded sound (by rw [stands]; rfl) (by rw [stands]; rfl)
  unfold startLookUp
  split
  · split
    · exact sound_step sound stands rfl rfl rfl rfl rfl
    · exact gaveUp
  · exact gaveUp

theorem holder_deletes_none (sound : Sound system)
    (holds : (system.processes process).holdsSlot = true) {other : Nat}
    (deleting : (system.processes other).deletes = true) : False := by
  have free := sound.deleting other deleting
  rw [(sound.owned process).mp holds] at free
  cases free

theorem startSave_sound (sound : Sound system) {task : MigrationTask}
    (stands : system.processes process = .startSaving task) :
    Sound (system.startSave process task outcome) := by
  have holds : (system.processes process).holdsSlot = true := by rw [stands]; rfl
  have gaveUp : Sound (system.release process) :=
    sound_release_unrecorded sound holds (by rw [stands]; rfl)
  unfold startSave
  split
  · split
    · rename_i row stored
      apply sound_change sound rfl
      · exact fun _ _ => Iff.rfl
      · exact ⟨fun _ => (sound.owned process).mp holds, fun _ => rfl⟩
      · intro execution member running
        split
        · rfl
        · rename_i distinct
          cases List.mem_append.mp member with
          | inl saved => exact saved
          | inr new =>
              rw [List.mem_singleton.mp new] at distinct
              exact absurd rfl distinct
      · exact fun row stored running => .inr ⟨by rw [stands]; rfl, row, stored, running⟩
      · intro impossible
        cases impossible
      · exact fun other _ deleting => (holder_deletes_none sound holds deleting).elim
      · intro missing
        rw [show system.task = none from missing] at stored
        cases stored
      · exact Process.ne_running_of_none rfl
    · exact gaveUp
  · exact gaveUp

theorem startMark_sound (sound : Sound system) {task : MigrationTask}
    (stands : system.processes process = .startMarking task) :
    Sound (system.startMark process task .ok) := by
  have holds : (system.processes process).holdsSlot = true := by rw [stands]; rfl
  unfold startMark
  dsimp only
  split
  · apply sound_change sound rfl
    · exact fun _ _ => Iff.rfl
    · exact ⟨fun _ => (sound.owned process).mp holds, fun _ => rfl⟩
    · intro execution member _
      split
      · rfl
      · exact member
    · exact fun _ _ _ => .inl rfl
    · intro impossible
      cases impossible
    · exact fun other _ deleting => (holder_deletes_none sound holds deleting).elim
    · intro impossible
      cases impossible
    · exact Process.ne_running_of_none rfl
  · rename_i missing
    apply sound_release sound holds (by rw [stands]; rfl)
    intro execution member
    rw [sound.rowless missing] at member
    exact absurd member List.not_mem_nil

theorem workerCreate_sound (sound : Sound system) {task : MigrationTask}
    (stands : system.processes process = .workerCreating task) :
    Sound (system.workerCreate process task .ok) := by
  unfold workerCreate
  dsimp only
  split
  · exact sound_step sound stands rfl rfl rfl rfl rfl
  · exact sound_step sound stands rfl rfl rfl rfl rfl

theorem taskOutcome_ne_running (outcome : Outcome) (cancelled : Bool) :
    taskOutcome outcome cancelled ≠ .running := by
  cases cancelled <;> cases outcome <;> decide

theorem finish_sound (sound : Sound system) {before : Process}
    (stands : system.processes process = before) (holds : before.holdsSlot = true) :
    Sound (system.finish process outcome) :=
  sound_move sound stands holds.symm (fun _ => rfl) (fun _ => rfl)
    (fun impossible => by cases impossible)
    (fun same => taskOutcome_ne_running _ _ (Option.some.inj same))

/-- The scan tables and the job directory are no part of the lifecycle. -/
theorem sound_data (sound : Sound system) (scanTables : List ScanScope) (jobDir : Bool) :
    Sound { system with scanTables := scanTables, jobDir := jobDir } :=
  ⟨sound.owned, sound.executionRuns, sound.taskRuns, sound.deleting, sound.rowless, sound.final⟩

theorem workerClear_sound (sound : Sound system) {task : MigrationTask}
    (stands : system.processes process = .workerClearing task) :
    Sound (system.workerClear process task outcome) := by
  unfold workerClear
  split
  · apply sound_data _ [] system.jobDir
    exact sound_step sound stands rfl rfl rfl rfl rfl
  · exact finish_sound sound stands rfl

theorem workerWriteBack_sound (sound : Sound system) {task : MigrationTask}
    (stands : system.processes process = .workerWritingBack task) :
    Sound (system.workerWriteBack process task outcome) := by
  have holds : (system.processes process).holdsSlot = true := by rw [stands]; rfl
  unfold workerWriteBack
  split
  · split
    · apply sound_change sound rfl
      · exact fun _ _ => Iff.rfl
      · exact ⟨fun _ => (sound.owned process).mp holds, fun _ => rfl⟩
      · intro execution member _
        split
        · rfl
        · exact member
      · exact fun _ _ _ => .inl rfl
      · intro impossible
        cases impossible
      · exact fun other _ deleting => (holder_deletes_none sound holds deleting).elim
      · intro impossible
        cases impossible
      · exact Process.ne_running_of_none rfl
    · exact finish_sound sound stands rfl
  · exact finish_sound sound stands rfl

theorem workerMark_sound (sound : Sound system) {status : TaskStatus}
    (stands : system.processes process = .workerMarking status) :
    Sound (system.workerMark process status .ok) := by
  have holds : (system.processes process).holdsSlot = true := by rw [stands]; rfl
  have final : status ≠ .running := fun same => sound.final process (by rw [stands, same]; rfl)
  apply sound_change sound rfl
  · exact fun _ _ => Iff.rfl
  · exact ⟨fun _ => (sound.owned process).mp holds, fun _ => rfl⟩
  · intro execution member _
    split
    · rfl
    · exact member
  · intro row stored running
    obtain ⟨before, _, rfl⟩ := Option.map_eq_some_iff.mp stored
    exact absurd running final
  · intro impossible
    cases impossible
  · exact fun other _ deleting => (holder_deletes_none sound holds deleting).elim
  · exact fun missing => sound.rowless (Option.map_eq_none_iff.mp missing)
  · exact fun same => final (Option.some.inj same)

theorem workerMarkExecution_sound (sound : Sound system) {status : TaskStatus}
    (stands : system.processes process = .workerMarkingExecution status) :
    Sound (system.workerMarkExecution process status .ok) := by
  have holds : (system.processes process).holdsSlot = true := by rw [stands]; rfl
  have owner := (sound.owned process).mp holds
  have final : status ≠ .running := fun same => sound.final process (by rw [stands, same]; rfl)
  apply sound_change sound rfl
  · intro other distinct
    rw [owner]
    constructor
    · intro impossible
      cases impossible
    · exact fun same => absurd (Option.some.inj same).symm distinct
  · constructor
    · intro impossible
      cases impossible
    · intro impossible
      cases impossible
  · intro execution member running
    obtain ⟨before, saved, rfl⟩ := List.mem_map.mp member
    unfold markExecution at running ⊢
    by_cases same : before.id = process
    · rw [if_pos same] at running
      exact absurd running final
    · rw [if_neg same, if_neg same]
      exact saved
  · exact fun row stored running => .inr ⟨by rw [stands]; rfl, row, stored, running⟩
  · exact fun _ => rfl
  · exact fun _ _ _ => rfl
  · intro missing
    exact List.map_eq_nil_iff.mpr (sound.rowless missing)
  · exact Process.ne_running_of_none rfl

theorem updateRead_sound (sound : Sound system) {request : UpdateTaskRequest}
    (stands : system.processes process = .updateReading request) :
    Sound (system.updateRead tables process request outcome) := by
  have gaveUp := sound_return sound stands rfl
  unfold updateRead
  split
  · split
    · split
      · exact gaveUp
      · split
        · exact sound_step sound stands rfl rfl rfl rfl rfl
        · exact gaveUp
    · exact gaveUp
  · exact gaveUp

theorem updateWrite_sound (sound : Sound system) {task : MigrationTask}
    (stands : system.processes process = .updateWriting task) :
    Sound (system.updateWrite process task outcome) := by
  have unheld : (system.processes process).holdsSlot = false := by rw [stands]; rfl
  unfold updateWrite
  split
  · apply sound_change sound rfl
    · exact fun _ _ => Iff.rfl
    · rw [show Process.returned.holdsSlot = (system.processes process).holdsSlot from unheld.symm]
      exact sound.owned process
    · intro execution member running
      have runs := sound.executionRuns execution member running
      split
      · rename_i same
        rw [same, stands] at runs
        cases runs
      · exact member
    · intro row stored running
      obtain ⟨before, storedBefore, rfl⟩ := Option.map_eq_some_iff.mp stored
      exact .inr ⟨by rw [stands]; rfl, before, storedBefore, running⟩
    · intro impossible
      cases impossible
    · exact fun other _ deleting => sound.deleting other deleting
    · exact fun missing => sound.rowless (Option.map_eq_none_iff.mp missing)
    · exact Process.ne_running_of_none rfl
  · exact sound_return sound stands rfl

/-- A `delete_task` reads the task while nobody holds the slot, or is refused. -/
theorem deleteRead_sound (sound : Sound system)
    (stands : system.processes process = .deleteReading)
    (alone : outcome = .ok → system.runningTask ≠ none →
      ∀ row, system.task = some row → row.status = .running) :
    Sound (system.deleteRead process outcome) := by
  have gaveUp := sound_return sound stands rfl
  unfold deleteRead
  split
  · split
    · rename_i row stored
      split
      · rename_i deletable
        have free : system.runningTask = none := by
          by_contra held
          rw [TaskStatus.canDelete, alone rfl held row stored] at deletable
          exact absurd deletable (by decide)
        exact sound_delete sound stands rfl free rfl
      · exact gaveUp
    · exact gaveUp
  · exact gaveUp

theorem deleteClean_sound (sound : Sound system)
    (stands : system.processes process = .deleteCleaning) :
    Sound (system.deleteClean process outcome) := by
  have free := sound.deleting process (by rw [stands]; rfl)
  have moved : Sound (system.setProcess process .deleteDropping) :=
    sound_delete sound stands rfl free rfl
  unfold deleteClean
  split
  · exact sound_data moved system.scanTables false
  · exact moved

theorem deleteDrop_sound (sound : Sound system)
    (stands : system.processes process = .deleteDropping) :
    Sound (system.deleteDrop process outcome) := by
  have free := sound.deleting process (by rw [stands]; rfl)
  have moved : Sound (system.setProcess process .deleteExecutions) :=
    sound_delete sound stands rfl free rfl
  unfold deleteDrop
  split
  · exact sound_data moved [] system.jobDir
  · exact moved

/-- Rows may only go while the slot is free. -/
theorem sound_remove {after : Process} (sound : Sound system)
    (moved : Sound (system.setProcess process after)) (free : system.runningTask = none)
    {task : Option MigrationTask} (kept : ∀ row, task = some row → system.task = some row) :
    Sound { system.setProcess process after with task := task, executions := [] } := by
  refine ⟨moved.owned, ?_, ?_, moved.deleting, fun _ => rfl, moved.final⟩
  · exact fun execution member => absurd member List.not_mem_nil
  · intro row stored running
    obtain ⟨holder, marks⟩ := sound.taskRuns row (kept row stored) running
    have held := (sound.owned holder).mp
      (Process.holdsSlot_of_recorded (Process.recorded_of_marked marks))
    rw [free] at held
    cases held

theorem deleteByTaskId_sound (sound : Sound system)
    (stands : system.processes process = .deleteExecutions) :
    Sound (system.deleteByTaskId process outcome) := by
  have free := sound.deleting process (by rw [stands]; rfl)
  unfold deleteByTaskId
  split
  · have moved : Sound (system.setProcess process .deleteRow) :=
      sound_delete sound stands rfl free rfl
    exact sound_remove sound moved free (fun _ stored => stored)
  · exact sound_return sound stands rfl

theorem deleteTaskRow_sound (sound : Sound system)
    (stands : system.processes process = .deleteRow) :
    Sound (system.deleteTaskRow process outcome) := by
  have free := sound.deleting process (by rw [stands]; rfl)
  unfold deleteTaskRow
  split
  · exact sound_remove sound (sound_return sound stands rfl) free
      (fun _ impossible => by cases impossible)
  · exact sound_return sound stands rfl

theorem request_sound (sound : Sound system) {asked : Request}
    (taken : system.request process asked = some next) : Sound next := by
  unfold request at taken
  split at taken
  · rename_i idle
    cases asked with
    | start =>
        cases taken
        exact sound_step sound idle rfl rfl rfl rfl rfl
    | cancel =>
        cases taken
        have moved := sound_return sound idle rfl
        unfold cancelTask
        split
        · exact ⟨moved.owned, moved.executionRuns, moved.taskRuns, moved.deleting, moved.rowless,
            moved.final⟩
        · exact moved
    | update edit =>
        cases taken
        exact sound_step sound idle rfl rfl rfl rfl rfl
    | delete =>
        cases taken
        exact sound_step sound idle rfl rfl rfl rfl rfl
  · cases taken

theorem work_sound (sound : Sound system) (worked : system.work process = some next) :
    Sound next := by
  unfold work at worked
  split at worked
  · cases worked
    exact sound_data sound _ true
  · cases worked

theorem recoveredStatus_ne_running (taskType : Option TaskType) (status : TaskStatus) :
    recoveredStatus taskType status ≠ .running := by
  unfold recoveredStatus
  split
  · split
    · decide
    · decide
  · assumption

theorem restart_processes (system : TaskSystem) (process : Nat) :
    system.restart.processes process = .idle ∨ system.restart.processes process = .returned := by
  unfold restart
  dsimp only
  split
  · exact .inl rfl
  · exact .inr rfl

theorem restart_sound (sound : Sound system) : Sound system.restart := by
  refine ⟨?_, ?_, ?_, fun _ _ => rfl, ?_, ?_⟩
  · intro process
    constructor
    · intro holds
      rcases restart_processes system process with idle | returned
      · rw [idle] at holds
        cases holds
      · rw [returned] at holds
        cases holds
    · intro impossible
      cases impossible
  · intro execution member running
    obtain ⟨before, _, rfl⟩ := List.mem_map.mp member
    exact absurd running (recoveredStatus_ne_running _ before.status)
  · intro row stored running
    obtain ⟨before, _, rfl⟩ := Option.map_eq_some_iff.mp stored
    exact absurd running (recoveredStatus_ne_running _ before.status)
  · exact fun missing => List.map_eq_nil_iff.mpr (sound.rowless (Option.map_eq_none_iff.mp missing))
  · intro process
    rcases restart_processes system process with idle | returned
    · rw [idle]
      exact Process.ne_running_of_none rfl
    · rw [returned]
      exact Process.ne_running_of_none rfl

/-- The status writes and the runtime of a start that saved its execution succeed, and
no start takes the slot while a delete works or may pass its check. -/
def Guarded (system : TaskSystem) : TaskAction → Prop
  | .advance process outcome =>
      match system.processes process with
      | .startMarking _ | .workerCreating _ => outcome = .ok
      | .workerMarking _ | .workerMarkingExecution _ => outcome = .ok
      | .startClaiming task => outcome = .ok → task.status.canStart = true →
          ∀ other, (system.processes other).deletes = false
      | .deleteReading => outcome = .ok → system.runningTask ≠ none →
          ∀ row, system.task = some row → row.status = .running
      | _ => True
  | _ => True

theorem advance_sound (sound : Sound system) (guarded : Guarded system (.advance process outcome))
    (advanced : system.advance tables process outcome = some next) : Sound next := by
  unfold advance at advanced
  simp only [Guarded] at guarded
  cases stands : system.processes process with
  | idle =>
      rw [stands] at advanced
      cases advanced
  | returned =>
      rw [stands] at advanced
      cases advanced
  | startReading =>
      rw [stands] at advanced
      cases advanced
      exact startRead_sound sound stands
  | startClaiming task =>
      rw [stands] at advanced guarded
      cases advanced
      exact startClaim_sound sound stands guarded
  | startLookingUp task =>
      rw [stands] at advanced
      cases advanced
      exact startLookUp_sound sound stands
  | startSaving task =>
      rw [stands] at advanced
      cases advanced
      exact startSave_sound sound stands
  | startMarking task =>
      rw [stands] at advanced guarded
      cases advanced
      rw [show outcome = .ok from guarded]
      exact startMark_sound sound stands
  | workerCreating task =>
      rw [stands] at advanced guarded
      cases advanced
      rw [show outcome = .ok from guarded]
      exact workerCreate_sound sound stands
  | workerClearing task =>
      rw [stands] at advanced
      cases advanced
      exact workerClear_sound sound stands
  | workerWritingBack task =>
      rw [stands] at advanced
      cases advanced
      exact workerWriteBack_sound sound stands
  | workerRunning task =>
      rw [stands] at advanced
      cases advanced
      exact finish_sound sound stands rfl
  | workerMarking status =>
      rw [stands] at advanced guarded
      cases advanced
      rw [show outcome = .ok from guarded]
      exact workerMark_sound sound stands
  | workerMarkingExecution status =>
      rw [stands] at advanced guarded
      cases advanced
      rw [show outcome = .ok from guarded]
      exact workerMarkExecution_sound sound stands
  | updateReading request =>
      rw [stands] at advanced
      cases advanced
      exact updateRead_sound sound stands
  | updateWriting task =>
      rw [stands] at advanced
      cases advanced
      exact updateWrite_sound sound stands
  | deleteReading =>
      rw [stands] at advanced guarded
      cases advanced
      exact deleteRead_sound sound stands guarded
  | deleteCleaning =>
      rw [stands] at advanced
      cases advanced
      exact deleteClean_sound sound stands
  | deleteDropping =>
      rw [stands] at advanced
      cases advanced
      exact deleteDrop_sound sound stands
  | deleteExecutions =>
      rw [stands] at advanced
      cases advanced
      exact deleteByTaskId_sound sound stands
  | deleteRow =>
      rw [stands] at advanced
      cases advanced
      exact deleteTaskRow_sound sound stands

theorem step_sound {action : TaskAction} (sound : Sound system) (guarded : Guarded system action)
    (stepped : (taskLifecycle tables).step system action = some next) : Sound next := by
  cases action with
  | request process asked => exact request_sound sound stepped
  | advance process outcome => exact advance_sound sound guarded stepped
  | work process => exact work_sound sound stepped
  | restart =>
      cases stepped
      exact restart_sound sound

theorem created_sound (task : MigrationTask) : Sound (created task) := by
  refine ⟨?_, ?_, ?_, fun _ _ => rfl, fun _ => rfl, fun _ => Process.ne_running_of_none rfl⟩
  · intro process
    constructor
    · intro impossible
      cases impossible
    · intro impossible
      cases impossible
  · exact fun execution member => absurd member List.not_mem_nil
  · intro row stored running
    cases stored
    cases running

theorem run_sound {task : MigrationTask} {actions : List TaskAction} {final : TaskSystem}
    (guarded : (taskLifecycle tables).Along Guarded (created task) actions)
    (run : (taskLifecycle tables).exec (created task) actions = some final) : Sound final :=
  Machine.exec_invariant_along step_sound (created_sound task) guarded run

/-- No entry in `running_tasks` and no process that owns one. -/
def Idle (system : TaskSystem) : Prop := ∀ process, (system.processes process).holdsSlot = false

theorem runningTask_of_idle (sound : Sound system) (idle : Idle system) :
    system.runningTask = none := by
  cases held : system.runningTask with
  | none => rfl
  | some holder =>
      have holds := (sound.owned holder).mpr held
      rw [idle holder] at holds
      cases holds

theorem idle_of_deletes (sound : Sound system)
    (deletes : (system.processes process).deletes = true) : Idle system := by
  intro other
  cases holds : (system.processes other).holdsSlot with
  | false => rfl
  | true => exact (holder_deletes_none sound holds deletes).elim

theorem worker_unique (sound : Sound system) {first second : Nat}
    (works : (system.processes first).isWorker = true)
    (alsoWorks : (system.processes second).isWorker = true) : first = second := by
  have owner := (sound.owned first).mp (Process.holdsSlot_of_worker works)
  have other := (sound.owned second).mp (Process.holdsSlot_of_worker alsoWorks)
  exact Option.some.inj (owner.symm.trans other)

theorem nothing_runs_when_idle (sound : Sound system) (idle : Idle system) :
    (∀ execution ∈ system.executions, execution.status ≠ .running) ∧
      ∀ row, system.task = some row → row.status ≠ .running := by
  constructor
  · intro execution member running
    have records := sound.executionRuns execution member running
    have holds := Process.holdsSlot_of_recorded records
    rw [idle execution.id] at holds
    cases holds
  · intro row stored running
    obtain ⟨holder, marks⟩ := sound.taskRuns row stored running
    have holds := Process.holdsSlot_of_recorded (Process.recorded_of_marked marks)
    rw [idle holder] at holds
    cases holds

/-- A new request takes the slot of a task that nobody runs. -/
theorem startable (sound : Sound system) (idle : Idle system) {row : MigrationTask}
    (stored : system.task = some row) (fresh : system.processes process = .idle) :
    ∃ started, (taskLifecycle tables).exec system
        [.request process .start, .advance process .ok, .advance process .ok] = some started ∧
      started.processes process = .startLookingUp row ∧ started.runningTask = some process := by
  have free := runningTask_of_idle sound idle
  have canStart : row.status.canStart = true :=
    decide_eq_true ((nothing_runs_when_idle sound idle).2 row stored)
  have asks : (taskLifecycle tables).step system (.request process .start) =
      some (system.setProcess process .startReading) := by
    simp only [taskLifecycle, step, request, fresh, if_true]
  have reads : (taskLifecycle tables).step (system.setProcess process .startReading)
        (.advance process .ok) =
      some ((system.setProcess process .startReading).setProcess process (.startClaiming row)) := by
    simp only [taskLifecycle, step, advance, setProcess, Function.update_self, startRead, stored]
  refine ⟨{ ((system.setProcess process .startReading).setProcess process
    (.startClaiming row)).setProcess process (.startLookingUp row) with
      runningTask := some process }, ?_, ?_, rfl⟩
  · rw [Machine.exec, asks, Option.bind_some, Machine.exec, reads, Option.bind_some, Machine.exec]
    simp only [taskLifecycle, step, advance, setProcess, Function.update_self, startClaim, canStart,
      free, and_self, if_true, Option.bind_some, Machine.exec]
  · exact Function.update_self ..

/-- In guarded runs at most one worker runs, nothing is left running without a holder of
the slot, a delete finds the slot free, and a task without a worker can start. -/
theorem lifecycle_consistent {task : MigrationTask} {actions : List TaskAction}
    {final : TaskSystem}
    (guarded : (taskLifecycle tables).Along Guarded (created task) actions)
    (run : (taskLifecycle tables).exec (created task) actions = some final) :
    (∀ first second, (final.processes first).isWorker = true →
      (final.processes second).isWorker = true → first = second) ∧
    (Idle final → (∀ execution ∈ final.executions, execution.status ≠ .running) ∧
      ∀ row, final.task = some row → row.status ≠ .running) ∧
    (∀ deleter, (final.processes deleter).deletes = true → Idle final) ∧
    (Idle final → ∀ row, final.task = some row → ∀ process, final.processes process = .idle →
      ∃ started, (taskLifecycle tables).exec final
          [.request process .start, .advance process .ok, .advance process .ok] = some started ∧
        started.processes process = .startLookingUp row ∧
        started.runningTask = some process) := by
  have sound := run_sound guarded run
  refine ⟨?_, nothing_runs_when_idle sound, ?_, ?_⟩
  · exact fun first second works alsoWorks => worker_unique sound works alsoWorks
  · exact fun deleter deletes => idle_of_deletes sound deletes
  · exact fun idle row stored process fresh => startable sound idle stored fresh

def sampleConfig : TaskConfig :=
  ⟨false, none, none, 0, false, false, none, 0x40000000, none, none, none, false⟩

def sampleTask : MigrationTask :=
  ⟨['t'], ['s'], .scan, ['e'], none, none, none, sampleConfig, .pending⟩

def allEndpoints : Endpoints := ⟨fun _ => true, fun _ => true⟩

/-- The whole life of one run, without a failure. -/
def sampleActions : List TaskAction :=
  [.request 0 .start, .advance 0 .ok, .advance 0 .ok, .advance 0 .ok, .advance 0 .ok,
    .advance 0 .ok, .advance 0 .ok, .work 0, .advance 0 .ok, .advance 0 .ok, .advance 0 .ok]

theorem lifecycle_consistent_sample :
    ∃ final, (taskLifecycle allEndpoints).exec (created sampleTask) sampleActions = some final ∧
      ((∀ process, (final.processes process).holdsSlot = false) →
        (∀ execution ∈ final.executions, execution.status ≠ .running) ∧
        ∀ row, final.task = some row → row.status ≠ .running) := by
  have guarded : (taskLifecycle allEndpoints).Along Guarded (created sampleTask)
      sampleActions := by
    refine ⟨trivial, fun _ asked => ?_⟩
    cases asked
    refine ⟨trivial, fun _ read => ?_⟩
    cases read
    refine ⟨fun _ _ other => ?_, fun _ claimed => ?_⟩
    · cases other with
      | zero => rfl
      | succ _ => rfl
    · cases claimed
      refine ⟨trivial, fun _ lookedUp => ?_⟩
      cases lookedUp
      refine ⟨trivial, fun _ saved => ?_⟩
      cases saved
      refine ⟨rfl, fun _ marked => ?_⟩
      cases marked
      refine ⟨rfl, fun _ built => ?_⟩
      cases built
      refine ⟨trivial, fun _ worked => ?_⟩
      cases worked
      refine ⟨trivial, fun _ ran => ?_⟩
      cases ran
      refine ⟨rfl, fun _ stored => ?_⟩
      cases stored
      exact ⟨rfl, fun _ _ => trivial⟩
  have run : ∃ final, (taskLifecycle allEndpoints).exec (created sampleTask) sampleActions =
      some final := ⟨_, rfl⟩
  obtain ⟨final, run⟩ := run
  exact ⟨final, run, (lifecycle_consistent guarded run).2.1⟩

/-- One failure to create a runtime leaves the task and its execution running without a
worker, and the task cannot start again. Without any failure, a delete that read the task
before it was marked removes its data and rows under a running worker. -/
theorem lifecycle_breaks :
    (∃ final, (taskLifecycle allEndpoints).exec (created sampleTask)
        [.request 0 .start, .advance 0 .ok, .advance 0 .ok, .advance 0 .ok, .advance 0 .ok,
          .advance 0 .ok, .advance 0 .failed] = some final ∧
      Idle final ∧ (∃ execution ∈ final.executions, execution.status = .running) ∧
      ∃ row, final.task = some row ∧ row.status.canStart = false) ∧
    ∃ final, (taskLifecycle allEndpoints).exec (created sampleTask)
        [.request 0 .start, .request 1 .delete, .advance 0 .ok, .advance 0 .ok, .advance 1 .ok,
          .advance 0 .ok, .advance 0 .ok, .advance 0 .ok, .advance 0 .ok, .work 0,
          .advance 1 .ok, .advance 1 .ok, .advance 1 .ok, .advance 1 .ok] = some final ∧
      (final.processes 0).isWorker = true ∧ final.task = none ∧ final.scanTables = [] ∧
      final.jobDir = false := by
  constructor
  · refine ⟨_, rfl, ?_, ⟨⟨0, .running⟩, List.mem_singleton_self _, rfl⟩, _, rfl, rfl⟩
    intro process
    cases process with
    | zero => rfl
    | succ _ => rfl
  · exact ⟨_, rfl, rfl, rfl, rfl, rfl⟩

end TaskSystem

end Terrasync.Web
