import Terrasync.Execution.Recovery

/-! What a step can do to the shared state of an execution and to its calls. -/

set_option autoImplicit false

namespace Terrasync.Execution

/-- The changes of the shared state. The clock, the monitor flag, a new call and a stop
leave the recovery alone. -/
inductive Inner.Changes (inner : Inner) : Inner → Prop where
  | aside {next : Inner} (recovery : next.recovery = inner.recovery)
      (recovering : next.recovering = inner.recovering) (expired : next.expired = inner.expired)
      (clock : inner.now ≤ next.now) (entered : inner.nextOperation ≤ next.nextOperation) :
      Inner.Changes inner next
  | recovered (operation : Nat) : Inner.Changes inner (inner.recovered operation)
  | failed (operation : Nat) (error : DatabaseError) :
      Inner.Changes inner (inner.failedOperation operation error)
  | expired : Inner.Changes inner inner.expireIfDue

namespace Inner

theorem Changes.refl (inner : Inner) : inner.Changes inner := .aside rfl rfl rfl le_rfl le_rfl

theorem changes_acknowledged (inner : Inner) : inner.Changes inner.acknowledged :=
  .aside rfl rfl rfl le_rfl le_rfl

@[simp] theorem expireIfDue_recovery (inner : Inner) :
    inner.expireIfDue.recovery = inner.recovery := by
  simp only [expireIfDue]
  split <;> rfl

@[simp] theorem expireIfDue_recovering (inner : Inner) :
    inner.expireIfDue.recovering = inner.recovering := by
  simp only [expireIfDue]
  split <;> rfl

@[simp] theorem recovered_expired (inner : Inner) (operation : Nat) :
    (inner.recovered operation).expired = inner.expired := by
  simp only [recovered]
  split <;> rfl

@[simp] theorem recovered_failed (inner : Inner) (operation : Nat) :
    (inner.recovered operation).recovery.failed = inner.recovery.failed.erase operation := by
  simp only [recovered]
  split
  · next cleared => exact cleared.symm
  · rfl

end Inner

theorem expireIfDue_ended (inner : Inner) :
    inner.expireIfDue.ended = (inner.ended || inner.due) := by
  cases due : inner.due with
  | false => simp only [Inner.expireIfDue, due, Bool.false_eq_true, if_false, Bool.or_false]
  | true =>
      simp only [Inner.expireIfDue, due, if_true, Inner.ended, Bool.or_true, Bool.or_eq_true]
      simp only [Inner.due] at due
      split at due
      · next caused => exact Or.inl (by rw [caused]; rfl)
      · cases due

namespace Phase

/-- No attempt is under way and one may follow. -/
def retries : Phase → Bool
  | gate | gateLocked | waiting | delaying _ _ | expiring => true
  | failing error => error.requestWasNotSent
  | _ => false

end Phase

namespace Request

/-- The step ends the request with an error. -/
def givesUp (inner : Inner) (request : Request) (event : Event) : Bool :=
  match request.phase, event with
  | .gate, .go => inner.ended
  | .attempting (.done (.error error)) [], .go =>
      !error.isTransientConnectivityFailure || inner.stopping
  | .waiting, .stopped | .delaying _ _, .stopped | .ending _, .stopped => true
  | .ending _, .go => inner.ended || inner.due
  | _, _ => false

/-- What a step of the request `id` can do, with the shared state and the request after it. -/
inductive Moves (id : Nat) (inner : Inner) (request : Request) (event : Event) :
    Inner → Request → Prop where
  | begun (allowed : (request.phase = .gate ∧ inner.recovering = false) ∨
      (request.phase = .gateLocked ∧ id ∈ inner.recovery.failed)) :
      Moves id inner request event inner request.beginAttempt
  | roamed (next : Phase) (before : request.phase.retries = true) (after : next.retries = true)
      (open_ : ∀ error, next ≠ .failing error) :
      Moves id inner request event inner (request.goTo next)
  | expired (phase : request.phase = .expiring) :
      Moves id inner request event inner.expireIfDue (request.goTo .gate)
  | issued (statement : Nat) (next : Except DatabaseError Unit → Operation)
      (callers : List (Except DatabaseError Unit → Operation)) (outcome : Except DatabaseError Unit)
      (phase : request.phase = .attempting (.statement statement next) callers) :
      Moves id inner request event inner
        ((request.issue statement outcome).goTo (.attempting (next outcome) callers))
  | computed (current next : Operation) (callers rest : List (Except DatabaseError Unit → Operation))
      (phase : request.phase = .attempting current callers) :
      Moves id inner request event inner (request.goTo (.attempting next rest))
  | nestedFailed (error : DatabaseError) (next : Except DatabaseError Unit → Operation)
      (callers rest : List (Except DatabaseError Unit → Operation))
      (phase : request.phase = .attempting (.done (.error error)) callers) :
      Moves id inner request event inner (request.goTo (.nestedFailing error next rest))
  | nestedRecorded (error : DatabaseError) (next : Operation)
      (callers : List (Except DatabaseError Unit → Operation)) :
      Moves id inner request event (inner.failedOperation id error)
        (request.goTo (.attempting next callers))
  | attempted (phase : request.phase = .attempting (.done (.ok ())) []) :
      Moves id inner request event inner (request.goTo .acknowledging)
  | failed (error : DatabaseError) (phase : request.phase = .attempting (.done (.error error)) [])
      (transient : error.isTransientConnectivityFailure = true) (running : inner.stopping = false) :
      Moves id inner request event inner (request.goTo (.failing error))
  | recorded (error : DatabaseError) (phase : request.phase = .failing error) :
      Moves id inner request event (inner.failedOperation id error)
        (request.afterFailure inner error)
  | acknowledged (phase : request.phase = .acknowledging) (recovering : inner.recovering = true) :
      Moves id inner request event inner.acknowledged (request.goTo .removing)
  | answered (phase : request.phase = .acknowledging) (settled : inner.recovering = false) :
      Moves id inner request event inner.acknowledged (request.goTo (.returned (.ok ())))
  | removed (phase : request.phase = .removing) :
      Moves id inner request event (inner.recovered id) (request.goTo (.returned (.ok ())))
  | rested (error : DatabaseError) (phase : request.phase = .ending error) :
      Moves id inner request event inner.expireIfDue request
  | gaveUp (error : DatabaseError) (gives : request.givesUp inner event = true) :
      Moves id inner request event inner (request.goTo (.returned (.error error)))
  | gaveUpExpired (error : DatabaseError) (gives : request.givesUp inner event = true) :
      Moves id inner request event inner.expireIfDue (request.goTo (.returned (.error error)))

theorem atGate_moves {id : Nat} {inner : Inner} {request : Request}
    (phase : request.phase = .gate) : request.Moves id inner .go inner (request.atGate inner) := by
  cases ended : inner.terminal with
  | some source =>
      simp only [atGate, ended]
      exact .gaveUp _ (by simp only [givesUp, phase, Inner.ended, ended, Option.isSome_some, Bool.true_or])
  | none =>
      simp only [atGate, ended]
      split
      · next stopping =>
          exact .gaveUp _ (by simp only [givesUp, phase, Inner.ended, stopping, Bool.or_true])
      split
      · exact .roamed _ (by rw [phase]; rfl) rfl (fun _ same => by cases same)
      · next settled => exact .begun (.inl ⟨phase, Bool.eq_false_iff.mpr settled⟩)

theorem nestedResult_moves {id : Nat} {inner : Inner} {request : Request} {event : Event}
    {result : Except DatabaseError Unit} {next : Except DatabaseError Unit → Operation}
    {callers callers' : List (Except DatabaseError Unit → Operation)}
    (phase : request.phase = .attempting (.done result) callers') :
    request.Moves id inner event inner (request.nestedResult inner result next callers) := by
  cases result with
  | ok => exact .computed _ _ _ _ phase
  | error error =>
      simp only [nestedResult]
      split
      · exact .nestedFailed _ _ _ _ phase
      · exact .computed _ _ _ _ phase

theorem attemptResult_moves {id : Nat} {inner : Inner} {request : Request}
    {result : Except DatabaseError Unit} (phase : request.phase = .attempting (.done result) []) :
    request.Moves id inner .go inner (request.attemptResult inner result) := by
  cases result with
  | ok => exact .attempted phase
  | error error =>
      simp only [attemptResult]
      split
      · next retried =>
          simp only [Bool.and_eq_true, Bool.not_eq_true'] at retried
          exact .failed _ phase retried.1 retried.2
      · next final =>
          refine .gaveUp _ ?_
          simp only [givesUp, phase]
          rw [Bool.not_eq_true, ← Bool.not_eq_true', Bool.not_and, Bool.not_not] at final
          exact final

theorem attempt_moves {id : Nat} {inner : Inner} {request next : Request} {event : Event}
    {current : Operation} {callers : List (Except DatabaseError Unit → Operation)}
    (phase : request.phase = .attempting current callers)
    (stepped : request.attempt inner current callers event = some next) :
    request.Moves id inner event inner next := by
  simp only [attempt] at stepped
  split at stepped
  · cases stepped
    exact .issued _ _ _ _ phase
  · cases stepped
    exact .computed _ _ _ _ phase
  · cases stepped
    exact nestedResult_moves phase
  · cases stepped
    exact attemptResult_moves phase
  · cases stepped

theorem step_moves {id : Nat} {inner after : Inner} {request next : Request} {event : Event}
    (stepped : request.step id inner event = some (after, next)) :
    request.Moves id inner event after next := by
  simp only [step] at stepped
  split at stepped
  · next phase =>
      cases stepped
      exact atGate_moves phase
  · next phase =>
      cases stepped
      split
      · next member => exact .begun (.inr ⟨phase, member⟩)
      · exact .roamed _ (by rw [phase]; rfl) rfl (fun _ same => by cases same)
  · next phase =>
      cases stepped
      exact .roamed _ (by rw [phase]; rfl) rfl (fun _ same => by cases same)
  · next phase =>
      obtain ⟨_, same⟩ := Option.ite_none_right_eq_some.mp stepped
      cases same
      exact .gaveUp _ (by simp only [givesUp, phase])
  · next phase =>
      obtain ⟨_, attempted, same⟩ := Option.map_eq_some_iff.mp stepped
      cases same
      exact attempt_moves phase attempted
  · cases stepped
    exact .nestedRecorded _ _ _
  · next phase =>
      cases stepped
      split
      · next recovering => exact .acknowledged phase recovering
      · next settled => exact .answered phase (Bool.eq_false_iff.mpr settled)
  · next phase =>
      cases stepped
      exact .removed phase
  · next phase =>
      cases stepped
      exact .recorded _ phase
  · next phase =>
      obtain ⟨_, same⟩ := Option.ite_none_right_eq_some.mp stepped
      cases same
      exact .gaveUp _ (by simp only [givesUp, phase])
  · next phase =>
      obtain ⟨_, same⟩ := Option.ite_none_right_eq_some.mp stepped
      cases same
      exact .roamed _ (by rw [phase]; rfl) rfl (fun _ same => by cases same)
  · next phase =>
      cases stepped
      exact .expired phase
  · next phase =>
      cases stepped
      split
      · next ended =>
          rw [expireIfDue_ended] at ended
          exact .gaveUpExpired _ (by simp only [givesUp, phase, ended])
      · exact .rested _ phase
  · next phase =>
      obtain ⟨_, same⟩ := Option.ite_none_right_eq_some.mp stepped
      cases same
      exact .gaveUp _ (by simp only [givesUp, phase])
  · cases stepped

theorem Moves.changes {id : Nat} {inner after : Inner} {request next : Request} {event : Event}
    (moves : request.Moves id inner event after next) : inner.Changes after := by
  cases moves with
  | begun | roamed | issued | computed | nestedFailed | attempted | failed | gaveUp =>
      exact .refl inner
  | expired | rested | gaveUpExpired => exact .expired
  | nestedRecorded | recorded => exact .failed _ _
  | acknowledged | answered => exact inner.changes_acknowledged
  | removed => exact .recovered _

end Request

/-- The step ends the call. -/
def Settling.givesUp (inner : Inner) (settling : Settling) (event : Event) : Bool :=
  match settling, event with
  | .ending _, .stopped => true
  | .ending _, .go => inner.ended || inner.due
  | _, _ => false

/-- A step of a waiting `settle_failure` call. -/
theorem Settling.step_cases {id : Nat} {inner after : Inner} {settling next : Settling} {event : Event}
    (stepped : settling.step id inner event = some (after, next)) :
    (∃ error, settling = .failing error ∧ after = inner.failedOperation id error ∧
        next = .ending error) ∨
      ∃ error, settling = .ending error ∧ (after = inner ∨ after = inner.expireIfDue) ∧
        (next = .ending error ∨
          settling.givesUp inner event = true ∧ next = .returned (.scanRequestFailed error)) := by
  simp only [step] at stepped
  split at stepped
  · cases stepped
    exact .inl ⟨_, rfl, rfl, rfl⟩
  · cases stepped
    refine .inr ⟨_, rfl, .inr rfl, ?_⟩
    split
    · next ended =>
        rw [expireIfDue_ended] at ended
        exact .inr ⟨ended, rfl⟩
    · exact .inl rfl
  · obtain ⟨_, same⟩ := Option.ite_none_right_eq_some.mp stepped
    cases same
    exact .inr ⟨_, rfl, .inl rfl, .inr ⟨rfl, rfl⟩⟩
  · cases stepped

theorem Settling.step_changes {id : Nat} {inner after : Inner} {settling next : Settling} {event : Event}
    (stepped : settling.step id inner event = some (after, next)) : inner.Changes after := by
  obtain ⟨_, _, rfl, _⟩ | ⟨_, _, rfl | rfl, _⟩ := step_cases stepped
  · exact .failed _ _
  · exact .refl _
  · exact .expired

namespace Monitor

/-- The monitor puts nothing but the probe into the set and takes nothing else out. -/
inductive Moves (inner : Inner) : Inner → Prop where
  | aside {after : Inner} (recovery : after.recovery = inner.recovery)
      (recovering : after.recovering = inner.recovering) (expired : after.expired = inner.expired)
      (clock : after.now = inner.now) (entered : after.nextOperation = inner.nextOperation) :
      Moves inner after
  | recovered : Moves inner (inner.recovered 0)
  | failed (error : DatabaseError) : Moves inner (inner.failedOperation 0 error)
  | expired : Moves inner inner.expireIfDue

theorem Moves.refl (inner : Inner) : Moves inner inner := .aside rfl rfl rfl rfl rfl

theorem Moves.changes {inner after : Inner} (moves : Moves inner after) : inner.Changes after := by
  cases moves with
  | aside recovery recovering expired clock entered =>
      exact .aside recovery recovering expired (le_of_eq clock.symm) (le_of_eq entered.symm)
  | recovered => exact .recovered 0
  | failed error => exact .failed 0 error
  | expired => exact .expired

theorem probed_moves (inner : Inner) (reply : ProbeReply) : Moves inner (probed inner reply).1 := by
  cases reply with
  | complete | incomplete | timedOut => exact .refl inner
  | failed error =>
      simp only [probed]
      split
      · exact .refl inner
      · exact .aside rfl rfl rfl rfl rfl

theorem wakeUp_moves (inner : Inner) (nextProbe : Nat) : Moves inner (wakeUp inner nextProbe).1 := by
  simp only [wakeUp]
  split
  · exact .refl inner
  split
  · exact .expired
  split <;> exact .expired

theorem step_moves {inner after : Inner} {monitor next : Monitor} {event : MonitorEvent}
    (stepped : monitor.step inner event = some (after, next)) : Moves inner after := by
  simp only [step] at stepped
  split at stepped
  · cases stepped
    exact .expired
  · cases stepped
    exact .refl inner
  · cases stepped
    exact .refl inner
  · obtain ⟨_, same⟩ := Option.ite_none_right_eq_some.mp stepped
    cases same
    exact .refl inner
  · have woken := Option.some.inj stepped
    rw [show after = (wakeUp inner _).1 from congrArg Prod.fst woken.symm]
    exact wakeUp_moves _ _
  · cases stepped
    exact .refl inner
  · have answered := Option.some.inj stepped
    rw [show after = (probed inner _).1 from congrArg Prod.fst answered.symm]
    exact probed_moves _ _
  · cases stepped
    exact .aside rfl rfl rfl rfl rfl
  · cases stepped
    exact .recovered
  · cases stepped
    exact .failed _
  · cases stepped

theorem abort_moves {inner after : Inner} {monitor next : Monitor}
    (aborted : monitor.abort inner = some (after, next)) : Moves inner after := by
  simp only [abort] at aborted
  split at aborted
  · cases aborted
  · cases aborted
  · cases aborted
    split
    · exact .refl inner
    · exact .aside rfl rfl rfl rfl rfl

end Monitor

namespace ScanDatabaseExecution

/-- What a step does to the whole execution. -/
inductive Moves (execution : ScanDatabaseExecution) (action : Action) : ScanDatabaseExecution → Prop where
  | entered (call : Call) (entered : (∃ safety operation, call = .request (.new safety operation)) ∨
      ∃ error, call = .settle (.failing error)) : Moves execution action (execution.enter call)
  | requested (id : Nat) (event : Event) (request next : Request) (inner : Inner)
      (taken : action = .call id event) (called : execution.calls id = some (.request request))
      (moves : request.Moves id execution.inner event inner next) :
      Moves execution action
        { execution with
          inner := inner, calls := Function.update execution.calls id (some (.request next)) }
  | settled (id : Nat) (event : Event) (settling next : Settling) (inner : Inner)
      (taken : action = .call id event) (called : execution.calls id = some (.settle settling))
      (stepped : settling.step id execution.inner event = some (inner, next)) :
      Moves execution action
        { execution with
          inner := inner, calls := Function.update execution.calls id (some (.settle next)) }
  | monitored (inner : Inner) (monitor : Monitor) (moves : Monitor.Moves execution.inner inner) :
      Moves execution action { execution with inner := inner, monitor := monitor }
  | ticked (millis : Nat) :
      Moves execution action
        { execution with inner := { execution.inner with now := execution.inner.now + millis } }

theorem advance_moves {execution next : ScanDatabaseExecution} {id : Nat} {event : Event}
    (stepped : execution.advance id event = some next) : execution.Moves (.call id event) next := by
  simp only [advance] at stepped
  split at stepped
  · next request called =>
      obtain ⟨⟨inner, after⟩, moved, rfl⟩ := Option.map_eq_some_iff.mp stepped
      exact .requested id event request after inner rfl called (Request.step_moves moved)
  · next settling called =>
      obtain ⟨⟨inner, after⟩, moved, rfl⟩ := Option.map_eq_some_iff.mp stepped
      exact .settled id event settling after inner rfl called moved
  · cases stepped

theorem step_moves {execution next : ScanDatabaseExecution} {action : Action}
    (stepped : machine.step execution action = some next) : execution.Moves action next := by
  cases action with
  | tick millis =>
      cases stepped
      exact .ticked millis
  | request safety operation =>
      cases stepped
      exact .entered _ (.inl ⟨safety, operation, rfl⟩)
  | settleFailure error =>
      simp only [machine, step] at stepped
      split at stepped
      · cases stepped
        exact .entered _ (.inr ⟨error, rfl⟩)
      · cases stepped
        exact .monitored _ _ (.refl _)
  | call id event => exact advance_moves stepped
  | startMonitor =>
      cases stepped
      simp only [startMonitor]
      split
      · exact .monitored _ _ (.refl _)
      · exact .monitored _ _ (.aside rfl rfl rfl rfl rfl)
  | monitor event =>
      obtain ⟨⟨inner, monitor⟩, moved, rfl⟩ := Option.map_eq_some_iff.mp stepped
      exact .monitored inner monitor (Monitor.step_moves moved)
  | abortMonitor =>
      obtain ⟨⟨inner, monitor⟩, moved, rfl⟩ := Option.map_eq_some_iff.mp stepped
      exact .monitored inner monitor (Monitor.abort_moves moved)
  | beginStop =>
      cases stepped
      exact .monitored _ _ (.aside rfl rfl rfl rfl rfl)

theorem Moves.changes {execution next : ScanDatabaseExecution} {action : Action}
    (moves : execution.Moves action next) : execution.inner.Changes next.inner := by
  cases moves with
  | entered => exact .aside rfl rfl rfl le_rfl (Nat.le_succ _)
  | requested _ _ _ _ _ _ _ moves => exact moves.changes
  | settled _ _ _ _ _ _ _ stepped => exact Settling.step_changes stepped
  | monitored _ _ moves => exact moves.changes
  | ticked millis => exact .aside rfl rfl rfl (Nat.le_add_right _ _) le_rfl

/-- A request is as it was, or new, or the one that took the step. -/
theorem Moves.request_cases {execution next : ScanDatabaseExecution} {action : Action} {id : Nat}
    {request : Request} (moves : execution.Moves action next)
    (called : next.calls id = some (.request request)) :
    execution.calls id = some (.request request) ∨
      (∃ safety operation, request = .new safety operation) ∨
      ∃ event before, action = .call id event ∧ execution.calls id = some (.request before) ∧
        before.Moves id execution.inner event next.inner request := by
  cases moves with
  | entered call entered =>
      simp only [enter, Function.update_apply] at called
      split at called
      · obtain ⟨safety, operation, rfl⟩ | ⟨error, rfl⟩ := entered
        · cases called
          exact .inr (.inl ⟨safety, operation, rfl⟩)
        · cases called
      · exact .inl called
  | requested mover event before after inner taken caller moves =>
      simp only [Function.update_apply] at called
      split at called
      · next same =>
          cases called
          subst same
          exact .inr (.inr ⟨event, before, taken, caller, moves⟩)
      · exact .inl called
  | settled mover event settling after inner taken caller stepped =>
      simp only [Function.update_apply] at called
      split at called
      · cases called
      · exact .inl called
  | monitored => exact .inl called
  | ticked => exact .inl called

end ScanDatabaseExecution

end Terrasync.Execution
