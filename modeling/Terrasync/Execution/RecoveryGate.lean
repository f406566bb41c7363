import Terrasync.Execution.RecoveryProperties

/-! The recovery gate over whole runs: what the flag, the set of failed operations and the
start time say of each other, who is in the set, who passes the gate, and when the window
ends the execution. -/

set_option autoImplicit false

namespace Terrasync.Execution

namespace Inner

/-- Flag, set and start time agree. -/
structure Consistent (inner : Inner) : Prop where
  flag : inner.recovering = true ↔ inner.recovery.failed.Nonempty
  start : inner.recovery.started.isSome = true ↔ inner.recovery.failed.Nonempty

theorem consistent_new : Inner.new.Consistent where
  flag := by simp [new, Recovery.default]
  start := by simp [new, Recovery.default]

theorem Consistent.recovered {inner : Inner} (consistent : inner.Consistent) (operation : Nat) :
    (inner.recovered operation).Consistent := by
  simp only [Inner.recovered]
  split
  · exact ⟨by simp [Recovery.default], by simp [Recovery.default]⟩
  · next remains =>
      have left : (inner.recovery.failed.erase operation).Nonempty :=
        Finset.nonempty_iff_ne_empty.mpr remains
      have before : inner.recovery.failed.Nonempty := left.mono (Finset.erase_subset _ _)
      exact ⟨iff_of_true (consistent.flag.mpr before) left,
        iff_of_true (consistent.start.mpr before) left⟩

theorem Consistent.failedOperation {inner : Inner} (operation : Nat) (error : DatabaseError) :
    (inner.failedOperation operation error).Consistent where
  flag := iff_of_true rfl (Finset.insert_nonempty _ _)
  start := iff_of_true rfl (Finset.insert_nonempty _ _)

theorem Changes.consistent {inner next : Inner} (changes : inner.Changes next)
    (consistent : inner.Consistent) : next.Consistent := by
  cases changes with
  | aside recovery recovering =>
      refine ⟨?_, ?_⟩
      · rw [recovery, recovering]
        exact consistent.flag
      · rw [recovery]
        exact consistent.start
  | recovered operation => exact consistent.recovered operation
  | failed operation error => exact .failedOperation operation error
  | expired =>
      refine ⟨?_, ?_⟩
      · rw [expireIfDue_recovery, expireIfDue_recovering]
        exact consistent.flag
      · rw [expireIfDue_recovery]
        exact consistent.start

theorem Consistent.failed_eq_empty {inner : Inner} (consistent : inner.Consistent)
    (settled : inner.recovering = false) : inner.recovery.failed = ∅ := by
  rw [← Finset.not_nonempty_iff_eq_empty, ← consistent.flag, settled]
  exact Bool.false_ne_true

/-- A window that is open was open before or opens now. -/
theorem Changes.started {inner next : Inner} {start : Nat} (changes : inner.Changes next)
    (started : next.recovery.started = some start) :
    inner.recovery.started = some start ∨ start = next.now := by
  cases changes with
  | aside recovery =>
      rw [recovery] at started
      exact .inl started
  | recovered operation =>
      simp only [Inner.recovered] at started
      split at started
      · cases started
      · exact .inl started
  | failed operation error =>
      simp only [failedOperation, Option.some.injEq] at started
      cases before : inner.recovery.started with
      | none =>
          rw [before] at started
          exact .inr started.symm
      | some earlier =>
          rw [before] at started
          exact .inl (congrArg some started)
  | expired =>
      rw [expireIfDue_recovery] at started
      exact .inl started

/-- The window ends the execution only when it is over. -/
theorem Changes.due_of_expired {inner next : Inner} (changes : inner.Changes next)
    (before : inner.expired = false) (after : next.expired = true) : inner.due = true := by
  cases changes with
  | aside _ _ expired =>
      rw [expired, before] at after
      cases after
  | recovered operation =>
      rw [recovered_expired, before] at after
      cases after
  | failed =>
      rw [show (inner.failedOperation _ _).expired = inner.expired from rfl, before] at after
      cases after
  | expired =>
      cases due : inner.due with
      | true => rfl
      | false =>
          simp only [expireIfDue, due, Bool.false_eq_true, if_false, before] at after

theorem started_of_due {inner : Inner} (due : inner.due = true) :
    ∃ start, inner.recovery.started = some start ∧ start + recoveryWindow ≤ inner.now := by
  simp only [Inner.due] at due
  split at due
  · next deadline _ _ reached _ _ =>
      obtain ⟨start, started, rfl⟩ := Option.map_eq_some_iff.mp reached
      exact ⟨start, started, of_decide_eq_true due⟩
  · cases due

end Inner

def Call.hasReturned : Call → Bool
  | .request running =>
      match running.phase with
      | .returned _ => true
      | _ => false
  | .settle (.returned _) => true
  | .settle _ => false

namespace Request

/-- A step puts at most its own request into the set. -/
theorem Moves.failed_subset {id other : Nat} {inner after : Inner} {request next : Request} {event : Event}
    (moves : request.Moves id inner event after next) (member : other ∈ after.recovery.failed) :
    other ∈ inner.recovery.failed ∨ other = id := by
  cases moves with
  | begun | roamed | issued | computed | nestedFailed | attempted | failed | gaveUp
  | acknowledged | answered => exact .inl member
  | expired | rested | gaveUpExpired =>
      rw [Inner.expireIfDue_recovery] at member
      exact .inl member
  | nestedRecorded | recorded => exact (Finset.mem_insert.mp member).symm
  | removed =>
      rw [Inner.recovered_failed] at member
      exact .inl (Finset.mem_of_mem_erase member)

/-- A request that leaves no error behind while it is in the set leaves the set before it
returns. -/
theorem Moves.hasReturned {id : Nat} {inner after : Inner} {request next : Request} {event : Event}
    (moves : request.Moves id inner event after next) (consistent : inner.Consistent)
    (resolved : request.givesUp inner event = true → id ∉ inner.recovery.failed)
    (member : id ∈ after.recovery.failed) : (Call.request next).hasReturned = false := by
  cases moves with
  | answered phase settled =>
      rw [show inner.acknowledged.recovery.failed = ∅ from consistent.failed_eq_empty settled] at member
      exact absurd member (Finset.notMem_empty id)
  | removed =>
      rw [Inner.recovered_failed] at member
      exact absurd rfl (Finset.ne_of_mem_erase member)
  | gaveUp error gives => exact absurd member (resolved gives)
  | gaveUpExpired error gives =>
      rw [Inner.expireIfDue_recovery] at member
      exact absurd member (resolved gives)
  | roamed next before after =>
      cases next with
      | returned => cases after
      | _ => rfl
  | rested error phase => simp only [Call.hasReturned, phase]
  | recorded error =>
      simp only [afterFailure]
      split <;> rfl
  | begun | expired | issued | computed | nestedFailed | nestedRecorded | attempted | failed
  | acknowledged => rfl

end Request

namespace ScanDatabaseExecution

/-- The call of that number is under way. -/
def Unreturned (execution : ScanDatabaseExecution) (id : Nat) : Prop :=
  ∃ call, execution.calls id = some call ∧ call.hasReturned = false

/-- No call returns an error while it is in the set: neither a permanent error of a later
attempt nor the end or the stop of the execution. -/
def ResolvesFailures (execution : ScanDatabaseExecution) : Action → Prop
  | .call id event =>
      match execution.calls id with
      | some (.request request) =>
          request.givesUp execution.inner event = true → id ∉ execution.inner.recovery.failed
      | some (.settle settling) =>
          settling.givesUp execution.inner event = true → id ∉ execution.inner.recovery.failed
      | none => True
  | _ => True

instance (execution : ScanDatabaseExecution) (action : Action) :
    Decidable (execution.ResolvesFailures action) := by
  unfold ResolvesFailures
  split
  · split <;> infer_instance
  · infer_instance

/-- Every failed operation is the probe's or that of a call under way. -/
def Owned (execution : ScanDatabaseExecution) : Prop :=
  ∀ id ∈ execution.inner.recovery.failed, id = 0 ∨ execution.Unreturned id

theorem Unreturned.update {execution : ScanDatabaseExecution} {inner : Inner} {id mover : Nat} {call : Call}
    (unreturned : id ≠ mover → execution.Unreturned id) (moved : id = mover → call.hasReturned = false) :
    Unreturned { execution with
      inner := inner, calls := Function.update execution.calls mover (some call) } id := by
  by_cases same : id = mover
  · subst same
    exact ⟨call, Function.update_self _ _ _, moved rfl⟩
  · obtain ⟨other, called, running⟩ := unreturned same
    exact ⟨other, (Function.update_of_ne same _ _).trans called, running⟩

theorem step_owned {execution next : ScanDatabaseExecution} {action : Action}
    (consistent : execution.inner.Consistent) (owned : execution.Owned)
    (resolved : execution.ResolvesFailures action)
    (stepped : machine.step execution action = some next) : next.Owned := by
  intro id member
  cases step_moves stepped with
  | entered call entered =>
      refine (owned id member).imp_right fun running => Unreturned.update (fun _ => running) fun _ => ?_
      obtain ⟨safety, operation, rfl⟩ | ⟨error, rfl⟩ := entered <;> rfl
  | requested mover event request after inner taken called moves =>
      subst taken
      simp only [ResolvesFailures, called] at resolved
      by_cases same : id = mover
      · subst same
        refine .inr (Unreturned.update (fun differs => absurd rfl differs) fun _ => ?_)
        exact moves.hasReturned consistent resolved member
      · have before := (moves.failed_subset member).resolve_right same
        exact (owned id before).imp_right fun running =>
          Unreturned.update (fun _ => running) fun moved => absurd moved same
  | settled mover event settling after inner taken called moved =>
      subst taken
      obtain ⟨error, rfl, rfl, rfl⟩ | ⟨error, rfl, inner, ended⟩ := Settling.step_cases moved
      · by_cases same : id = mover
        · exact .inr (Unreturned.update (fun differs => absurd same differs) fun _ => rfl)
        · have before := (Finset.mem_insert.mp member).resolve_left same
          exact (owned id before).imp_right fun running =>
            Unreturned.update (fun _ => running) fun _ => rfl
      · have before : id ∈ execution.inner.recovery.failed := by
          obtain rfl | rfl := inner
          · exact member
          · rw [Inner.expireIfDue_recovery] at member
            exact member
        refine (owned id before).imp_right fun running => Unreturned.update (fun _ => running) ?_
        rintro rfl
        obtain rfl | ⟨failed, rfl⟩ := ended
        · rfl
        · simp only [ResolvesFailures, called] at resolved
          exact absurd before (resolved failed)
  | monitored inner monitor moves =>
      cases moves with
      | aside recovery =>
          rw [show inner.recovery.failed = _ from congrArg Recovery.failed recovery] at member
          exact owned id member
      | recovered =>
          rw [Inner.recovered_failed] at member
          exact owned id (Finset.mem_of_mem_erase member)
      | failed error => exact (Finset.mem_insert.mp member).elim .inl (owned id)
      | expired =>
          rw [Inner.expireIfDue_recovery] at member
          exact owned id member
  | ticked millis => exact owned id member

theorem step_consistent {execution next : ScanDatabaseExecution} {action : Action}
    (consistent : execution.inner.Consistent) (stepped : machine.step execution action = some next) :
    next.inner.Consistent :=
  (step_moves stepped).changes.consistent consistent

theorem run_consistent {actions : List Action} {final : ScanDatabaseExecution}
    (run : machine.exec .new actions = some final) : final.inner.Consistent :=
  Lib.Machine.exec_invariant (fun holds stepped => step_consistent holds stepped)
    Inner.consistent_new run

theorem run_owned {actions : List Action} {final : ScanDatabaseExecution}
    (resolved : machine.Along ResolvesFailures .new actions)
    (run : machine.exec .new actions = some final) : final.Owned := by
  have preserved : ∀ {execution action next}, execution.inner.Consistent ∧ execution.Owned →
      execution.ResolvesFailures action → machine.step execution action = some next →
      next.inner.Consistent ∧ next.Owned := fun holds condition stepped =>
    ⟨step_consistent holds.1 stepped, step_owned holds.1 holds.2 condition stepped⟩
  have initial : new.inner.Consistent ∧ new.Owned :=
    ⟨Inner.consistent_new, fun _ member => absurd member (Finset.notMem_empty _)⟩
  exact (Lib.Machine.exec_invariant_along preserved initial resolved run).2

/-- An attempt begins where the request sees no recovery, or while it is in the set. -/
theorem attempt_allowed {execution next : ScanDatabaseExecution} {action : Action} {id : Nat}
    {before after : Request} (stepped : machine.step execution action = some next)
    (called : execution.calls id = some (.request before))
    (reached : next.calls id = some (.request after)) (begun : before.attempts < after.attempts) :
    (before.phase = .gate ∧ execution.inner.recovering = false) ∨
      id ∈ execution.inner.recovery.failed := by
  obtain same | ⟨safety, operation, rfl⟩ | ⟨event, mover, _, caller, moves⟩ :=
    (step_moves stepped).request_cases reached
  · rw [called] at same
    cases same
    exact absurd begun (Nat.lt_irrefl _)
  · exact absurd begun (Nat.not_lt_zero _)
  · rw [called] at caller
    cases caller
    generalize next.inner = inner at moves
    cases moves with
    | begun allowed => exact allowed.imp_right And.right
    | recorded error =>
        simp only [Request.afterFailure] at begun
        split at begun <;> exact absurd begun (Nat.lt_irrefl _)
    | roamed | expired | issued | computed | nestedFailed | nestedRecorded | attempted | failed
    | acknowledged | answered | removed | rested | gaveUp | gaveUpExpired =>
        exact absurd begun (Nat.lt_irrefl _)

/-- Some operation is in the set. -/
def Recovers (execution : ScanDatabaseExecution) (_ : Action) : Prop :=
  execution.inner.recovery.failed.Nonempty

/-- Since the start of the window that is open the set has never been empty. -/
theorem recovers_since_start {actions : List Action} {final : ScanDatabaseExecution} {start : Nat}
    (run : machine.exec .new actions = some final)
    (started : final.inner.recovery.started = some start) :
    ∃ earlier later opened, actions = earlier ++ later ∧ machine.exec .new earlier = some opened ∧
      opened.inner.now = start ∧ machine.exec opened later = some final ∧
      machine.Along Recovers opened later := by
  induction actions using List.reverseRecOn generalizing final with
  | nil =>
      cases run
      cases started
  | append_singleton actions action ih =>
      obtain ⟨middle, reached, stepped⟩ := Lib.Machine.exec_concat run
      obtain before | now := (step_moves stepped).changes.started started
      · obtain ⟨earlier, later, opened, rfl, opening, clock, rest, recovers⟩ := ih reached before
        have still : middle.inner.recovery.failed.Nonempty :=
          (run_consistent reached).start.mp (by rw [before]; rfl)
        refine ⟨earlier, later ++ [action], opened, List.append_assoc _ _ _, opening, clock, ?_, ?_⟩
        · rw [Lib.Machine.exec_append, rest]
          simp only [Option.bind_some, Lib.Machine.exec, stepped]
        · exact recovers.append rest ⟨still, fun _ _ => trivial⟩
      · exact ⟨actions ++ [action], [], final, (List.append_nil _).symm, run, now.symm, rfl, trivial⟩

/-- What the recovery gate promises of an execution that a run has reached. -/
structure GateSound (actions : List Action) (execution : ScanDatabaseExecution) : Prop where
  flag : execution.inner.recovering = true ↔ execution.inner.recovery.failed.Nonempty
  start : execution.inner.recovery.started.isSome = true ↔
    execution.inner.recovery.failed.Nonempty
  owned : execution.Owned
  /-- A request that saw the recovery begins an attempt only while it is in the set. -/
  gated : ∀ action next id before after, machine.step execution action = some next →
    execution.calls id = some (.request before) → next.calls id = some (.request after) →
    before.attempts < after.attempts →
    (before.phase = .gate ∧ execution.inner.recovering = false) ∨
      id ∈ execution.inner.recovery.failed
  /-- The window ends the execution only after operations were in the set for its whole
  length, and one that has not returned still is. -/
  window : ∀ action next, machine.step execution action = some next →
    execution.inner.expired = false → next.inner.expired = true →
    (∃ id ∈ execution.inner.recovery.failed, id = 0 ∨ execution.Unreturned id) ∧
    ∃ earlier later opened, actions = earlier ++ later ∧ machine.exec .new earlier = some opened ∧
      opened.inner.now + recoveryWindow ≤ execution.inner.now ∧
      machine.exec opened later = some execution ∧ machine.Along Recovers opened later

/-- The gate is sound in every run in which no call returns an error while it is in the set. -/
theorem recovery_gate_sound {actions : List Action} {final : ScanDatabaseExecution}
    (resolved : machine.Along ResolvesFailures .new actions)
    (run : machine.exec .new actions = some final) : GateSound actions final where
  flag := (run_consistent run).flag
  start := (run_consistent run).start
  owned := run_owned resolved run
  gated := fun _ _ _ _ _ stepped called reached begun => attempt_allowed stepped called reached begun
  window := by
    intro action next stepped before after
    obtain ⟨start, started, elapsed⟩ :=
      Inner.started_of_due ((step_moves stepped).changes.due_of_expired before after)
    obtain ⟨id, member⟩ := (run_consistent run).start.mp (by rw [started]; rfl)
    obtain ⟨earlier, later, opened, split, opening, clock, rest, recovers⟩ :=
      recovers_since_start run started
    rw [← clock] at elapsed
    exact ⟨⟨id, member, run_owned resolved run id member⟩, earlier, later, opened, split, opening, elapsed,
      rest, recovers⟩

/-- One read whose connection breaks and that succeeds on its second attempt. -/
def recoveringRun : List Action :=
  [.startMonitor, .request .readOnly (fun _ => .statement 0 .done), .call 1 .go,
    .call 1 (.reply (.error (.ofClient .timedOut))), .call 1 .go, .call 1 .go, .tick retryDelay,
    .call 1 .go, .call 1 .go, .call 1 .go, .call 1 .go, .call 1 (.reply (.ok ())), .call 1 .go,
    .call 1 .go, .call 1 .go]

/-- The run in which the read recovers. -/
theorem recovery_gate_sound_single :
    ∃ final, machine.exec .new recoveringRun = some final ∧ final.inner.recovering = false ∧
      GateSound recoveringRun final :=
  ⟨_, rfl, rfl, @recovery_gate_sound recoveringRun _ (by decide) rfl⟩

/-- The second attempt of the read ends with an error of the server that is no lost
connection; the window runs on and ends the execution. -/
def leakedRun : List Action :=
  [.startMonitor, .request .readOnly (fun _ => .statement 0 .done), .call 1 .go,
    .call 1 (.reply (.error (.ofClient .timedOut))), .call 1 .go, .call 1 .go, .tick retryDelay,
    .call 1 .go, .call 1 .go, .call 1 .go, .call 1 .go,
    .call 1 (.reply (.error (.ofClient (.badResponse (some 60))))), .call 1 .go, .tick 3000,
    .monitor .go]

/-- The only failed operation has returned, stays in the set and ends the execution. -/
theorem returned_request_expires :
    ∃ final, machine.exec .new leakedRun = some final ∧ final.inner.expired = true ∧
      final.inner.recovery.failed = {1} ∧ ¬ final.Unreturned 1 ∧ ¬ final.Owned := by
  have expired : ∃ final, machine.exec .new leakedRun = some final ∧ final.inner.expired = true ∧
      final.inner.recovery.failed = {1} ∧ ¬ final.Unreturned 1 := by
    refine ⟨_, rfl, rfl, rfl, ?_⟩
    rintro ⟨call, called, running⟩
    cases called
    cases running
  obtain ⟨final, run, expired, failed, returned⟩ := expired
  refine ⟨final, run, expired, failed, returned, fun owned => ?_⟩
  have member : 1 ∈ final.inner.recovery.failed := by
    rw [failed]
    exact Finset.mem_singleton_self 1
  exact (owned 1 member).elim Nat.one_ne_zero returned

end ScanDatabaseExecution

end Terrasync.Execution
