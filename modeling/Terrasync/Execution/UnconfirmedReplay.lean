import Terrasync.Execution.RecoveryProperties

/-! Whether a retry sends a statement again that may already have taken effect. The retry
of an unconfirmed write looks at the last error of the whole attempt; the statements that
the attempt sent before are not looked at. -/

set_option autoImplicit false

namespace Terrasync.Execution

/-- The statement was sent again in a later attempt. -/
def Issue.Replays (later earlier : Issue) : Prop :=
  later.statement = earlier.statement ∧ later.attempt ≠ earlier.attempt

namespace Request

/-- No attempt repeats a statement that was possibly sent. -/
def ReplaysNothing (request : Request) : Prop :=
  request.issues.Pairwise fun earlier later =>
    earlier.possiblySent = true → ¬ later.Replays earlier

/-- The attempt that is under way has sent nothing so far. -/
def SentNothing (request : Request) : Prop :=
  ∀ issue ∈ request.issues, issue.attempt = request.attempts → issue.possiblySent = false

instance (request : Request) : Decidable request.SentNothing :=
  inferInstanceAs (Decidable (∀ issue ∈ request.issues, _))

/-- An unconfirmed write whose attempt ends without having been sent, so that it is tried
again, sent nothing earlier in that attempt. -/
def RetryUnsent (inner : Inner) (request : Request) : Prop :=
  match request.phase with
  | .attempting (.done (.error error)) [] =>
      request.safety = .unconfirmedWrite → error.requestWasNotSent = true →
        inner.stopping = false → request.SentNothing
  | _ => True

instance (inner : Inner) (request : Request) : Decidable (request.RetryUnsent inner) := by
  unfold RetryUnsent
  split <;> infer_instance

/-- What was possibly sent was sent in the attempt under way, and after it there is no other. -/
structure Unreplayed (request : Request) : Prop where
  current : ∀ issue ∈ request.issues, issue.possiblySent = true →
    issue.attempt = request.attempts ∧ request.phase.retries = false
  replays : request.ReplaysNothing

variable {id : Nat} {inner : Inner} {request : Request} {event : Event}

theorem unreplayed_new (safety : RequestSafety) (operation : Nat → Operation) :
    (Request.new safety operation).Unreplayed where
  current := fun _ member => absurd member List.not_mem_nil
  replays := List.Pairwise.nil

/-- A phase change that allows no attempt that was ruled out before. -/
theorem Unreplayed.goTo {phase : Phase} (unreplayed : request.Unreplayed)
    (allowed : phase.retries = true → request.phase.retries = true ∨ request.SentNothing) :
    (request.goTo phase).Unreplayed where
  current := by
    intro issue member sent
    obtain ⟨attempt, ended⟩ := unreplayed.current issue member sent
    refine ⟨attempt, ?_⟩
    cases retries : phase.retries with
    | false => exact retries
    | true =>
        obtain before | nothing := allowed retries
        · rw [ended] at before
          cases before
        · rw [nothing issue member attempt] at sent
          cases sent
  replays := unreplayed.replays

theorem Unreplayed.beginAttempt (unreplayed : request.Unreplayed)
    (retries : request.phase.retries = true) : request.beginAttempt.Unreplayed where
  current := by
    intro issue member sent
    obtain ⟨_, ended⟩ := unreplayed.current issue member sent
    rw [retries] at ended
    cases ended
  replays := unreplayed.replays

theorem Unreplayed.issue {statement : Nat} {outcome : Except DatabaseError Unit} {current : Operation}
    {callers : List (Except DatabaseError Unit → Operation)} (unreplayed : request.Unreplayed) :
    ((request.issue statement outcome).goTo (.attempting current callers)).Unreplayed where
  current := by
    intro issue member sent
    refine ⟨?_, rfl⟩
    obtain earlier | new := List.mem_append.mp member
    · exact (unreplayed.current issue earlier sent).1
    · rw [List.mem_singleton.mp new]
      rfl
  replays := by
    refine List.pairwise_append.mpr ⟨unreplayed.replays, List.pairwise_singleton _ _, ?_⟩
    intro earlier member later new sent replays
    rw [List.mem_singleton.mp new] at replays
    exact replays.2 (unreplayed.current earlier member sent).1.symm

theorem Unreplayed.afterFailure {error : DatabaseError} (unreplayed : request.Unreplayed)
    (phase : request.phase = .failing error) (unconfirmed : request.safety = .unconfirmedWrite) :
    (request.afterFailure inner error).Unreplayed := by
  simp only [Request.afterFailure]
  split
  · exact unreplayed.goTo fun retries => Bool.noConfusion retries
  · next unsent =>
      refine unreplayed.goTo fun _ => .inl ?_
      rw [phase]
      exact Bool.not_eq_false _ |>.mp fun sent => unsent ⟨unconfirmed, sent⟩

theorem Moves.safety {after : Inner} {next : Request}
    (moves : request.Moves id inner event after next) : next.safety = request.safety := by
  cases moves with
  | recorded =>
      simp only [Request.afterFailure]
      split <;> rfl
  | _ => rfl

theorem Moves.unreplayed {after : Inner} {next : Request}
    (moves : request.Moves id inner event after next) (unreplayed : request.Unreplayed)
    (unconfirmed : request.safety = .unconfirmedWrite) (unsent : request.RetryUnsent inner) :
    next.Unreplayed := by
  cases moves with
  | begun allowed =>
      refine unreplayed.beginAttempt ?_
      obtain ⟨phase, _⟩ | ⟨phase, _⟩ := allowed <;> rw [phase] <;> rfl
  | roamed next before => exact unreplayed.goTo fun _ => .inl before
  | expired phase => exact unreplayed.goTo fun _ => .inl (by rw [phase]; rfl)
  | issued => exact unreplayed.issue
  | failed error phase _ running =>
      simp only [RetryUnsent, phase] at unsent
      exact unreplayed.goTo fun retries => .inr (unsent unconfirmed retries running)
  | recorded error phase => exact unreplayed.afterFailure phase unconfirmed
  | rested => exact unreplayed
  | computed | nestedFailed | nestedRecorded | attempted | acknowledged | answered | removed
  | gaveUp | gaveUpExpired => exact unreplayed.goTo fun retries => Bool.noConfusion retries

end Request

namespace ScanDatabaseExecution

/-- The step does not try again an unconfirmed write that sent something in its attempt. -/
def RetriesUnsent (execution : ScanDatabaseExecution) : Action → Prop
  | .call id _ =>
      match execution.calls id with
      | some (.request request) => request.RetryUnsent execution.inner
      | _ => True
  | _ => True

instance (execution : ScanDatabaseExecution) (action : Action) :
    Decidable (execution.RetriesUnsent action) :=
  match action with
  | .call id _ =>
      match called : execution.calls id with
      | some (.request request) =>
          decidable_of_iff (request.RetryUnsent execution.inner) (by simp only [RetriesUnsent, called])
      | some (.settle _) => isTrue (by simp only [RetriesUnsent, called])
      | none => isTrue (by simp only [RetriesUnsent, called])
  | .tick _ | .request .. | .settleFailure _ | .startMonitor | .monitor _ | .abortMonitor | .beginStop =>
      isTrue trivial

/-- Every unconfirmed write of the execution is unreplayed. -/
def Unreplayed (execution : ScanDatabaseExecution) : Prop :=
  ∀ id request, execution.calls id = some (.request request) →
    request.safety = .unconfirmedWrite → request.Unreplayed

theorem step_unreplayed {execution next : ScanDatabaseExecution} {action : Action}
    (unreplayed : execution.Unreplayed) (unsent : execution.RetriesUnsent action)
    (stepped : machine.step execution action = some next) : next.Unreplayed := by
  intro id request called unconfirmed
  obtain same | ⟨safety, operation, rfl⟩ | ⟨event, before, rfl, caller, moves⟩ :=
    (step_moves stepped).request_cases called
  · exact unreplayed id request same unconfirmed
  · exact Request.unreplayed_new safety operation
  · rw [moves.safety] at unconfirmed
    simp only [RetriesUnsent, caller] at unsent
    exact moves.unreplayed (unreplayed id before caller unconfirmed) unconfirmed unsent

/-- In every run whose retried unconfirmed writes had sent nothing, none of them sends a
statement again that was possibly sent. -/
theorem unconfirmed_replays_nothing {actions : List Action} {final : ScanDatabaseExecution}
    (unsent : machine.Along RetriesUnsent .new actions)
    (run : machine.exec .new actions = some final) {id : Nat} {request : Request}
    (called : final.calls id = some (.request request))
    (unconfirmed : request.safety = .unconfirmedWrite) : request.ReplaysNothing := by
  have unreplayed : final.Unreplayed :=
    Lib.Machine.exec_invariant_along (fun holds condition stepped => step_unreplayed holds condition stepped)
      (fun _ _ called => by cases called) unsent run
  exact (unreplayed id request called unconfirmed).replays

/-- The server refused the connection. -/
def connectFailure : DatabaseError := .ofClient (.network true)

/-- A nested request for one statement. A failure ends the attempt. -/
def nested (statement : Nat) (rest : Operation) : Operation :=
  .request .unconfirmedWrite (.statement statement .done) fun
    | .ok _ => rest
    | .error error => .done (.error error)

/-- `delete_resume_entries` of a cluster: two inserts and the drop of the partition. -/
def deleteEntries (_attempt : Nat) : Operation :=
  nested 0 (nested 1 (nested 2 (.done (.ok ()))))

/-- The actions of one nested statement that succeeds. -/
def succeeds : List Action :=
  [.call 1 .go, .call 1 (.reply (.ok ())), .call 1 .go]

/-- The connection fails at a nested statement, and after the delay the request tries again. -/
def refusedAndRetried : List Action :=
  [.call 1 .go, .call 1 (.reply (.error connectFailure)), .call 1 .go, .call 1 .go, .call 1 .go,
    .call 1 .go, .tick retryDelay, .call 1 .go, .call 1 .go, .call 1 .go, .call 1 .go]

/-- The connection fails at the first statement; the second attempt goes through. -/
def unsentRun : List Action :=
  [.request .unconfirmedWrite deleteEntries, .call 1 .go] ++ refusedAndRetried ++ succeeds

/-- The run in which only the connection for the first statement failed. -/
theorem unconfirmed_replays_nothing_single :
    ∃ final request, machine.exec .new unsentRun = some final ∧
      final.calls 1 = some (.request request) ∧ request.attempts = 2 ∧ request.ReplaysNothing := by
  refine ⟨_, _, rfl, rfl, rfl, ?_⟩
  exact @unconfirmed_replays_nothing unsentRun _ (by decide) rfl 1 _ rfl rfl

/-- The connection fails at the second statement; the second attempt sends the first again. -/
def replayedRun : List Action :=
  [.request .unconfirmedWrite deleteEntries, .call 1 .go] ++ succeeds ++ refusedAndRetried ++ succeeds

/-- The first insert succeeded and is sent once more. -/
theorem sent_statement_replayed :
    ∃ final request, machine.exec .new replayedRun = some final ∧
      final.calls 1 = some (.request request) ∧ request.safety = .unconfirmedWrite ∧
      ¬ request.ReplaysNothing := by
  refine ⟨_, _, rfl, rfl, rfl, ?_⟩
  intro nothing
  have again : (⟨2, 0, .ok ()⟩ : Issue) ∈ [⟨1, 1, .error connectFailure⟩, ⟨2, 0, .ok ()⟩] :=
    List.mem_cons_of_mem _ List.mem_cons_self
  have first := List.rel_of_pairwise_cons nothing again rfl
  exact first ⟨rfl, by decide⟩

end ScanDatabaseExecution

end Terrasync.Execution
