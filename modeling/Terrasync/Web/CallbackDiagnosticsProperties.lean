import Terrasync.Web.CallbackReceiptProperties
import Terrasync.Web.DiagnosticDelivery

/-! What the receiving transaction does to the diagnostics of a task: a batch that is known
changes nothing, a new one adds its events and its omitted count once. -/

set_option autoImplicit false

namespace Terrasync.Web

open App Lib

namespace CallbackReceipt

/-- Gathered events by id: nothing gathered is replaced, and nothing comes from elsewhere. -/
structure Gathers (gathered events : Text → Option DiagnosticEvent) (incoming : List DiagnosticEvent) : Prop where
  kept : ∀ {id event}, gathered id = some event → events id = some event
  added : ∀ event ∈ incoming, events event.eventId = some event
  only : ∀ {id event}, events id = some event → gathered id = some event ∨ event ∈ incoming ∧ event.eventId = id

theorem gather_gathers {gathered events : Text → Option DiagnosticEvent} {incoming : List DiagnosticEvent}
    (succeeded : gather gathered incoming = .ok events) : Gathers gathered events incoming := by
  induction incoming generalizing gathered with
  | nil =>
      cases succeeded
      exact ⟨id, fun _ member => absurd member List.not_mem_nil, .inl⟩
  | cons head rest ih =>
      simp only [gather] at succeeded
      split at succeeded
      · cases succeeded
      · next agrees =>
          have later := ih succeeded
          have headKept := @later.kept head.eventId head (Function.update_self ..)
          constructor
          · intro id event known
            by_cases same : id = head.eventId
            · cases same
              simp only [known, Option.any_some, decide_eq_true_eq, not_not] at agrees
              rw [agrees]
              exact headKept
            · apply later.kept
              rw [Function.update_of_ne same]
              exact known
          · exact List.forall_mem_cons.mpr ⟨headKept, later.added⟩
          · intro id event found
            rcases later.only found with before | ⟨member, named⟩
            · by_cases same : id = head.eventId
              · cases same
                rw [Function.update_self] at before
                cases before
                exact .inr ⟨List.mem_cons_self, rfl⟩
              · rw [Function.update_of_ne same] at before
                exact .inl before
            · exact .inr ⟨List.mem_cons_of_mem head member, named⟩

/-- The events of a task with those of one batch merged in; nothing else has changed. -/
structure Merges (tables stored : Tables) (taskId : Text) (incoming : List DiagnosticEvent) : Prop where
  gathers : Gathers (tables.events taskId) (stored.events taskId) incoming
  batches : stored.batches = tables.batches
  omitted : stored.omitted = tables.omitted

theorem storeEvents_merges {faults : Faults} {tables stored : Tables} {taskId : Text}
    {incoming : List DiagnosticEvent} (succeeded : storeEvents faults tables taskId incoming = .ok stored) :
    Merges tables stored taskId incoming := by
  simp only [storeEvents] at succeeded
  split at succeeded
  · next empty =>
      cases succeeded
      subst empty
      exact ⟨⟨id, fun _ member => absurd member List.not_mem_nil, .inl⟩, rfl, rfl⟩
  · obtain ⟨events, gathering, afterGather⟩ := bind_eq_ok.mp succeeded
    obtain ⟨_, -, afterSelect⟩ := bind_eq_ok.mp afterGather
    split at afterSelect
    · cases afterSelect
    · next agrees =>
        obtain ⟨_, -, afterInsert⟩ := bind_eq_ok.mp afterSelect
        cases afterInsert
        have gathers := gather_gathers gathering
        refine ⟨?_, rfl, rfl⟩
        simp only [Function.update_self]
        constructor
        · intro id event known
          rw [known, Option.some_or]
        · intro event member
          cases existing : tables.events taskId event.eventId with
          | none => exact (gathers.added event member)
          | some stored =>
              simp only [List.any_eq_true, not_exists, not_and] at agrees
              have same := agrees event member
              simp only [existing, Option.any_some, decide_eq_true_eq, not_not] at same
              exact same.symm.trans (gathers.added event member)
        · intro id event found
          cases existing : tables.events taskId id with
          | some stored =>
              rw [existing, Option.some_or] at found
              exact .inl found
          | none =>
              rw [existing, Option.none_or] at found
              rcases gathers.only found with impossible | incoming
              · cases impossible
              · exact .inr incoming

/-- The diagnostics of a task after one batch of it. -/
inductive Stores (tables stored : Tables) (taskId : Text) (batch : DiagnosticBatch) : Prop where
  | known (existing : tables.batches taskId batch.batchId = some batch) (same : stored = tables)
  | fresh (absent : tables.batches taskId batch.batchId = none)
      (events : Gathers (tables.events taskId) (stored.events taskId) batch.events)
      (batches : stored.batches taskId = Function.update (tables.batches taskId) batch.batchId (some batch))
      (omitted : stored.omitted taskId =
        some (min ((tables.omitted taskId).getD 0 + batch.omittedCount) u64Max))

theorem storeBatch_stores {faults : Faults} {tables stored : Tables} {taskId : Text} {batch : DiagnosticBatch}
    (succeeded : storeBatch faults tables taskId batch = .ok stored) :
    Stores tables stored taskId (sanitizeBatch batch) := by
  obtain ⟨_, -, afterSelect⟩ := bind_eq_ok.mp succeeded
  cases known : tables.batches taskId batch.batchId with
  | some existing =>
      simp only [known] at afterSelect
      split at afterSelect
      · next same =>
          cases afterSelect
          exact .known (known.trans (congrArg some same)) rfl
      · cases afterSelect
  | none =>
      simp only [known] at afterSelect
      obtain ⟨written, events, afterEvents⟩ := bind_eq_ok.mp afterSelect
      obtain ⟨_, -, afterInsert⟩ := bind_eq_ok.mp afterEvents
      obtain ⟨_, -, afterOmitted⟩ := bind_eq_ok.mp afterInsert
      obtain ⟨_, -, afterWrite⟩ := bind_eq_ok.mp afterOmitted
      cases afterWrite
      obtain ⟨gathers, batches, omitted⟩ := storeEvents_merges events
      have absent : tables.batches taskId (sanitizeBatch batch).batchId = none := known
      refine Stores.fresh absent ?_ ?_ ?_
      · exact gathers
      · simp only [Function.update_self, batches, sanitizeBatch]
      · simp only [Function.update_self, omitted, sanitizeBatch]

/-- The diagnostics of two states of the tables agree. -/
structure SameDiagnostics (tables stored : Tables) : Prop where
  events : stored.events = tables.events
  batches : stored.batches = tables.batches
  omitted : stored.omitted = tables.omitted

theorem storeProgress_diagnostics {faults : Faults} {tables written : Tables} {submission : ProgressSubmission}
    (succeeded : storeProgress faults tables submission = .ok written) : SameDiagnostics tables written := by
  obtain ⟨_, -, afterProgress⟩ := bind_eq_ok.mp succeeded
  obtain ⟨cursored, cursor, stats⟩ := bind_eq_ok.mp afterProgress
  cases writeCursor_eq cursor
  cases writeStats_eq stats
  exact ⟨rfl, rfl, rfl⟩

/-- A transaction that succeeds acknowledges its batch and has stored it. -/
theorem receive_diagnostics {faults : Faults} {tables written : Tables} {submission : ProgressSubmission}
    {receipt : ProgressReceipt} (succeeded : receive faults tables submission = .ok (receipt, written)) :
    receipt.ack.batchId = submission.diagnostics.map DiagnosticBatch.batchId ∧
      ∃ stored, storeDiagnostics faults tables submission = .ok stored ∧ SameDiagnostics stored written := by
  obtain ⟨_, -, afterTask⟩ := bind_eq_ok.mp succeeded
  cases known : tables.tasks submission.progress.taskId with
  | none =>
      simp only [known] at afterTask
      cases afterTask
  | some status =>
      simp only [known] at afterTask
      obtain ⟨_, -, afterValidation⟩ := bind_eq_ok.mp afterTask
      obtain ⟨running, -, afterExecution⟩ := bind_eq_ok.mp afterValidation
      obtain ⟨stored, diagnostics, afterDiagnostics⟩ := bind_eq_ok.mp afterExecution
      obtain ⟨_, -, decided⟩ := bind_eq_ok.mp afterDiagnostics
      cases accepted : accepts (stored.cursor submission.progress.taskId) status running submission with
      | true =>
          simp only [accepted, if_true] at decided
          obtain ⟨final, progress, returned⟩ := bind_eq_ok.mp decided
          cases returned
          exact ⟨rfl, stored, diagnostics, storeProgress_diagnostics progress⟩
      | false =>
          simp only [accepted, Bool.false_eq_true, if_false] at decided
          cases decided
          exact ⟨rfl, _, diagnostics, rfl, rfl, rfl⟩

end CallbackReceipt

open CallbackReceipt

/-- What one delivered report may do to the diagnostics of its task. -/
inductive Receives (tables written : Tables) (taskId : Text) (report : ProgressReport) :
    Except WebError CallbackAck → Prop where
  | failed (reason : WebError) (same : written = tables) : Receives tables written taskId report (.error reason)
  | plain (bare : report.diagnostics = none) (same : SameDiagnostics tables written) :
      Receives tables written taskId report (.ok ⟨none⟩)
  | batch (batch : DiagnosticBatch) (carried : report.diagnostics = some batch) (stored : Tables)
      (stores : Stores tables stored taskId (sanitizeBatch (sanitizeBatch batch)))
      (same : SameDiagnostics stored written) : Receives tables written taskId report (.ok ⟨some batch.batchId⟩)

theorem TaskService.updateProgress_receives (faults : Faults) (tables : Tables) (taskId : Text)
    (report : ProgressReport) (executionId : Option Text) (updatedAt : Nat) :
    Receives tables (updateProgress faults tables taskId report executionId updatedAt).2 taskId report
      (updateProgress faults tables taskId report executionId updatedAt).1 := by
  simp only [updateProgress, SqliteProgressRepo.receive]
  split
  · next reason failed => exact .failed reason rfl
  · next receipt written received =>
      obtain ⟨acknowledged, stored, diagnostics, same⟩ := receive_diagnostics received
      split
      · next reason failed => exact .failed reason rfl
      · cases carried : report.diagnostics with
        | none =>
            simp only [storeDiagnostics, carried, Option.map_none] at diagnostics acknowledged
            cases diagnostics
            have answer : receipt.ack = ⟨none⟩ := congrArg CallbackAck.mk acknowledged
            simp only [Except.map, answer]
            exact .plain carried same
        | some batch =>
            simp only [storeDiagnostics, carried, Option.map_some] at diagnostics acknowledged
            have answer : receipt.ack = ⟨some batch.batchId⟩ := congrArg CallbackAck.mk acknowledged
            simp only [Except.map, answer]
            exact .batch batch carried stored (storeBatch_stores diagnostics) same

/-! An undisturbed database takes every valid batch that agrees with what it holds. -/

namespace CallbackReceipt

/-- One id stands for one event, among the incoming ones and the known ones. -/
structure Consistent (known : Text → Option DiagnosticEvent) (incoming : List DiagnosticEvent) : Prop where
  known : ∀ event ∈ incoming, ∀ existing ∈ known event.eventId, existing = event
  among : ∀ event ∈ incoming, ∀ other ∈ incoming, event.eventId = other.eventId → event = other

theorem gather_succeeds {gathered : Text → Option DiagnosticEvent} {incoming : List DiagnosticEvent}
    (consistent : Consistent gathered incoming) : ∃ events, gather gathered incoming = .ok events := by
  induction incoming generalizing gathered with
  | nil => exact ⟨gathered, rfl⟩
  | cons head rest ih =>
      obtain ⟨known, among⟩ := consistent
      have agrees : (gathered head.eventId).any (fun existing => existing ≠ head) = false := by
        cases existing : gathered head.eventId with
        | none => rfl
        | some event =>
            have same := known head List.mem_cons_self event existing
            simp only [Option.any_some, decide_eq_false_iff_not, not_not]
            exact same
      simp only [gather, agrees, Bool.false_eq_true, if_false]
      apply ih
      constructor
      · intro event member existing found
        by_cases same : event.eventId = head.eventId
        · rw [same, Function.update_self] at found
          cases Option.mem_some_iff.mp found
          exact among _ List.mem_cons_self event (List.mem_cons_of_mem _ member) same.symm
        · rw [Function.update_of_ne same] at found
          exact known event (List.mem_cons_of_mem _ member) existing found
      · intro event member other listed
        exact among event (List.mem_cons_of_mem _ member) other (List.mem_cons_of_mem _ listed)

theorem storeEvents_succeeds {tables : Tables} {taskId : Text} {incoming : List DiagnosticEvent}
    (consistent : Consistent (tables.events taskId) incoming) :
    ∃ stored, storeEvents (fun _ => false) tables taskId incoming = .ok stored := by
  simp only [storeEvents]
  split
  · exact ⟨tables, rfl⟩
  · obtain ⟨events, gathering⟩ := @gather_succeeds (fun _ => none) incoming
      ⟨fun _ _ _ absent => absurd absent.symm (Option.some_ne_none _), consistent.among⟩
    have agrees : (incoming.any fun event =>
        (tables.events taskId event.eventId).any fun existing => events event.eventId ≠ some existing) = false := by
      rw [List.any_eq_false]
      intro event member
      cases existing : tables.events taskId event.eventId with
      | none => exact Bool.false_ne_true
      | some stored =>
          have same := consistent.known event member stored existing
          have added := (gather_gathers gathering).added event member
          simp only [Option.any_some, decide_eq_true_eq, not_not]
          rw [added, same]
    refine bind_succeeds gathering (bind_succeeds rfl ?_)
    simp only [agrees, Bool.false_eq_true, if_false]
    exact ⟨_, rfl⟩

theorem storeBatch_succeeds {tables : Tables} {taskId : Text} {batch : DiagnosticBatch}
    (absent : tables.batches taskId batch.batchId = none)
    (consistent : Consistent (tables.events taskId) (sanitizeBatch batch).events) :
    ∃ stored, storeBatch (fun _ => false) tables taskId batch = .ok stored := by
  obtain ⟨stored, succeeded⟩ := storeEvents_succeeds consistent
  refine bind_succeeds rfl ?_
  simp only [absent]
  exact bind_succeeds succeeded ⟨_, rfl⟩

theorem storeProgress_succeeds (tables : Tables) (submission : ProgressSubmission) :
    ∃ written, storeProgress (fun _ => false) tables submission = .ok written := by
  simp only [storeProgress, writeCursor, writeStats]
  cases submission.identity <;> cases submission.finalStats <;> exact ⟨_, rfl⟩

theorem receive_succeeds {tables : Tables} {submission : ProgressSubmission} {status : TaskStatus}
    {batch : DiagnosticBatch} (known : tables.tasks submission.progress.taskId = some status)
    (valid : validateSubmission submission = .ok ()) (unbound : submission.executionId = none)
    (carried : submission.diagnostics = some batch)
    (absent : tables.batches submission.progress.taskId batch.batchId = none)
    (consistent : Consistent (tables.events submission.progress.taskId) (sanitizeBatch batch).events) :
    ∃ received, receive (fun _ => false) tables submission = .ok received := by
  obtain ⟨stored, succeeded⟩ := storeBatch_succeeds absent consistent
  obtain ⟨written, progressed⟩ := storeProgress_succeeds stored submission
  have diagnostics : storeDiagnostics (fun _ => false) tables submission = .ok stored := by
    simp only [storeDiagnostics, carried]
    exact succeeded
  have running : executionRunning (fun _ => false) tables submission = .ok none := by
    simp only [executionRunning, unbound]
  have received : ∃ received, receiveFor (fun _ => false) tables status submission = .ok received := by
    refine bind_succeeds valid (bind_succeeds running (bind_succeeds diagnostics (bind_succeeds rfl ?_)))
    cases accepted : accepts (stored.cursor submission.progress.taskId) status none submission with
    | true =>
        simp only [if_true]
        exact bind_succeeds progressed ⟨_, rfl⟩
    | false =>
        simp only [Bool.false_eq_true, if_false]
        exact ⟨_, rfl⟩
  refine bind_succeeds rfl ?_
  simp only [known]
  exact received

end CallbackReceipt

/-- A fresh valid batch of a known task is stored and acknowledged. -/
theorem TaskService.updateProgress_stores {tables : Tables} {taskId : Text} {report : ProgressReport}
    {status : TaskStatus} {identity : CallbackIdentity} {batch : DiagnosticBatch} (updatedAt : Nat)
    (known : tables.tasks taskId = some status) (identified : report.callbackIdentity = some identity)
    (carried : report.diagnostics = some batch) (valid : validateIdentity identity = true)
    (validBatch : validateBatch (some identity) batch = true) (stable : sanitizeBatch batch = batch)
    (absent : tables.batches taskId batch.batchId = none)
    (consistent : Consistent (tables.events taskId) batch.events) :
    ∃ stored, Stores tables stored taskId batch ∧
      SameDiagnostics stored (updateProgress (fun _ => false) tables taskId report none updatedAt).2 ∧
      (updateProgress (fun _ => false) tables taskId report none updatedAt).1 = .ok ⟨some batch.batchId⟩ := by
  have receives := updateProgress_receives (fun _ => false) tables taskId report none updatedAt
  have submitted : ∃ ack, (updateProgress (fun _ => false) tables taskId report none updatedAt).1 = .ok ack := by
    obtain ⟨⟨receipt, written⟩, received⟩ := @receive_succeeds tables
      { progress := { taskId, reportJson := report.content, isFinal := report.isFinal, updatedAt }
        identity := report.callbackIdentity
        diagnostics := report.diagnostics.map sanitizeBatch
        executionId := none
        finalStats := if report.isFinal then some report.content else none }
      status batch known
      (by simp only [validateSubmission, identified, carried, Option.map_some, stable, Option.all_some, valid,
        validBatch, and_self, if_true])
      rfl (by rw [carried, Option.map_some, stable]) absent (by rw [stable]; exact consistent)
    refine ⟨receipt.ack, ?_⟩
    simp only [updateProgress, SqliteProgressRepo.receive, received]
    rfl
  obtain ⟨ack, succeeded⟩ := submitted
  generalize updateProgress (fun _ => false) tables taskId report none updatedAt = outcome at receives succeeded ⊢
  obtain ⟨answer, written⟩ := outcome
  cases receives with
  | failed reason same => cases succeeded
  | plain bare same =>
      rw [carried] at bare
      cases bare
  | batch other same stored stores kept =>
      cases carried.symm.trans same
      rw [stable, stable] at stores
      exact ⟨stored, stores, kept, rfl⟩

end Terrasync.Web
