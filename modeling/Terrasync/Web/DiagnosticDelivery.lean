import Terrasync.App.CallbackState
import Terrasync.Web.CallbackReceipt

/-! Diagnostics from the outbox of a scan process to the receiver's tables. Requests and
answers are lost, delayed and repeated at will, so everything ever sent stays deliverable.
Checkpoints copy the process, crashes replace it. -/

set_option autoImplicit false

namespace Terrasync.Web

open App

namespace TaskService

def updateProgress (faults : Faults) (tables : Tables) (taskId : Text) (report : ProgressReport)
    (executionId : Option Text) (updatedAt : Nat) : Except WebError CallbackAck × Tables :=
  let submission : ProgressSubmission := {
    progress := { taskId, reportJson := report.content, isFinal := report.isFinal, updatedAt }
    identity := report.callbackIdentity
    diagnostics := report.diagnostics.map CallbackReceipt.sanitizeBatch
    executionId
    finalStats := if report.isFinal then some report.content else none }
  let received := SqliteProgressRepo.receive faults tables submission
  (received.1.map ProgressReceipt.ack, received.2)

end TaskService

structure DeliveryConfig where
  digest : Text → Text
  jobId : Text
  round : Int
  taskId : Text

def DeliveryConfig.roundId (config : DeliveryConfig) : Text := CallbackState.scanRound config.jobId config.round

/-- The whole system. The fields after `tables` only record what has happened. -/
structure Delivery where
  process : CallbackState
  saved : Option CallbackState
  requests : List ProgressReport
  acks : List Text
  tables : Tables
  /-- the events this process and the checkpoints it came from have enqueued -/
  live : List DiagnosticEvent
  /-- the same for the last saved checkpoint -/
  savedLive : List DiagnosticEvent
  /-- every event any process has enqueued -/
  enqueued : List DiagnosticEvent
  /-- every batch any process has put in flight -/
  prepared : List DiagnosticBatch
  /-- the enqueue calls refused for lack of room -/
  rejected : Nat
  attempts : List Text
  /-- the texts that have been digested -/
  minted : List Text

namespace Delivery

inductive Action where
  | enqueue (origin code message : Text) (path : Option Text)
  | post (isFinal : Bool) (content : Text)
  | deliver (index : Nat) (faults : Faults) (executionId : Option Text) (updatedAt : Nat)
  | answer (index : Nat)
  | save
  | crash (roundId attemptId : Text) (now : Nat)
  | environment (tasks : Text → Option TaskStatus) (executions : Executions)

variable (config : DeliveryConfig)

def enqueue (delivery : Delivery) (origin code message : Text) (path : Option Text) : Delivery :=
  let outbox := delivery.process.outbox
  let enqueued := outbox.enqueue config.digest origin code message path
  let event := outbox.event config.digest origin code message path
  let next := { delivery with process := { delivery.process with outbox := enqueued.2 } }
  if enqueued.1 then
    { next with
      live := delivery.live ++ [event]
      enqueued := delivery.enqueued ++ [event]
      minted := delivery.minted ++ [outbox.nextText .event] }
  else if outbox.isFull then { next with rejected := delivery.rejected + 1 }
  else next

def post (delivery : Delivery) (isFinal : Bool) (content : Text) : Delivery :=
  let outbox := delivery.process.outbox
  let prepared := delivery.process.prepare config.digest
  let report : ProgressReport := {
    callbackIdentity := some prepared.2.identity
    diagnostics := prepared.1
    isFinal
    content }
  let next := { delivery with
    process := prepared.2
    requests := delivery.requests ++ [report] }
  if outbox.inFlight = none ∧ prepared.1.isSome then
    { next with
      prepared := delivery.prepared ++ [outbox.nextPrepared config.digest]
      minted := delivery.minted ++ [outbox.nextText .batch] }
  else next

def deliver (delivery : Delivery) (report : ProgressReport) (faults : Faults) (executionId : Option Text)
    (updatedAt : Nat) : Delivery :=
  let received := TaskService.updateProgress faults delivery.tables config.taskId report executionId updatedAt
  { delivery with
    tables := received.2
    -- the sender uses an answer only when it names the batch of the request
    acks := match received.1 with
      | .ok ack => if ack.batchId = report.diagnostics.map DiagnosticBatch.batchId then
          delivery.acks ++ ack.batchId.toList else delivery.acks
      | .error _ => delivery.acks }

def step (delivery : Delivery) : Action → Option Delivery
  | .enqueue origin code message path => some (delivery.enqueue config origin code message path)
  | .post isFinal content => some (delivery.post config isFinal content)
  | .deliver index faults executionId updatedAt =>
      delivery.requests[index]?.map fun report => delivery.deliver config report faults executionId updatedAt
  | .answer index =>
      delivery.acks[index]?.map fun batchId =>
        { delivery with process := { delivery.process with outbox := (delivery.process.outbox.ack batchId).2 } }
  | .save => some { delivery with saved := some delivery.process, savedLive := delivery.live }
  | .crash roundId attemptId now =>
      if attemptId ∈ delivery.attempts then none
      else (CallbackState.launch delivery.saved config.jobId config.round roundId attemptId now).map fun process =>
        { delivery with
          process
          live := delivery.savedLive
          attempts := delivery.attempts ++ [attemptId] }
  | .environment tasks executions => some { delivery with tables := { delivery.tables with tasks, executions } }

def machine : Lib.Machine Delivery Action := ⟨step config⟩

/-- A first process and a receiver that has seen no diagnostics of the task. -/
def start (process : CallbackState) (tables : Tables) : Delivery where
  process := process
  saved := none
  requests := []
  acks := []
  tables := tables
  live := []
  savedLive := []
  enqueued := []
  prepared := []
  rejected := 0
  attempts := [process.identity.attemptId]
  minted := []

end Delivery

end Terrasync.Web
