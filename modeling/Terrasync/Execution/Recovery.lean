import Mathlib.Data.Finset.Basic
import Mathlib.Logic.Function.Basic
import Terrasync.DatabaseError
import Terrasync.Lib.Machine

/-! The recovery window that the requests of one scan share. Requests, `settle_failure`
calls and the monitor step from one await or critical section to the next; times are
milliseconds since the execution's origin. -/

set_option autoImplicit false

namespace Terrasync.Execution

inductive RequestSafety where
  | readOnly
  | idempotentWrite
  | isolatedRestart
  | unconfirmedWrite
deriving DecidableEq, Repr

def recoveryWindow : Nat := 3000

def probeInterval : Nat := 1000

def retryDelay : Nat := 50

/-- What one attempt of a request does: it sends statements, each on its own or in a nested
request of the same execution, and goes on with their results. -/
inductive Operation where
  | done (result : Except DatabaseError Unit)
  | statement (statement : Nat) (next : Except DatabaseError Unit → Operation)
  | request (safety : RequestSafety) (body : Operation)
      (next : Except DatabaseError Unit → Operation)

/-- A statement as it was sent in the attempt of that number. -/
structure Issue where
  attempt : Nat
  statement : Nat
  outcome : Except DatabaseError Unit

/-- Anything but a failure that shows the statement never left. -/
def Issue.possiblySent (issue : Issue) : Bool :=
  match issue.outcome with
  | .ok _ => true
  | .error error => !error.requestWasNotSent

structure Recovery where
  started : Option Nat
  failed : Finset Nat
  cause : Option DatabaseError

def Recovery.default : Recovery where
  started := none
  failed := ∅
  cause := none

/-- The state that the clones of a `ScanDatabaseExecution` share. -/
structure Inner where
  now : Nat
  lastAck : Nat
  nextOperation : Nat
  monitoring : Bool
  recovering : Bool
  expired : Bool
  recovery : Recovery
  terminal : Option DatabaseError
  stopping : Bool

namespace Inner

def new : Inner where
  now := 0
  lastAck := 0
  nextOperation := 1
  monitoring := false
  recovering := false
  expired := false
  recovery := .default
  terminal := none
  stopping := false

def acknowledged (inner : Inner) : Inner := { inner with lastAck := inner.now }

/-- The critical section of `recovered`. -/
def recovered (inner : Inner) (operation : Nat) : Inner :=
  if inner.recovery.failed.erase operation = ∅ then
    { inner with recovery := .default, recovering := false }
  else
    { inner with recovery :=
        { inner.recovery with failed := inner.recovery.failed.erase operation } }

def failedOperation (inner : Inner) (operation : Nat) (error : DatabaseError) : Inner :=
  { inner with
    recovery :=
      { started := some (inner.recovery.started.getD inner.now)
        failed := insert operation inner.recovery.failed
        cause := some (inner.recovery.cause.getD error) }
    recovering := true }

def deadline (inner : Inner) : Option Nat := inner.recovery.started.map (· + recoveryWindow)

/-- The window is over and nothing else has ended the execution. -/
def due (inner : Inner) : Bool :=
  match inner.deadline, inner.terminal, inner.recovery.cause with
  | some deadline, none, some _ => deadline ≤ inner.now
  | _, _, _ => false

def expireIfDue (inner : Inner) : Inner :=
  if inner.due then { inner with expired := true, terminal := inner.recovery.cause } else inner

/-- `wait_for_end` and `before_request` give up. -/
def ended (inner : Inner) : Bool := inner.terminal.isSome || inner.stopping

end Inner

/-- Where a request stands. An attempt keeps what its open nested requests go on with. -/
inductive Phase where
  | gate
  | gateLocked
  | waiting
  | attempting (current : Operation) (callers : List (Except DatabaseError Unit → Operation))
  | nestedFailing (error : DatabaseError) (next : Except DatabaseError Unit → Operation)
      (callers : List (Except DatabaseError Unit → Operation))
  | acknowledging
  | removing
  | failing (error : DatabaseError)
  | delaying (error : DatabaseError) (wake : Nat)
  | expiring
  | ending (error : DatabaseError)
  | returned (result : Except DatabaseError Unit)

/-- A top-level request. `operation` gives what each attempt of it does. -/
structure Request where
  safety : RequestSafety
  operation : Nat → Operation
  /-- Attempts begun so far. -/
  attempts : Nat
  issues : List Issue
  phase : Phase

/-- What a call waits for, and the branch its `select!` takes. -/
inductive Event where
  | go
  | stopped
  | reply (outcome : Except DatabaseError Unit)

namespace Request

def new (safety : RequestSafety) (operation : Nat → Operation) : Request where
  safety := safety
  operation := operation
  attempts := 0
  issues := []
  phase := .gate

def goTo (request : Request) (phase : Phase) : Request := { request with phase := phase }

def beginAttempt (request : Request) : Request :=
  { request with
    attempts := request.attempts + 1
    phase := .attempting (request.operation (request.attempts + 1)) [] }

def issue (request : Request) (statement : Nat) (outcome : Except DatabaseError Unit) : Request :=
  { request with issues := request.issues ++ [⟨request.attempts, statement, outcome⟩] }

/-- The first look of `before_request`. -/
def atGate (inner : Inner) (request : Request) : Request :=
  match inner.terminal with
  | some source => request.goTo (.returned (.error (.scanRequestFailed source)))
  | none =>
      if inner.stopping then request.goTo (.returned (.error .scanCancelled))
      else if inner.recovering then request.goTo .gateLocked
      else request.beginAttempt

/-- A nested request got the result of its own operation. -/
def nestedResult (inner : Inner) (request : Request) (result : Except DatabaseError Unit)
    (next : Except DatabaseError Unit → Operation)
    (callers : List (Except DatabaseError Unit → Operation)) : Request :=
  match result with
  | .error error =>
      if error.isTransientConnectivityFailure && !inner.stopping then
        request.goTo (.nestedFailing error next callers)
      else request.goTo (.attempting (next (.error error)) callers)
  | .ok value => request.goTo (.attempting (next (.ok value)) callers)

/-- The attempt of the top-level request got its result. -/
def attemptResult (inner : Inner) (request : Request) : Except DatabaseError Unit → Request
  | .ok _ => request.goTo .acknowledging
  | .error error =>
      if error.isTransientConnectivityFailure && !inner.stopping then request.goTo (.failing error)
      else request.goTo (.returned (.error error))

/-- One step inside an attempt. -/
def attempt (inner : Inner) (request : Request) :
    Operation → List (Except DatabaseError Unit → Operation) → Event → Option Request
  | .statement statement next, callers, .reply outcome =>
      some ((request.issue statement outcome).goTo (.attempting (next outcome) callers))
  | .request _ body next, callers, .go => some (request.goTo (.attempting body (next :: callers)))
  | .done result, next :: callers, .go => some (request.nestedResult inner result next callers)
  | .done result, [], .go => some (request.attemptResult inner result)
  | _, _, _ => none

/-- An unconfirmed write is only tried again when it certainly was not sent. -/
def afterFailure (inner : Inner) (request : Request) (error : DatabaseError) : Request :=
  if request.safety = .unconfirmedWrite ∧ error.requestWasNotSent = false then
    request.goTo (.ending error)
  else request.goTo (.delaying error (inner.now + retryDelay))

/-- One step of the request `id` on the shared state. -/
def step (id : Nat) (inner : Inner) (request : Request) (event : Event) : Option (Inner × Request) :=
  match request.phase, event with
  | .gate, .go => some (inner, request.atGate inner)
  | .gateLocked, .go =>
      some (inner, if id ∈ inner.recovery.failed then request.beginAttempt else request.goTo .waiting)
  | .waiting, .go => some (inner, request.goTo .gate)
  | .waiting, .stopped =>
      if inner.stopping then some (inner, request.goTo (.returned (.error .scanCancelled))) else none
  | .attempting current callers, event =>
      (request.attempt inner current callers event).map fun next => (inner, next)
  | .nestedFailing error next callers, .go =>
      some (inner.failedOperation id error,
        request.goTo (.attempting (next (.error (.scanRequestFailed error))) callers))
  | .acknowledging, .go =>
      some (inner.acknowledged, request.goTo (if inner.recovering then .removing else .returned (.ok ())))
  | .removing, .go => some (inner.recovered id, request.goTo (.returned (.ok ())))
  | .failing error, .go => some (inner.failedOperation id error, request.afterFailure inner error)
  | .delaying error _, .stopped =>
      if inner.stopping then
        some (inner, request.goTo (.returned (.error (.scanRequestFailed error))))
      else none
  | .delaying _ wake, .go => if wake ≤ inner.now then some (inner, request.goTo .expiring) else none
  | .expiring, .go => some (inner.expireIfDue, request.goTo .gate)
  | .ending error, .go =>
      some (inner.expireIfDue,
        if inner.expireIfDue.ended then request.goTo (.returned (.error (.scanRequestFailed error)))
        else request)
  | .ending error, .stopped =>
      if inner.stopping then
        some (inner, request.goTo (.returned (.error (.scanRequestFailed error))))
      else none
  | _, _ => none

end Request

/-- A `settle_failure` call whose error is a transient one. -/
inductive Settling where
  | failing (error : DatabaseError)
  | ending (error : DatabaseError)
  | returned (error : DatabaseError)

def Settling.step (id : Nat) (inner : Inner) (settling : Settling) (event : Event) :
    Option (Inner × Settling) :=
  match settling, event with
  | .failing error, .go => some (inner.failedOperation id error, .ending error)
  | .ending error, .go =>
      some (inner.expireIfDue,
        if inner.expireIfDue.ended then .returned (.scanRequestFailed error) else .ending error)
  | .ending error, .stopped =>
      if inner.stopping then some (inner, .returned (.scanRequestFailed error)) else none
  | _, _ => none

inductive ProbeReply where
  /-- The probe counted every node the scan needs. -/
  | complete
  | incomplete
  | failed (error : ClientError)
  | timedOut

inductive Monitor where
  | absent
  | looping (nextProbe : Nat)
  | sleeping (wake nextProbe : Nat)
  | woken (nextProbe : Nat)
  | probing
  | acknowledging
  | removing
  | failing (error : DatabaseError)
  | exited

inductive MonitorEvent where
  | go
  | changed
  /-- The scan finished its `ConnectivityWatch`, or the execution stops. -/
  | done
  | probe (reply : ProbeReply)

namespace Monitor

/-- The answer to a probe. An error that is no lost connection ends the execution at once. -/
def probed (inner : Inner) : ProbeReply → Inner × Monitor
  | .complete => (inner, .acknowledging)
  | .incomplete => (inner, .failing .clusterProbeIncomplete)
  | .timedOut => (inner, .failing .probeTimeout)
  | .failed error =>
      if (DatabaseError.ofClient error).isTransientConnectivityFailure then
        (inner, .failing (.ofClient error))
      else ({ inner with terminal := some (.ofClient error) }, .exited)

/-- After the sleep: a probe is sent only when it is time and nothing else showed that the
connection works. -/
def wakeUp (inner : Inner) (nextProbe : Nat) : Inner × Monitor :=
  if inner.now < nextProbe then (inner, .looping nextProbe)
  else
    let expired := inner.expireIfDue
    if expired.terminal.isSome then (expired, .exited)
    else if expired.now - expired.lastAck < probeInterval ∧ expired.recovering = false then
      (expired, .looping (expired.now + probeInterval))
    else (expired, .probing)

def step (inner : Inner) (monitor : Monitor) (event : MonitorEvent) : Option (Inner × Monitor) :=
  match monitor, event with
  | .looping nextProbe, .go =>
      some (inner.expireIfDue,
        if inner.expireIfDue.ended then .exited
        else .sleeping ((inner.deadline.map (min · nextProbe)).getD nextProbe) nextProbe)
  | .sleeping _ nextProbe, .changed => some (inner, .looping nextProbe)
  | .sleeping _ _, .done => some (inner, .exited)
  | .sleeping wake nextProbe, .go => if wake ≤ inner.now then some (inner, .woken nextProbe) else none
  | .woken nextProbe, .go => some (wakeUp inner nextProbe)
  | .probing, .done => some (inner, .exited)
  | .probing, .probe reply => some (probed inner reply)
  | .acknowledging, .go =>
      some (inner.acknowledged,
        if inner.recovering then .removing else .looping (inner.now + probeInterval))
  | .removing, .go => some (inner.recovered 0, .looping (inner.now + probeInterval))
  | .failing error, .go => some (inner.failedOperation 0 error, .looping (inner.now + probeInterval))
  | _, _ => none

/-- `MonitorExit` of a monitor whose watch was dropped. -/
def abort (inner : Inner) : Monitor → Option (Inner × Monitor)
  | .absent | .exited => none
  | _ =>
      some (if inner.ended then inner
        else { inner with terminal := some .connectivityMonitorStopped }, .exited)

end Monitor

inductive Call where
  | request (request : Request)
  | settle (settling : Settling)

/-- An execution with everything that runs on it. -/
structure ScanDatabaseExecution where
  inner : Inner
  calls : Nat → Option Call
  monitor : Monitor

inductive Action where
  | tick (millis : Nat)
  | request (safety : RequestSafety) (operation : Nat → Operation)
  | settleFailure (error : DatabaseError)
  | call (id : Nat) (event : Event)
  | startMonitor
  | monitor (event : MonitorEvent)
  | abortMonitor
  | beginStop

namespace ScanDatabaseExecution

def new : ScanDatabaseExecution where
  inner := .new
  calls := fun _ => none
  monitor := .absent

/-- The next operation number goes to a new call. -/
def enter (execution : ScanDatabaseExecution) (call : Call) : ScanDatabaseExecution :=
  { execution with
    inner := { execution.inner with nextOperation := execution.inner.nextOperation + 1 }
    calls := Function.update execution.calls execution.inner.nextOperation (some call) }

def advance (execution : ScanDatabaseExecution) (id : Nat) (event : Event) :
    Option ScanDatabaseExecution :=
  match execution.calls id with
  | some (.request request) =>
      (request.step id execution.inner event).map fun (inner, next) =>
        { execution with
          inner := inner, calls := Function.update execution.calls id (some (.request next)) }
  | some (.settle settling) =>
      (settling.step id execution.inner event).map fun (inner, next) =>
        { execution with
          inner := inner, calls := Function.update execution.calls id (some (.settle next)) }
  | none => none

/-- A second monitor is refused. -/
def startMonitor (execution : ScanDatabaseExecution) : ScanDatabaseExecution :=
  if execution.inner.monitoring then execution
  else
    { execution with
      inner := { execution.inner with monitoring := true }
      monitor := .looping (execution.inner.now + probeInterval) }

def step (execution : ScanDatabaseExecution) : Action → Option ScanDatabaseExecution
  | .tick millis =>
      some { execution with inner := { execution.inner with now := execution.inner.now + millis } }
  | .request safety operation => some (execution.enter (.request (.new safety operation)))
  | .settleFailure error =>
      if error.isTransientConnectivityFailure && !execution.inner.stopping then
        some (execution.enter (.settle (.failing error)))
      else some execution
  | .call id event => execution.advance id event
  | .startMonitor => some execution.startMonitor
  | .monitor event =>
      (execution.monitor.step execution.inner event).map fun (inner, monitor) =>
        { execution with inner := inner, monitor := monitor }
  | .abortMonitor =>
      (execution.monitor.abort execution.inner).map fun (inner, monitor) =>
        { execution with inner := inner, monitor := monitor }
  | .beginStop => some { execution with inner := { execution.inner with stopping := true } }

def machine : Lib.Machine ScanDatabaseExecution Action where
  step := step

end ScanDatabaseExecution

end Terrasync.Execution
