import Terrasync.Transport.FlowControl

/-! Concurrent calls of the sender's credit window. A call of `acquire` reads the capacity,
then checks the ledger again after every notification; grants and the close fall anywhere
in between. The lock makes each of these an atomic step. -/

set_option autoImplicit false

namespace Terrasync.Transport

inductive AcquireStage where
  /-- The capacity is not read yet. -/
  | entered
  /-- Registered with `notify`, before the check of the ledger. -/
  | registered
  /-- Suspended until the next notification. -/
  | suspended
deriving DecidableEq, Repr

structure AcquireCall where
  bytes : Nat
  stage : AcquireStage
deriving DecidableEq, Repr

inductive CreditEvent where
  | returned (bytes : Nat) (result : Except TransportError Unit)
  | granted (bytes : Nat) (outcome : CreditGrantOutcome)
  | closed

/-- The ledger, the calls under way, and what has happened, oldest first. -/
structure SenderCreditState where
  ledger : SenderCreditLedger
  calls : List AcquireCall
  log : List CreditEvent

inductive CreditCall where
  | acquire (bytes : Nat)
  /-- The next step of a call under way. -/
  | poll (call : Nat)
  /-- The future of a call is dropped. -/
  | drop (call : Nat)
  | grant (bytes : Nat)
  | close
deriving DecidableEq, Repr

/-- The check of the loop, under the lock. -/
def SenderCreditLedger.check (ledger : SenderCreditLedger) (bytes : Nat) : AcquireOutcome :=
  if ledger.closed then .failed (.sendFailed "credit window closed")
  else if bytes ≤ ledger.available then
    .acquired { ledger with available := ledger.available - bytes }
  else .waits

namespace SenderCreditState

def new (windowBytes : Nat) : Except TransportError SenderCreditState := do
  return ⟨← SenderCreditLedger.new windowBytes, [], []⟩

/-- `notify_waiters`: suspended calls register and check again. -/
def notifyWaiters (calls : List AcquireCall) : List AcquireCall :=
  calls.map fun call => if call.stage = .suspended then { call with stage := .registered } else call

/-- The call returns. -/
def return_ (state : SenderCreditState) (index bytes : Nat) (result : Except TransportError Unit) :
    SenderCreditState :=
  { state with calls := state.calls.eraseIdx index, log := state.log ++ [.returned bytes result] }

def pollCall (state : SenderCreditState) (index : Nat) (call : AcquireCall) : Option SenderCreditState :=
  match call.stage with
  | .entered =>
      if state.ledger.capacity < call.bytes then
        some (state.return_ index call.bytes
          (.error (.creditCostExceedsWindow call.bytes state.ledger.capacity)))
      else some { state with calls := state.calls.set index { call with stage := .registered } }
  | .registered =>
      match state.ledger.check call.bytes with
      | .acquired ledger => some ({ state with ledger }.return_ index call.bytes (.ok ()))
      | .failed error => some (state.return_ index call.bytes (.error error))
      | .waits => some { state with calls := state.calls.set index { call with stage := .suspended } }
  | .suspended => none

def step (state : SenderCreditState) : CreditCall → Option SenderCreditState
  | .acquire bytes => some { state with calls := state.calls ++ [⟨bytes, .entered⟩] }
  | .poll index => state.calls[index]?.bind (state.pollCall index)
  | .drop index => some { state with calls := state.calls.eraseIdx index }
  | .grant bytes =>
      let granted := state.ledger.grant bytes
      some ⟨granted.1, notifyWaiters state.calls, state.log ++ [.granted bytes granted.2]⟩
  | .close => some ⟨state.ledger.close, notifyWaiters state.calls, state.log ++ [.closed]⟩

def machine : Lib.Machine SenderCreditState CreditCall := ⟨step⟩

/-- The costs of the calls that returned with credit. -/
def acquired (log : List CreditEvent) : List Nat :=
  log.filterMap fun event =>
    match event with
    | .returned bytes (.ok ()) => some bytes
    | _ => none

/-- What the grants added. -/
def applied (log : List CreditEvent) : List Nat :=
  log.filterMap fun event =>
    match event with
    | .granted _ outcome => some outcome.applied
    | _ => none

end SenderCreditState

end Terrasync.Transport
