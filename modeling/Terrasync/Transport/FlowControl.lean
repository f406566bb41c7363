import Mathlib.Algebra.GroupWithZero.Nat
import Terrasync.Lib.Machine

/-! The byte credit window of `flow_control.rs`: the sender charges every data
message before sending it, the receiver returns credit in grants of at least half
a window. Byte counts are `u64` values; additions that could overflow are checked
where the source checks them. -/

set_option autoImplicit false

namespace Terrasync.Transport

inductive TransportError where
  | creditAccountingOverflow
  | creditCostExceedsWindow (cost window : Nat)
  | sendFailed (reason : String)
  | invalidCreditConfiguration (reason : String)
deriving DecidableEq, Repr

/-- `MAX_CREDIT_WINDOW_BYTES`, `u32::MAX`. -/
def maxCreditWindowBytes : Nat := 2 ^ 32 - 1

/-- `DEFAULT_CREDIT_WINDOW_BYTES`, 64 MiB. -/
def defaultCreditWindowBytes : Nat := 64 * 1024 * 1024

def validateWindow (windowBytes : Nat) : Except TransportError Unit :=
  if windowBytes = 0 ∨ maxCreditWindowBytes < windowBytes then
    .error (.invalidCreditConfiguration
      s!"window must be within 1..={maxCreditWindowBytes} bytes, got {windowBytes}")
  else .ok ()

structure ReceiverCreditState where
  grantThreshold : Nat
  acceptedPending : Nat
deriving DecidableEq, Repr

inductive ReceiverCreditOutcome where
  | pending
  | grant (bytes : Nat)
deriving DecidableEq, Repr

namespace ReceiverCreditState

/-- The half-window policy: at least one byte. -/
def threshold (windowBytes : Nat) : Nat := max (windowBytes / 2) 1

def new (windowBytes : Nat) : Except TransportError ReceiverCreditState := do
  validateWindow windowBytes
  return ⟨threshold windowBytes, 0⟩

def recordAccepted (state : ReceiverCreditState) (bytes : Nat) :
    Except TransportError (ReceiverCreditState × ReceiverCreditOutcome) :=
  let accepted := state.acceptedPending + bytes
  if 2 ^ 64 ≤ accepted then .error .creditAccountingOverflow
  else if accepted < state.grantThreshold then .ok ({ state with acceptedPending := accepted }, .pending)
  else .ok ({ state with acceptedPending := 0 }, .grant accepted)

/-- `take_pending_grant`, sent by `flush`. -/
def takePendingGrant (state : ReceiverCreditState) : ReceiverCreditState × Option Nat :=
  ({ state with acceptedPending := 0 },
    if 0 < state.acceptedPending then some state.acceptedPending else none)

def reset (state : ReceiverCreditState) : ReceiverCreditState :=
  { state with acceptedPending := 0 }

end ReceiverCreditState

structure SenderCreditLedger where
  available : Nat
  capacity : Nat
  closed : Bool
deriving DecidableEq, Repr

/-- One attempt of the loop of `acquire`; `waits` suspends until the next notify. -/
inductive AcquireOutcome where
  | acquired (ledger : SenderCreditLedger)
  | waits
  | failed (error : TransportError)
deriving DecidableEq, Repr

structure CreditGrantOutcome where
  applied : Nat
  discarded : Nat
deriving DecidableEq, Repr

namespace SenderCreditLedger

def new (windowBytes : Nat) : Except TransportError SenderCreditLedger := do
  validateWindow windowBytes
  return ⟨windowBytes, windowBytes, false⟩

def acquire (ledger : SenderCreditLedger) (bytes : Nat) : AcquireOutcome :=
  if ledger.capacity < bytes then .failed (.creditCostExceedsWindow bytes ledger.capacity)
  else if ledger.closed then .failed (.sendFailed "credit window closed")
  else if bytes ≤ ledger.available then
    .acquired { ledger with available := ledger.available - bytes }
  else .waits

def grant (ledger : SenderCreditLedger) (bytes : Nat) : SenderCreditLedger × CreditGrantOutcome :=
  let applied := min bytes (ledger.capacity - ledger.available)
  ({ ledger with available := ledger.available + applied }, ⟨applied, bytes - applied⟩)

def close (ledger : SenderCreditLedger) : SenderCreditLedger :=
  { ledger with closed := true }

end SenderCreditLedger

/-- Both ends of one connection, with the charged messages not yet recorded by the
receiver and the grants not yet applied by the sender, oldest first. -/
structure CreditLink where
  sender : SenderCreditLedger
  receiver : ReceiverCreditState
  inFlight : List Nat
  grants : List Nat
deriving DecidableEq, Repr

inductive CreditAction where
  /-- Charge and send a data message. -/
  | send (cost : Nat)
  /-- The bounded sink accepts the oldest message and the receiver records it. -/
  | record
  /-- The sender applies the oldest grant. -/
  | apply
deriving DecidableEq, Repr

namespace CreditLink

def new (windowBytes : Nat) : Except TransportError CreditLink := do
  return ⟨← SenderCreditLedger.new windowBytes, ← ReceiverCreditState.new windowBytes, [], []⟩

def step (link : CreditLink) : CreditAction → Option CreditLink
  | .send cost =>
      match link.sender.acquire cost with
      | .acquired sender => some { link with sender, inFlight := link.inFlight ++ [cost] }
      | .waits | .failed _ => none
  | .record =>
      match link.inFlight with
      | [] => none
      | cost :: inFlight =>
          match link.receiver.recordAccepted cost with
          | .ok (receiver, .pending) => some { link with receiver, inFlight }
          | .ok (receiver, .grant bytes) =>
              some { link with receiver, inFlight, grants := link.grants ++ [bytes] }
          | .error _ => none
  | .apply =>
      match link.grants with
      | [] => none
      | bytes :: grants => some { link with sender := (link.sender.grant bytes).1, grants }

def machine : Lib.Machine CreditLink CreditAction := ⟨step⟩

/-- Every sent message is recorded and every grant is applied. -/
def Settled (link : CreditLink) : Prop := link.inFlight = [] ∧ link.grants = []

/-- `acquire` returns at once, with the credit. -/
def AcquiresAtOnce (link : CreditLink) (cost : Nat) : Prop :=
  ∃ sender, link.sender.acquire cost = .acquired sender

end CreditLink

end Terrasync.Transport
