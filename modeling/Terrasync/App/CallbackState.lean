import Terrasync.App.Diagnostics

/-! The callback state of a process: whose attempt it is, and the outbox. A new process
continues the outbox of the last saved copy under its own attempt identity. -/

set_option autoImplicit false

namespace Terrasync.App

structure CallbackState where
  identity : CallbackIdentity
  outbox : DiagnosticOutbox
deriving DecidableEq, Repr

namespace CallbackState

/-- `default`, given the generated ids and the current time. -/
def new (roundId attemptId : Text) (now : Nat) : CallbackState where
  identity := {
    roundId
    attemptId
    roundStartedAtMillis := now
    attemptStartedAtMillis := now
    sequence := 0 }
  outbox := .new roundId attemptId 512 64

/-- `{job_id}:{round}` -/
def scanRound (jobId : Text) (round : Int) : Text := jobId ++ ':' :: (toString round).toList

def initializeScan (state : CallbackState) (jobId : Text) : Option Int → Option CallbackState
  | none => some state
  | some round =>
      let roundId := scanRound jobId round
      let outbox := if state.identity.roundId ≠ roundId then
        DiagnosticOutbox.new roundId state.identity.attemptId 512 64 else state.outbox
      -- the nanoseconds of a round before the epoch have no `u64` milliseconds
      if round.tdiv 1000000 < 0 then none
      else some {
        identity := { state.identity with
          roundId
          roundStartedAtMillis := (round.tdiv 1000000).toNat }
        outbox }

def restoreCheckpoint (state saved : CallbackState) : Option CallbackState :=
  if saved.outbox.validateIdentity saved.identity.roundId saved.identity.attemptId then
    some {
      identity := { state.identity with
        roundId := saved.identity.roundId
        roundStartedAtMillis := saved.identity.roundStartedAtMillis }
      outbox := saved.outbox.setAttempt state.identity.attemptId }
  else none

/-- How a process begins a round: from the saved copy, if there is one. -/
def launch (saved : Option CallbackState) (jobId : Text) (round : Int) (roundId attemptId : Text)
    (now : Nat) : Option CallbackState :=
  let state := new roundId attemptId now
  let restored := match saved with
    | none => some state
    | some saved => state.restoreCheckpoint saved
  restored.bind fun restored => restored.initializeScan jobId (some round)

/-- `post_callback` before the request: the next sequence number, and the batch in flight. -/
def prepare (digest : Text → Text) (state : CallbackState) : Option DiagnosticBatch × CallbackState :=
  let prepared := state.outbox.prepareBatch digest
  (prepared.1, {
    identity := { state.identity with sequence := min (state.identity.sequence + 1) u64Max }
    outbox := prepared.2 })

end CallbackState

structure ProgressReport where
  callbackIdentity : Option CallbackIdentity
  diagnostics : Option DiagnosticBatch
  isFinal : Bool
  /-- the remaining fields, serialised -/
  content : Text
deriving DecidableEq, Repr

end Terrasync.App
