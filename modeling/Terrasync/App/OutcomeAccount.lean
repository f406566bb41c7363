import Mathlib.Data.Finset.Card
import Mathlib.Data.List.Induction
import Terrasync.App.FileCommitProperties
import Terrasync.App.RemoteReceiverSession

/-! Retry and terminal accounting of a receiver session over any order of file outcomes,
source failures and entry outcomes. Attempts are counted in a `u8`, which a release build
wraps, and are counted after the terminal of an index as well. -/

set_option autoImplicit false

namespace Terrasync.App

open Transport

inductive OutcomeCall where
  | fileOutcome (ndx : Ndx) (outcome : FileOutcome)
  | sourceFailure (ndx : Option Ndx)
  | entryOutcome (ack : ReceiverMsg)
deriving DecidableEq, Repr

/-- A session with the acknowledgements sent and the error counter of its progress. -/
structure Settlement where
  session : RemoteSessionState
  acks : List ReceiverMsg
  errorCount : Nat

namespace RemoteSessionState

/-- A session that no outcome has reached. -/
def unsettled (session : RemoteSessionState) : RemoteSessionState :=
  { session with
    ledger := { session.ledger with completed := 0, terminatedNdx := [] }
    attempts := fun _ => 0 }

def answer (session : RemoteSessionState) : OutcomeCall → Handled Bool
  | .fileOutcome ndx outcome => session.handleFileOutcome ndx outcome
  | .sourceFailure ndx => session.handleSourceFailure ndx
  | .entryOutcome ack => session.handleEntryOutcome ack

end RemoteSessionState

namespace Settlement

def settle (settlement : Settlement) (call : OutcomeCall) : Settlement :=
  let handled := settlement.session.answer call
  ⟨handled.session, settlement.acks ++ handled.effects.replies,
    settlement.errorCount + handled.effects.errors⟩

/-- The calls of a run on one session. -/
def run (session : RemoteSessionState) (calls : List OutcomeCall) : Settlement :=
  calls.foldl settle ⟨session.unsettled, [], 0⟩

end Settlement

/-! ### Counts over the calls and the acknowledgements -/

def mismatchOf (ndx : Ndx) : OutcomeCall → Bool
  | .fileOutcome other outcome => decide (other = ndx) && isMismatch outcome
  | .sourceFailure _ => false
  | .entryOutcome _ => false

def mismatches (ndx : Ndx) (calls : List OutcomeCall) : Nat := calls.countP (mismatchOf ndx)

def isUnindexed : OutcomeCall → Bool
  | .fileOutcome .. => false
  | .sourceFailure ndx => ndx.isNone
  | .entryOutcome _ => true

/-- A call that ends an index whatever came before. -/
def endsDirectly (ndx : Ndx) : OutcomeCall → Bool
  | .fileOutcome other outcome => decide (other = ndx) && !isMismatch outcome
  | .sourceFailure other => decide (other = some ndx)
  | .entryOutcome _ => false

/-- An index that has reached its terminal: its source failed, its file succeeded or
failed hard, or it mismatched twice. -/
def Settled (ndx : Ndx) (calls : List OutcomeCall) : Prop :=
  (∃ call ∈ calls, endsDirectly ndx call) ∨ 2 ≤ mismatches ndx calls

/-- The index that a success, a redo or an error is about. -/
def ackedNdx : ReceiverMsg → Option Ndx
  | .success ndx | .redo ndx | .error ndx _ => some ndx
  | _ => none

def isTerminalAck (ndx : Ndx) : ReceiverMsg → Bool
  | .success other | .error other _ => decide (other = ndx)
  | _ => false

def isRedoAck (ndx : Ndx) : ReceiverMsg → Bool
  | .redo other => decide (other = ndx)
  | _ => false

def isErrorAck : ReceiverMsg → Bool
  | .error .. => true
  | _ => false

/-- The disk commit forwards acknowledgements of entries only. -/
def ForwardsEntryAcks (calls : List OutcomeCall) : Prop :=
  ∀ ack, OutcomeCall.entryOutcome ack ∈ calls → ackedNdx ack = none

/-- The accounting of one run. -/
structure Accounted (session : RemoteSessionState) (calls : List OutcomeCall) : Prop where
  completed : ∃ settled : Finset Ndx, (∀ ndx, ndx ∈ settled ↔ Settled ndx calls) ∧
    (Settlement.run session calls).session.ledger.completed =
      settled.card + calls.countP isUnindexed
  oneTerminal : ∀ ndx, (Settlement.run session calls).acks.countP (isTerminalAck ndx) ≤ 1
  oneRedo : ∀ ndx, (Settlement.run session calls).acks.countP (isRedoAck ndx) ≤ 1
  secondMismatch : ∀ before ndx outcome after,
    calls = before ++ .fileOutcome ndx outcome :: after → isMismatch outcome = true →
    0 < mismatches ndx before → ¬(Settlement.run session before).session.Terminated ndx →
    ∃ reason, ((Settlement.run session before).session.handleFileOutcome ndx outcome).effects.replies =
      [.error ndx reason]
  errors : (Settlement.run session calls).errorCount =
    (Settlement.run session calls).acks.countP isErrorAck

/-! ### One file outcome -/

namespace RemoteSessionState

/-- The attempts after an outcome. -/
def attemptsAfter (session : RemoteSessionState) (ndx : Ndx) (outcome : FileOutcome) : Ndx → UInt8 :=
  if isMismatch outcome then Function.update session.attempts ndx (session.attempts ndx + 1)
  else session.attempts

/-- A mismatch that the counter shows as the first one. -/
def Retries (session : RemoteSessionState) (ndx : Ndx) (outcome : FileOutcome) : Prop :=
  isMismatch outcome = true ∧ session.attempts ndx + 1 = 1

inductive TerminalAck (ndx : Ndx) (outcome : FileOutcome) : ReceiverMsg → Prop where
  | success (matched : isMismatch outcome = false) : TerminalAck ndx outcome (.success ndx)
  | error (reason : String) : TerminalAck ndx outcome (.error ndx reason)

theorem redoOrError_retries {session : RemoteSessionState} {ndx : Ndx} (first : session.attempts ndx + 1 = 1)
    (reason : String) : session.redoOrError ndx reason =
      ({ session with attempts := Function.update session.attempts ndx (session.attempts ndx + 1) },
        .redo ndx, false) := if_pos first

theorem redoOrError_fails {session : RemoteSessionState} {ndx : Ndx} (again : session.attempts ndx + 1 ≠ 1)
    (reason : String) : session.redoOrError ndx reason =
      ({ session with attempts := Function.update session.attempts ndx (session.attempts ndx + 1) },
        .error ndx reason, true) := if_neg again

theorem judge_retries {session : RemoteSessionState} {ndx : Ndx} {outcome : FileOutcome}
    (retries : session.Retries ndx outcome) : session.judge ndx outcome =
      ({ session with attempts := session.attemptsAfter ndx outcome }, .redo ndx, false) := by
  obtain ⟨mismatch, first⟩ := retries
  rw [attemptsAfter, if_pos mismatch]
  cases outcome with
  | success => cases mismatch
  | hashMismatch => exact redoOrError_retries first _
  | sizeMismatch => exact redoOrError_retries first _
  | hardError reason => cases mismatch

theorem judge_terminal {session : RemoteSessionState} {ndx : Ndx} {outcome : FileOutcome}
    (ends : ¬session.Retries ndx outcome) : ∃ ack, TerminalAck ndx outcome ack ∧
      session.judge ndx outcome =
        ({ session with attempts := session.attemptsAfter ndx outcome }, ack, true) := by
  cases outcome with
  | success => exact ⟨_, .success rfl, rfl⟩
  | hashMismatch => exact ⟨_, .error "hash mismatch", redoOrError_fails (fun first => ends ⟨rfl, first⟩) _⟩
  | sizeMismatch => exact ⟨_, .error "size mismatch", redoOrError_fails (fun first => ends ⟨rfl, first⟩) _⟩
  | hardError reason => exact ⟨_, .error reason, rfl⟩

/-- The three ways a file outcome is handled. -/
inductive FileOutcomeHandled (session : RemoteSessionState) (ndx : Ndx) (outcome : FileOutcome) :
    Handled Bool → Prop where
  | retried (retries : session.Retries ndx outcome) (value : Bool) :
      FileOutcomeHandled session ndx outcome
        ⟨{ session with attempts := session.attemptsAfter ndx outcome }, .reply (.redo ndx), value⟩
  | dropped (ends : ¬session.Retries ndx outcome) (terminated : session.Terminated ndx) (value : Bool) :
      FileOutcomeHandled session ndx outcome
        ⟨{ session with attempts := session.attemptsAfter ndx outcome }, .none, value⟩
  | terminal (ends : ¬session.Retries ndx outcome) (opened : ¬session.Terminated ndx) {ack : ReceiverMsg}
      (verdict : TerminalAck ndx outcome ack) (value : Bool) :
      FileOutcomeHandled session ndx outcome
        ⟨{ session with
            ledger := { session.ledger with
              completed := session.ledger.completed + 1
              terminatedNdx := ndx :: session.ledger.terminatedNdx }
            attempts := session.attemptsAfter ndx outcome },
          ⟨[ack], [], [], errorIncrement ack⟩, value⟩

theorem handleFileOutcome_handled (session : RemoteSessionState) (ndx : Ndx) (outcome : FileOutcome) :
    FileOutcomeHandled session ndx outcome (session.handleFileOutcome ndx outcome) := by
  by_cases retries : session.Retries ndx outcome
  · rw [handleFileOutcome, judge_retries retries]
    exact .retried retries _
  · obtain ⟨ack, verdict, judged⟩ := judge_terminal retries
    rw [handleFileOutcome, judged]
    by_cases terminated : ndx ∈ session.ledger.terminatedNdx
    · simp only [recordTerminal, TransferLedger.recordTerminal, if_pos terminated]
      exact .dropped retries terminated _
    · simp only [recordTerminal, TransferLedger.recordTerminal, if_neg terminated]
      exact .terminal retries terminated verdict _

end RemoteSessionState

end Terrasync.App
