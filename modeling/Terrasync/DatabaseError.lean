import Mathlib.Data.String.Basic

/-! Errors of the database layer that modelled functions return, and how a scan tells a
lost connection from an answer. -/

set_option autoImplicit false

namespace Terrasync

/-- `clickhouse::error::Error`, as far as the database layer looks into it. -/
inductive ClientError where
  /-- `isConnect`: the HTTP client failed before it had a connection. -/
  | network (isConnect : Bool)
  | timedOut
  | other (isIo : Bool)
  /-- A response that is no success, by the code that `server_error_code` reads from it. -/
  | badResponse (serverErrorCode : Option Nat)
  /-- Any error with a `ScanCancellationDeadline` among its causes. -/
  | cancellationDeadline
  | rejected (message : String)
deriving DecidableEq, Repr

inductive DatabaseError where
  | clusterProbeIncomplete
  | connectivityMonitorStopped
  | scanRequestFailed (source : DatabaseError)
  | probeTimeout
  | scanCancelled
  | clickHouseError (source : ClientError)
  | scanTerminationUnconfirmed (source : ClientError)
  | requestOutcomeUnconfirmed (source : ClientError)
  | conversionError (message : String)
  | configError (message : String)
  | transactionError (message : String)
deriving DecidableEq, Repr

namespace ClientError

/-- The request may have reached the server although no answer came back. -/
def unconfirmed : ClientError → Bool
  | network isConnect => !isConnect
  | timedOut => true
  | other isIo => isIo
  | _ => false

def isTransient : ClientError → Bool
  | network _ | timedOut => true
  | other isIo => isIo
  | badResponse (some code) => code ∈ [198, 209, 210, 254, 265, 279, 285, 286, 289, 297]
  | _ => false

end ClientError

namespace DatabaseError

/-- `From<clickhouse::error::Error>` -/
def ofClient (source : ClientError) : DatabaseError :=
  if source = .cancellationDeadline then .scanTerminationUnconfirmed source
  else if source.unconfirmed then .requestOutcomeUnconfirmed source
  else .clickHouseError source

def requestWasNotSent : DatabaseError → Bool
  | scanRequestFailed source => source.requestWasNotSent
  | clickHouseError (.network isConnect) => isConnect
  | _ => false

def isTransientConnectivityFailure : DatabaseError → Bool
  | probeTimeout | clusterProbeIncomplete => true
  | scanRequestFailed source => source.isTransientConnectivityFailure
  | requestOutcomeUnconfirmed source | clickHouseError source => source.isTransient
  | _ => false

/-- Only a transient failure counts as a request that was not sent. -/
theorem requestWasNotSent_transient {error : DatabaseError} (unsent : error.requestWasNotSent = true) :
    error.isTransientConnectivityFailure = true := by
  induction error with
  | scanRequestFailed source ih => exact ih unsent
  | clickHouseError source =>
      cases source with
      | network isConnect => rfl
      | timedOut | other | badResponse | cancellationDeadline | rejected =>
          simp only [requestWasNotSent, Bool.false_eq_true] at unsent
  | clusterProbeIncomplete | connectivityMonitorStopped | probeTimeout | scanCancelled
  | scanTerminationUnconfirmed | requestOutcomeUnconfirmed | conversionError | configError
  | transactionError => simp only [requestWasNotSent, Bool.false_eq_true] at unsent

/-- Of a client's failure, what counts as not sent never had a connection. -/
theorem ofClient_requestWasNotSent (source : ClientError) :
    (ofClient source).requestWasNotSent = true ↔ source = .network true := by
  cases source with
  | network isConnect => cases isConnect <;> simp [ofClient, ClientError.unconfirmed, requestWasNotSent]
  | other isIo => cases isIo <;> simp [ofClient, ClientError.unconfirmed, requestWasNotSent]
  | timedOut | badResponse | cancellationDeadline | rejected =>
      simp [ofClient, ClientError.unconfirmed, requestWasNotSent]

end DatabaseError

end Terrasync
