import Terrasync.SyncDelta.Rolling

/-! The events of the remote advertisement and of the cross-process transfer (`message.rs`), as they
travel between a sender and a receiver. Counters and indices are `u64`. -/

set_option autoImplicit false

namespace Terrasync.Transport

open SyncDelta (Bytes)

/-- `SessionNdx`, a `u64`. -/
abbrev SessionNdx := Nat

/-- A `[u8; 32]`; only compared. -/
abbrev Digest := BitVec 256

structure AdvertisedObservation where
  ndx : SessionNdx
  snapshot : Bytes
deriving DecidableEq, Repr

structure ObservationPage where
  sequence : Nat
  entries : List AdvertisedObservation
deriving DecidableEq, Repr

inductive AdvertisementFailureScope where
  | entry
  | backendSession
  | runtime
deriving DecidableEq, Repr

structure AdvertisementFailure where
  scope : AdvertisementFailureScope
  path : Option String
  identity : Option Bytes
  operation : Option String
  class_ : Option String
  transience : Option String
  diagnostic : String
deriving DecidableEq, Repr

inductive AdvertisementTerminal where
  | completed (observedEntries entryFailures : Nat)
  | cancelled (observedEntries entryFailures : Nat)
  | failed (observedEntries entryFailures : Nat) (failure : AdvertisementFailure)
deriving DecidableEq, Repr

inductive AdvertisementEvent where
  | page (page : ObservationPage)
  | entryFailure (failure : AdvertisementFailure)
  | terminal (terminal : AdvertisementTerminal)
deriving DecidableEq, Repr

/-- `SourceQosSnapshot`, and `SourceQosStats` with the same fields. -/
structure SourceQosSnapshot where
  logicalBytes : Nat
  clientStreamedShapedBytes : Nat
  nativeBytes : Nat
  sourceReadOperations : Nat
  nativeRequests : Nat
  nativePayloadShaped : Bool
deriving DecidableEq, Repr

inductive RemoteTransferPhase where
  | preflight | describe | prepare | recoveryRegistration | recoveryCompletion | transfer
  | checkpoint | verify | publish | metadata
deriving DecidableEq, Repr

inductive RemoteTransferSide where
  | source | destination | orchestration
deriving DecidableEq, Repr

inductive RemoteStageDisposition where
  | none | unpublishedEphemeral | recoverable | publishedCleanupPending
deriving DecidableEq, Repr

structure RemoteTransferFailure where
  phase : RemoteTransferPhase
  side : RemoteTransferSide
  stage : RemoteStageDisposition
  finalDestinationChanged : Bool
  sourceQos : SourceQosSnapshot
  diagnostic : String
deriving DecidableEq, Repr

inductive RemoteSourceEvent where
  | offer (ndx : SessionNdx) (sourceSize maximumChunkBytes : Nat) (identityKey : Digest)
  | payload (ndx : SessionNdx) (offset : Nat) (data : Bytes)
  | completed (ndx : SessionNdx) (sourceSize : Nat) (blake3 identityKey : Digest)
      (sourceQos : SourceQosSnapshot)
  | failed (ndx : SessionNdx) (failure : RemoteTransferFailure)
  | cancelled (ndx : SessionNdx)
deriving DecidableEq, Repr

inductive RemoteTransferTerminal where
  | completed (ndx : SessionNdx) (transferredBytes : Nat) (blake3 : Digest)
  | failed (ndx : SessionNdx) (failure : RemoteTransferFailure)
  | cancelled (ndx : SessionNdx)
deriving DecidableEq, Repr

inductive RemoteDestinationEvent where
  | transferRequested (ndx : SessionNdx)
  | payloadRequested (ndx : SessionNdx) (durablePrefix maximumChunkBytes : Nat)
  | terminal (terminal : RemoteTransferTerminal)
deriving DecidableEq, Repr

end Terrasync.Transport
