import Terrasync.Transport.FlowControl
import Terrasync.Transport.RemoteEvents

/-! The payload exchange of `remote_expert_transfer.rs`: the source side answers a
payload request with `Payload` events cut to the requested chunk limit, the
destination side checks each event and hands its bytes to the destination writer.
The data-mover session, the transport and the writer appear through their answers. -/

set_option autoImplicit false

namespace Terrasync.App.ExpertTransfer

open Transport (ReceiverCreditState ReceiverCreditOutcome TransportError SessionNdx Digest SourceQosSnapshot
  RemoteTransferFailure RemoteSourceEvent RemoteTransferTerminal)

abbrev Bytes := List UInt8

/-- `other` stands for every message that is not a remote source event. -/
inductive SenderMsg where
  | remoteSource (event : RemoteSourceEvent)
  | other
deriving DecidableEq, Repr

/-- `other` stands for every message that is not a remote destination event. -/
inductive ReceiverMsg where
  | transferRequested (ndx : SessionNdx)
  | payloadRequested (ndx : SessionNdx) (durablePrefix maximumChunkBytes : Nat)
  | terminal (terminal : RemoteTransferTerminal)
  | other
deriving DecidableEq, Repr

/-- The variants of `AppError` this exchange returns; `F` is data-mover's `TransferFailure`. -/
inductive AppError (F : Type) where
  | remoteExpertTransferProtocol (ndx : SessionNdx) (reason : String)
  | remoteExpertTransferFailure (ndx : SessionNdx) (source : F)
  | remoteExpertPeerFailure (ndx : SessionNdx) (failure : RemoteTransferFailure)
  | remoteExpertPeerCancelled (ndx : SessionNdx)
  | transport (error : TransportError)
deriving DecidableEq, Repr

/-- `ExpertSourceEvidence`. -/
structure ExpertSourceEvidence where
  sourceSize : Nat
  blake3 : Digest
  identityKey : Digest
  sourceQos : SourceQosSnapshot
deriving DecidableEq, Repr

variable {F : Type}

def protocol (ndx : SessionNdx) (reason : String) : AppError F :=
  .remoteExpertTransferProtocol ndx reason

/-- `checked_add` on `u64`. -/
def checkedAdd (left right : Nat) : Option Nat :=
  if left + right < 2 ^ 64 then some (left + right) else none

/-- `saturating_add` on `usize`. -/
def saturatingAdd (left right : Nat) : Nat := min (left + right) (2 ^ 64 - 1)

/-! ## The source side -/

/-- The slices of `bytes` from `start` on. A limit of zero never gets here
(`expect_payload_request` refuses it); the length test keeps the function total. -/
def splitFrom (bytes : Bytes) (maximum start : Nat) : List Bytes :=
  let stop := min (saturatingAdd start maximum) bytes.length
  if start < bytes.length ∧ start < stop then
    (bytes.take stop).drop start :: splitFrom bytes maximum stop
  else []
termination_by bytes.length - start

def splitBytes (bytes : Bytes) (maximum : Nat) : List Bytes := splitFrom bytes maximum 0

/-- `session.offer()`. -/
structure SourceOffer where
  sourceSize : Nat
  maximumChunkBytes : Nat
  identityKey : Digest
deriving DecidableEq, Repr

/-- A payload stream as the session delivers it: the chunks, then either the failure of
the next read or the end of the stream with what `finish` answers. -/
structure SourcePayload (F : Type) where
  chunks : List Bytes
  finish : Except F ExpertSourceEvidence

structure ExpertSourceSession (F : Type) where
  offer : SourceOffer
  streamFrom : Nat → Except F (SourcePayload F)

/-- The transport of one side: the messages still to receive, those sent, and the
answer to each send by its position. -/
structure Wire where
  incoming : List ReceiverMsg
  sent : List SenderMsg
  refuses : Nat → Option TransportError

abbrev Serve (F : Type) := ExceptT (AppError F) (StateM Wire)

def recv : Serve F (Option ReceiverMsg) := do
  let wire ← get
  set { wire with incoming := wire.incoming.tail }
  return wire.incoming.head?

def send (message : SenderMsg) : Serve F Unit := do
  let wire ← get
  match wire.refuses wire.sent.length with
  | some error => throw (.transport error)
  | none => set { wire with sent := wire.sent ++ [message] }

/-- `.map_err(|source| transfer_failure(ndx, source))?`. -/
def transferFailure {α : Type} (ndx : SessionNdx) (answer : Except F α) : Serve F α :=
  MonadExcept.ofExcept (answer.mapError (.remoteExpertTransferFailure ndx ·))

def expectTransferRequest (ndx : SessionNdx) : Option ReceiverMsg → Except (AppError F) Unit
  | some (.transferRequested received) =>
      if received = ndx then .ok () else .error (protocol ndx "expected matching transfer request")
  | some (.terminal (.failed received failure)) =>
      if received = ndx then .error (.remoteExpertPeerFailure ndx failure)
      else .error (protocol ndx "expected matching transfer request")
  | some (.terminal (.cancelled received)) =>
      if received = ndx then .error (.remoteExpertPeerCancelled ndx)
      else .error (protocol ndx "expected matching transfer request")
  | _ => .error (protocol ndx "expected matching transfer request")

def expectPayloadRequest (ndx : SessionNdx) (sourceSize : Nat) :
    Option ReceiverMsg → Except (AppError F) (Nat × Nat)
  | some (.terminal (.failed received failure)) =>
      if received = ndx then .error (.remoteExpertPeerFailure ndx failure)
      else .error (protocol ndx "unexpected destination terminal")
  | some (.terminal (.cancelled received)) =>
      if received = ndx then .error (.remoteExpertPeerCancelled ndx)
      else .error (protocol ndx "unexpected destination terminal")
  | some (.terminal (.completed ..)) => .error (protocol ndx "unexpected destination terminal")
  | some (.payloadRequested received durablePrefix maximumChunkBytes) =>
      if received ≠ ndx ∨ sourceSize < durablePrefix ∨ maximumChunkBytes = 0 then
        .error (protocol ndx "invalid payload request")
      else .ok (durablePrefix, maximumChunkBytes)
  | _ => .error (protocol ndx "expected matching payload request")

def expectDestinationTerminal (ndx : SessionNdx) (evidence : ExpertSourceEvidence) :
    Option ReceiverMsg → Except (AppError F) Unit
  | some (.terminal (.completed received transferredBytes blake3)) =>
      if received = ndx ∧ transferredBytes = evidence.sourceSize ∧ blake3 = evidence.blake3 then .ok ()
      else .error (protocol ndx "expected matching destination terminal")
  | some (.terminal (.failed received failure)) =>
      if received = ndx then .error (.remoteExpertPeerFailure ndx failure)
      else .error (protocol ndx "expected matching destination terminal")
  | some (.terminal (.cancelled received)) =>
      if received = ndx then .error (.remoteExpertPeerCancelled ndx)
      else .error (protocol ndx "expected matching destination terminal")
  | _ => .error (protocol ndx "expected matching destination terminal")

/-- The inner loop: one `Payload` event for each part, at the running offset. -/
def sendParts (ndx : SessionNdx) : List Bytes → Nat → Serve F Nat
  | [], offset => return offset
  | part :: rest, offset => do
      send (.remoteSource (.payload ndx offset part))
      match checkedAdd offset part.length with
      | none => throw (protocol ndx "payload offset overflow")
      | some next => sendParts ndx rest next

/-- The outer loop over the chunks of the stream. -/
def sendChunks (ndx : SessionNdx) (requestedChunk : Nat) : List Bytes → Nat → Serve F Nat
  | [], offset => return offset
  | chunk :: rest, offset => do
      let next ← sendParts ndx (splitBytes chunk requestedChunk) offset
      sendChunks ndx requestedChunk rest next

structure RemoteExpertSourceReport where
  transferredBytes : Nat
  sourceQos : SourceQosSnapshot
deriving DecidableEq, Repr

/-- `serve_remote_source_inner`. A read failure in the middle of the stream takes the
same exit as a failing `finish`. -/
def serveRemoteSourceInner (ndx : SessionNdx) (opened : Except F (ExpertSourceSession F)) :
    Serve F RemoteExpertSourceReport := do
  let requested ← recv
  MonadExcept.ofExcept (expectTransferRequest ndx requested)
  let session ← transferFailure ndx opened
  let offer := session.offer
  send (.remoteSource (.offer ndx offer.sourceSize offer.maximumChunkBytes offer.identityKey))
  let asked ← recv
  let (durablePrefix, requestedChunk) ← MonadExcept.ofExcept (expectPayloadRequest ndx offer.sourceSize asked)
  let payload ← transferFailure ndx (session.streamFrom durablePrefix)
  let _ ← sendChunks ndx requestedChunk payload.chunks durablePrefix
  let evidence ← transferFailure ndx payload.finish
  send (.remoteSource
    (.completed ndx evidence.sourceSize evidence.blake3 evidence.identityKey evidence.sourceQos))
  let terminal ← recv
  MonadExcept.ofExcept (expectDestinationTerminal ndx evidence terminal)
  return ⟨evidence.sourceSize, evidence.sourceQos⟩

/-! ## The destination side -/

/-- The arguments of `receive_payload` that say what is expected. -/
structure PayloadReceipt where
  ndx : SessionNdx
  sourceSize : Nat
  durablePrefix : Nat
  maximumChunkBytes : Nat
  identityKey : Digest
deriving DecidableEq, Repr

/-- What the transport answers to each grant sent, and the writer to each chunk. -/
structure Peers where
  refuses : Nat → Option TransportError
  accepts : Nat → Bool

/-- The locals of the loop, with the chunks handed to the writer and the grants sent. -/
structure Receiving where
  expectedOffset : Nat
  credit : ReceiverCreditState
  forwarded : List Bytes
  grants : List Nat
deriving DecidableEq, Repr

namespace Receiving

/-- `ReceiverCreditState::default()` at the requested prefix. -/
def start (durablePrefix : Nat) : Receiving :=
  ⟨durablePrefix, ⟨Transport.defaultCreditWindowBytes / 2, 0⟩, [], []⟩

def sendGrant (peers : Peers) (state : Receiving) (bytes : Nat) :
    Receiving × Except (AppError F) Unit :=
  match peers.refuses state.grants.length with
  | some error => (state, .error (.transport error))
  | none => ({ state with grants := state.grants ++ [bytes] }, .ok ())

/-- `ReceiverCreditState::accepted`. -/
def accepted (peers : Peers) (state : Receiving) (bytes : Nat) :
    Receiving × Except (AppError F) Unit :=
  match state.credit.recordAccepted bytes with
  | .error error => (state, .error (.transport error))
  | .ok (credit, .pending) => ({ state with credit }, .ok ())
  | .ok (credit, .grant bytes) => sendGrant peers { state with credit } bytes

/-- `ReceiverCreditState::flush`. -/
def flush (peers : Peers) (state : Receiving) : Receiving × Except (AppError F) Unit :=
  match state.credit.takePendingGrant with
  | (credit, none) => ({ state with credit }, .ok ())
  | (credit, some bytes) => sendGrant peers { state with credit } bytes

/-- Every exit of the loop flushes first; a refused grant replaces the result. -/
def leave {α : Type} (peers : Peers) (state : Receiving) (result : Except (AppError F) α) :
    Receiving × Except (AppError F) α :=
  match flush peers state with
  | (state, .ok ()) => (state, result)
  | (state, .error error) => (state, .error error)

end Receiving

/-- `offset.checked_add(length).is_none_or(|end| end > source_size)`. -/
def endsBeyond (offset length sourceSize : Nat) : Bool :=
  match checkedAdd offset length with
  | none => true
  | some stop => sourceSize < stop

/-- The loop of `receive_payload` over the messages `recv` returns; the empty list is a
closed transport. -/
def receiveLoop (peers : Peers) (receipt : PayloadReceipt) :
    List SenderMsg → Receiving → Receiving × Except (AppError F) ExpertSourceEvidence
  | [], state =>
      state.leave peers (.error (protocol receipt.ndx "unexpected message while receiving payload"))
  | .remoteSource (.payload received offset data) :: rest, state =>
      if received ≠ receipt.ndx ∨ data = [] ∨ receipt.maximumChunkBytes < data.length ∨
          offset ≠ state.expectedOffset ∨ endsBeyond offset data.length receipt.sourceSize then
        state.leave peers (.error (protocol receipt.ndx "payload offset, size, or NDX is invalid"))
      else if ¬peers.accepts state.forwarded.length then
        state.leave peers (.error (protocol receipt.ndx "destination stopped accepting payload"))
      else
        match Receiving.accepted peers { state with forwarded := state.forwarded ++ [data] } data.length with
        | (state, .error error) => (state, .error error)
        | (state, .ok ()) =>
            receiveLoop peers receipt rest
              { state with expectedOffset := state.expectedOffset + data.length }
  | .remoteSource (.completed received sourceSize blake3 identityKey sourceQos) :: _, state =>
      if received ≠ receipt.ndx ∨ sourceSize ≠ receipt.sourceSize ∨ identityKey ≠ receipt.identityKey ∨
          state.expectedOffset ≠ receipt.sourceSize then
        state.leave peers (.error (protocol receipt.ndx "source completion evidence is inconsistent"))
      else state.leave peers (.ok ⟨receipt.sourceSize, blake3, receipt.identityKey, sourceQos⟩)
  | .remoteSource (.failed received failure) :: _, state =>
      if received = receipt.ndx then
        state.leave peers (.error (.remoteExpertPeerFailure receipt.ndx failure))
      else state.leave peers (.error (protocol receipt.ndx "unexpected message while receiving payload"))
  | .remoteSource (.cancelled received) :: _, state =>
      if received = receipt.ndx then state.leave peers (.error (.remoteExpertPeerCancelled receipt.ndx))
      else state.leave peers (.error (protocol receipt.ndx "unexpected message while receiving payload"))
  | .remoteSource (.offer ..) :: _, state | .other :: _, state =>
      state.leave peers (.error (protocol receipt.ndx "unexpected message while receiving payload"))

def receivePayload (peers : Peers) (receipt : PayloadReceipt) (messages : List SenderMsg) :
    Receiving × Except (AppError F) ExpertSourceEvidence :=
  receiveLoop peers receipt messages (.start receipt.durablePrefix)

end Terrasync.App.ExpertTransfer
