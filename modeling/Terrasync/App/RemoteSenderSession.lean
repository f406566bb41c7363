import Terrasync.App.RemoteInventory
import Terrasync.SyncDelta.Matcher
import Terrasync.Transport.FlowControl

/-! A sender session, `remote_sender_session.rs`: it advertises directory pages while it
serves one request at a time. The messages of the request being served wait in a script;
data messages leave it only with credit. -/

set_option autoImplicit false

namespace Terrasync.App

open SyncDelta (Bytes BlockSignature DeltaMatcher DeltaToken StrongHash)
open Transport

/-- What the source storage answers while one request is served. -/
structure SourceAnswers where
  readSymlink : Except String (List Char)
  /-- Failure of opening the payload. -/
  openPayload : Option String
  /-- The chunks read before the end or a failure. -/
  chunks : List Bytes
  /-- The digest of the payload, or the failure that ended it. -/
  finish : Except String SourceHash
  /-- The encoded ACL, when there is one. -/
  acl : Option Bytes

/-- A message, with the request it answers. -/
structure Outgoing where
  ndx : Option Ndx
  message : SenderMsg
deriving DecidableEq, Repr

inductive SourceTransferOutcome where
  | sent
  | sourceFailed
deriving DecidableEq, Repr

inductive RemoteSenderSessionLifecycle where
  | requestsOpen
  | transferDoneSent
  | completed
deriving DecidableEq, Repr

structure SenderSessionLedger where
  transferCount : Nat
  successCount : Nat
  errorCount : Nat
  erroredNdx : List Ndx
  lifecycle : RemoteSenderSessionLifecycle
deriving DecidableEq, Repr

namespace SenderSessionLedger

def new : SenderSessionLedger := ⟨0, 0, 0, [], .requestsOpen⟩

def recordTransfer (ledger : SenderSessionLedger) : SenderSessionLedger :=
  { ledger with transferCount := ledger.transferCount + 1 }

def recordSuccess (ledger : SenderSessionLedger) : SenderSessionLedger :=
  { ledger with successCount := ledger.successCount + 1 }

def recordEntryError (ledger : SenderSessionLedger) : SenderSessionLedger :=
  { ledger with errorCount := ledger.errorCount + 1 }

def recordIndexedError (ledger : SenderSessionLedger) (ndx : Ndx) : SenderSessionLedger :=
  if ndx ∈ ledger.erroredNdx then ledger
  else { ledger with errorCount := ledger.errorCount + 1, erroredNdx := ndx :: ledger.erroredNdx }

def recordFailed (ledger : SenderSessionLedger) (ndx : Ndx) : SourceTransferOutcome → SenderSessionLedger
  | .sent => ledger
  | .sourceFailed => ledger.recordIndexedError ndx

end SenderSessionLedger

inductive SenderFailure where
  | copyError (reason : String)
  | transport (error : TransportError)
deriving DecidableEq, Repr

structure RemoteSenderSession where
  /-- Directory events not advertised yet. -/
  inventory : List NdxEvent
  advertised : Bool
  ndxTable : NdxTable
  /-- Messages of the current answer not sent yet. -/
  script : List Outgoing
  ledger : SenderSessionLedger
  credit : SenderCreditLedger
  failure : Option SenderFailure

namespace RemoteSenderSession

def new (inventory : List NdxEvent) (credit : SenderCreditLedger) : RemoteSenderSession :=
  ⟨inventory, false, .new, [], .new, credit, none⟩

def aclMessages (enableAcl : Bool) (answers : SourceAnswers) (entry : ObservedEntry) : List SenderMsg :=
  if enableAcl ∧ !entry.getIsSymlink then
    answers.acl.toList.map fun aclData => .setAcl entry aclData
  else []

def reportSourceFailure (entry : ObservedItem) (ndx : Ndx) (reason : String) : List SenderMsg :=
  [.entryError entry.entry.path reason (some ndx)]

/-- Data messages of consecutive chunks. -/
def fileData (ndx : Ndx) (offset : Nat) : List Bytes → List SenderMsg
  | [] => []
  | data :: rest => .fileData ndx ⟨offset, data⟩ :: fileData ndx (offset + data.length) rest

/-- The regular-file branch of `send_full_transfer`. -/
def sendFile (answers : SourceAnswers) (entry : ObservedItem) (ndx : Ndx) :
    List SenderMsg × SourceTransferOutcome :=
  match answers.openPayload with
  | some reason => (reportSourceFailure entry ndx reason, .sourceFailed)
  | none =>
      match answers.finish with
      | .ok sourceHash =>
          (.fileBegin ndx :: fileData ndx 0 answers.chunks ++ [.endOfFile ndx (some sourceHash)], .sent)
      | .error reason =>
          (.fileBegin ndx :: fileData ndx 0 answers.chunks ++ reportSourceFailure entry ndx reason,
            .sourceFailed)

def isDeleteMarker (entry : ObservedItem) : Bool :=
  match entry.version with
  | some record => record.isDeleteMarker
  | none => false

/-- A directory that is created without a payload. -/
def isPlainDirectory (entry : ObservedItem) : Bool :=
  entry.entry.history.isNone && entry.entry.getIsDir && entry.entry.directoryMarkerObject.isNone

def sendEntry (answers : SourceAnswers) (entry : ObservedItem) (ndx : Ndx) :
    List SenderMsg × SourceTransferOutcome :=
  if isDeleteMarker entry then ([.writeDeleteMarker ndx], .sent)
  else if isPlainDirectory entry then ([.createDir entry.entry], .sent)
  else if entry.entry.getIsSymlink then
    match answers.readSymlink with
    | .ok target => ([.createSymlink entry.entry target], .sent)
    | .error reason => (reportSourceFailure entry ndx reason, .sourceFailed)
  else sendFile answers entry ndx

def sendFullTransfer (enableAcl : Bool) (answers : SourceAnswers) (entry : ObservedItem) (ndx : Ndx) :
    List SenderMsg × SourceTransferOutcome :=
  let sent := sendEntry answers entry ndx
  if sent.2 = .sent ∧ entry.entry.history.isNone then
    (sent.1 ++ aclMessages enableAcl answers entry.entry, sent.2)
  else sent

def deltaToken (ndx : Ndx) : DeltaToken → SenderMsg
  | .matchBlock blockIndex => .deltaMatch ndx blockIndex
  | .data data => .deltaData ndx data

def sendDeltaTransfer (blake3Truncated : Bytes → StrongHash) (enableAcl : Bool) (answers : SourceAnswers)
    (entry : ObservedItem) (ndx : Ndx) (blockSize : UInt32) (signatures : List BlockSignature) :
    List SenderMsg × SourceTransferOutcome :=
  match answers.openPayload with
  | some reason => (reportSourceFailure entry ndx reason, .sourceFailed)
  | none =>
      let pushed := (DeltaMatcher.new signatures blockSize).pushAll blake3Truncated answers.chunks
      match answers.finish with
      | .error reason =>
          (pushed.2.map (deltaToken ndx) ++ reportSourceFailure entry ndx reason, .sourceFailed)
      | .ok sourceHash =>
          ((pushed.2 ++ pushed.1.finish blake3Truncated).map (deltaToken ndx) ++
              .endOfFile ndx (some sourceHash) :: aclMessages enableAcl answers entry.entry, .sent)

structure Config where
  enableAcl : Bool
  blake3Truncated : Bytes → StrongHash

/-- Start an answer: its messages become the script. -/
def answering (sender : RemoteSenderSession) (ndx : Ndx) (messages : List SenderMsg)
    (ledger : SenderSessionLedger) : RemoteSenderSession :=
  { sender with script := messages.map fun message => ⟨some ndx, message⟩, ledger }

/-- The session ends; what is left of the script is never sent. -/
def fail (sender : RemoteSenderSession) (failure : SenderFailure) : RemoteSenderSession :=
  { sender with failure := some failure }

def withLedger (sender : RemoteSenderSession) (ledger : SenderSessionLedger) : RemoteSenderSession :=
  { sender with ledger }

/-- One message of `process_requests_and_acks`. -/
def serve (config : Config) (answers : SourceAnswers) (sender : RemoteSenderSession) :
    ReceiverMsg → RemoteSenderSession
  | .transferRequest ndx _ =>
      match sender.ndxTable.get ndx with
      | none => sender
      | some entry =>
          let sent := sendFullTransfer config.enableAcl answers entry ndx
          sender.answering ndx sent.1 (sender.ledger.recordFailed ndx sent.2).recordTransfer
  | .deltaTransferRequest ndx blockSize signatures =>
      match sender.ndxTable.get ndx with
      | none => sender
      | some entry =>
          let sent := sendDeltaTransfer config.blake3Truncated config.enableAcl answers entry ndx blockSize
            signatures
          sender.answering ndx sent.1
            (if sent.2 = .sent then sender.ledger.recordTransfer else sender.ledger.recordIndexedError ndx)
  | .redo ndx =>
      match sender.ndxTable.get ndx with
      | none => sender
      | some entry =>
          let sent := sendFullTransfer config.enableAcl answers entry ndx
          sender.answering ndx sent.1 (sender.ledger.recordFailed ndx sent.2)
  | .requestsDone =>
      if sender.ledger.lifecycle = .transferDoneSent then sender
      else
        { sender with
          script := [⟨none, .transferDone⟩]
          ledger := { sender.ledger with lifecycle := .transferDoneSent } }
  | .success _ => sender.withLedger sender.ledger.recordSuccess
  | .entrySuccess _ => sender.withLedger sender.ledger.recordSuccess
  | .entryError .. => sender.withLedger sender.ledger.recordEntryError
  | .error ndx reason =>
      if ndx < 0 then sender.fail (.copyError reason)
      else sender.withLedger (sender.ledger.recordIndexedError ndx)
  | .allDone =>
      if sender.ledger.lifecycle ≠ .transferDoneSent then
        sender.fail (.copyError "Received AllDone before RequestsDone/TransferDone")
      else sender.withLedger { sender.ledger with lifecycle := .completed }
  | .classified .. | .classifiedObservation .. | .creditGrant _ => sender

/-- One event of `advertise_file_list`; the list also ends when the producer stops. -/
def advertise (sender : RemoteSenderSession) : Option (RemoteSenderSession × SenderMsg) :=
  if sender.advertised ∨ sender.failure.isSome then none
  else
    match sender.inventory with
    | .page page :: rest =>
        some ({ sender with inventory := rest, ndxTable := sender.ndxTable.ingestPage page },
          .filePage page)
    | .error path reason :: rest => some ({ sender with inventory := rest }, .fileListError path reason)
    | .done :: _ | [] => some ({ sender with inventory := [], advertised := true }, .fileListDone)

/-- Send the next message of the script. A message that exceeds the window fails the
session; without credit the step is not enabled. -/
def send (sender : RemoteSenderSession) : Option (RemoteSenderSession × Option Outgoing) :=
  match sender.script, sender.failure with
  | [], _ | _, some _ => none
  | outgoing :: script, none =>
      match creditCost outgoing.message with
      | none => some ({ sender with script }, some outgoing)
      | some cost =>
          match sender.credit.acquire cost with
          | .acquired credit => some ({ sender with script, credit }, some outgoing)
          | .waits => none
          | .failed error => some (sender.fail (.transport error), none)

end RemoteSenderSession

end Terrasync.App
