import Terrasync.App.Receiver
import Terrasync.App.RemoteSenderSession

/-! A whole session: one sender, one receiver and the streams between them. Every
stream is FIFO; the streams, the disk-commit task and its outcomes interleave freely.
Messages to the receiver carry the request they answer, and two history variables
collect the requested indices and the requests answered by a symbolic link; neither
influences a step. -/

set_option autoImplicit false

namespace Terrasync.App

open SyncDelta (Bytes)
open Transport

structure RemoteSession where
  sender : RemoteSenderSession
  receiver : Receiver
  control : List Outgoing
  fileList : List Outgoing
  data : List Outgoing
  /-- Requests on the way to the sender. -/
  requests : List ReceiverMsg
  /-- Acknowledgements on the way to the sender. -/
  acks : List ReceiverMsg
  /-- Credit grants on the way to the sender. -/
  grants : List Nat
  requested : List Ndx
  linked : List Ndx

inductive RemoteAction where
  | advertise
  /-- The sender takes the next message of a stream. -/
  | serve (stream : StreamKind) (answers : SourceAnswers)
  | send
  | applyGrant
  /-- The receiver loop takes the next message of a stream. -/
  | receive (stream : StreamKind) (answers : MessageAnswers)
  | disconnect
  | acknowledge
  | commit (answers : DiskAnswers)
  | drain

structure RemoteConfig where
  sender : RemoteSenderSession.Config
  receiver : ReceiverConfig

/-- The request whose terminal is the symbolic link created for it. -/
def linkNdx (outgoing : Outgoing) : Option Ndx :=
  match outgoing.message with
  | .createSymlink .. => outgoing.ndx
  | _ => none

namespace RemoteSession

def new (inventory : List NdxEvent) (senderCredit : SenderCreditLedger)
    (receiverCredit : ReceiverCreditState) : RemoteSession :=
  ⟨.new inventory senderCredit, .new receiverCredit, [], [], [], [], [], [], [], []⟩

/-- Put a message on its stream. -/
def post (session : RemoteSession) (outgoing : Outgoing) : RemoteSession :=
  match senderStreamKind outgoing.message with
  | .control => { session with control := session.control ++ [outgoing] }
  | .fileList => { session with fileList := session.fileList ++ [outgoing] }
  | .data => { session with data := session.data ++ [outgoing] }
  | .ackProgress => session

def isRequest (message : ReceiverMsg) : Bool := receiverStreamKind message = .fileList

def isAck (message : ReceiverMsg) : Bool := receiverStreamKind message ≠ .fileList && (grantBytes message).isNone

/-- Take over a step of the receiver. Grants are separated from acknowledgements: the
transport of the sender filters them out of its stream. -/
def reply (session : RemoteSession) (stepped : Receiver × List ReceiverMsg) : RemoteSession :=
  { session with
    receiver := stepped.1
    requests := session.requests ++ stepped.2.filter isRequest
    acks := session.acks ++ stepped.2.filter isAck
    grants := session.grants ++ stepped.2.filterMap grantBytes
    requested := session.requested ++ stepped.2.filterMap requestNdx }

def advertise (session : RemoteSession) : Option RemoteSession :=
  session.sender.advertise.map fun advertised =>
    { session with sender := advertised.1 }.post ⟨none, advertised.2⟩

def send (session : RemoteSession) : Option RemoteSession :=
  session.sender.send.map fun sent =>
    match sent.2 with
    | none => { session with sender := sent.1 }
    | some outgoing => { session with sender := sent.1 }.post outgoing

/-- The sender serves the next message of a stream once its script is sent. -/
def serve (config : RemoteConfig) (stream : StreamKind) (answers : SourceAnswers)
    (session : RemoteSession) : Option RemoteSession :=
  if session.sender.script ≠ [] ∨ session.sender.failure.isSome ∨
      session.sender.ledger.lifecycle = .completed then none
  else
    match stream, session.requests, session.acks with
    | .fileList, message :: requests, _ =>
        some { session with requests, sender := session.sender.serve config.sender answers message }
    | .ackProgress, _, message :: acks =>
        some { session with acks, sender := session.sender.serve config.sender answers message }
    | _, _, _ => none

def applyGrant (session : RemoteSession) : Option RemoteSession :=
  match session.grants with
  | [] => none
  | bytes :: grants =>
      some { session with
        grants
        sender := { session.sender with credit := (session.sender.credit.grant bytes).1 } }

/-- The next message of a stream to the receiver, with the rest of the session. -/
def take (session : RemoteSession) : StreamKind → Option (Outgoing × RemoteSession)
  | .control =>
      match session.control with
      | [] => none
      | outgoing :: control => some (outgoing, { session with control })
  | .fileList =>
      match session.fileList with
      | [] => none
      | outgoing :: fileList => some (outgoing, { session with fileList })
  | .data =>
      match session.data with
      | [] => none
      | outgoing :: data => some (outgoing, { session with data })
  | .ackProgress => none

/-- Steps of the receiver, with the replies they send. -/
def receiverStep (config : RemoteConfig) (session : RemoteSession) (action : ReceiverAction) :
    Option RemoteSession :=
  (session.receiver.step config.receiver action).map session.reply

def receive (config : RemoteConfig) (stream : StreamKind) (answers : MessageAnswers)
    (session : RemoteSession) : Option RemoteSession :=
  match session.take stream with
  | none => none
  | some (outgoing, taken) =>
      { taken with linked := taken.linked ++ (linkNdx outgoing).toList }.receiverStep config
        (.deliver outgoing.message answers)

def step (config : RemoteConfig) (session : RemoteSession) : RemoteAction → Option RemoteSession
  | .advertise => session.advertise
  | .serve stream answers => session.serve config stream answers
  | .send => session.send
  | .applyGrant => session.applyGrant
  | .receive stream answers => session.receive config stream answers
  | .disconnect => session.receiverStep config .disconnect
  | .acknowledge => session.receiverStep config .acknowledge
  | .commit answers => session.receiverStep config (.commit answers)
  | .drain => session.receiverStep config .drain

def machine (config : RemoteConfig) : Lib.Machine RemoteSession RemoteAction := ⟨step config⟩

end RemoteSession

end Terrasync.App
