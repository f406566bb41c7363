import Mathlib.Logic.Function.Basic
import Terrasync.Transport.FlowControl
import Terrasync.Transport.Framing
import Terrasync.Transport.WireMessage

/-! A QUIC connection between a sender and a receiver (`quic/mux.rs`, `quic/sender.rs`,
`quic/receiver.rs`). The messages of each kind have a stream of their own; a task for each stream
reads frames and forwards them to one channel. Streams are accepted in the order in which they were
opened, once bytes have arrived; the sender takes credit grants out before its owner sees them. -/

set_option autoImplicit false

namespace Terrasync.Transport.Quic

open SyncDelta (Bytes)

/-- `StreamKind::index`. -/
def index : StreamKind → Nat
  | .control => 0
  | .fileList => 1
  | .data => 2
  | .ackProgress => 3

/-- `CLIENT_INITIATED`. -/
def clientInitiated : List StreamKind := [.control, .fileList, .data]

structure Codecs where
  sender : Codec WireSenderMsg
  receiver : Codec WireReceiverMsg

/-- Of the messages to the receiver arrives what the snapshots keep; those to the sender carry whole
entries only. -/
structure Codecs.Lawful (codecs : Codecs) (snapshots : Snapshots) : Prop where
  sender : codecs.sender.Lawful (WireSenderMsg.image snapshots)
  receiver : codecs.receiver.Lawful id

/-- Both ends of a connection. -/
structure Connection where
  toReceiver : StreamKind → Pipe
  toSender : StreamKind → Pipe
  /-- How many streams the receiver has accepted. -/
  accepted : Nat
  /-- The sender has accepted the stream that the receiver opens. -/
  ackAccepted : Bool
  /-- The channel of the receiver. -/
  receiverIncoming : List WireSenderMsg
  /-- The channel of the sender, before the grants are taken out and behind that. -/
  rawIncoming : List WireReceiverMsg
  senderIncoming : List WireReceiverMsg
  credit : SenderCreditLedger

inductive Side where
  | sender
  | receiver
deriving DecidableEq, Repr

/-- What the owners of the two ends notice. -/
inductive Seen where
  | sent (msg : WireSenderMsg)
  | received (msg : WireSenderMsg)
  | replied (msg : WireReceiverMsg)
  | heard (msg : WireReceiverMsg)
  | granted (bytes : Nat)
deriving DecidableEq, Repr

/-- `arrive`, `read` and `lose` name the end the bytes go to. -/
inductive Action where
  | send (msg : WireSenderMsg)
  | reply (msg : WireReceiverMsg)
  | arrive (side : Side) (kind : StreamKind) (size : Nat)
  | read (side : Side) (kind : StreamKind) (size : Nat)
  | lose (side : Side) (kind : StreamKind) (finished : Bool)
  | accept
  | acceptAck
  | filter
  | receive
  | hear
deriving DecidableEq, Repr

/-- One end reads a stream with a task of its own, as soon as it has opened or accepted it. -/
def reading (accepted : Nat) (ackAccepted : Bool) (side : Side) (kind : StreamKind) : Bool :=
  match side with
  | .sender => kind ≠ .ackProgress || ackAccepted
  | .receiver => index kind < accepted

namespace Connection

def new (credit : SenderCreditLedger) : Connection where
  toReceiver := fun _ => .new
  toSender := fun _ => .new
  accepted := 0
  ackAccepted := false
  receiverIncoming := []
  rawIncoming := []
  senderIncoming := []
  credit

/-- The receiver can write to the stream: it is `Ready`, not `Pending`. -/
def ready (connection : Connection) (kind : StreamKind) : Bool :=
  0 < connection.accepted && (kind = .ackProgress || index kind < connection.accepted)

/-- Something came on a stream that is not accepted yet; with a stream all opened before it are
there. -/
def revealed (connection : Connection) : Bool :=
  clientInitiated.any fun kind =>
    connection.accepted ≤ index kind && (connection.toReceiver kind).arrived ≠ []

def setToReceiver (connection : Connection) (kind : StreamKind) (pipe : Pipe) : Connection :=
  { connection with toReceiver := Function.update connection.toReceiver kind pipe }

def setToSender (connection : Connection) (kind : StreamKind) (pipe : Pipe) : Connection :=
  { connection with toSender := Function.update connection.toSender kind pipe }

/-- `send`: the message is charged and written to the stream of its kind. -/
def send (codecs : Codecs) (connection : Connection) (msg : WireSenderMsg) : Option Connection :=
  let kind := msg.streamKind
  let write (credit : SenderCreditLedger) :=
    match writeMsg codecs.sender msg with
    | .ok frame => some { connection.setToReceiver kind ((connection.toReceiver kind).write frame) with credit }
    | .error _ => none
  match msg.creditCost with
  | none => write connection.credit
  | some bytes =>
      match connection.credit.acquire bytes with
      | .acquired credit => write credit
      | .waits | .failed _ => none

def reply (codecs : Codecs) (connection : Connection) (msg : WireReceiverMsg) : Option Connection :=
  let kind := msg.streamKind
  if connection.ready kind then
    match writeMsg codecs.receiver msg with
    | .ok frame => some (connection.setToSender kind ((connection.toSender kind).write frame))
    | .error _ => none
  else none

/-- A task of `reader_loop` goes on. -/
def read (codecs : Codecs) (connection : Connection) (side : Side) (kind : StreamKind) (size : Nat) :
    Option Connection :=
  if reading connection.accepted connection.ackAccepted side kind then
    match side with
    | .receiver =>
        let (pipe, msg) := (connection.toReceiver kind).read codecs.sender size
        some { connection.setToReceiver kind pipe with
          receiverIncoming := connection.receiverIncoming ++ msg.toList }
    | .sender =>
        let (pipe, msg) := (connection.toSender kind).read codecs.receiver size
        some { connection.setToSender kind pipe with rawIncoming := connection.rawIncoming ++ msg.toList }
  else none

/-- The task that filters the messages to the sender, `apply_incoming`. -/
def filter (connection : Connection) : Option (Connection × Option Seen) :=
  match connection.rawIncoming with
  | [] => none
  | .transfer (.creditGrant bytes) :: rawIncoming =>
      some ({ connection with rawIncoming, credit := (connection.credit.grant bytes).1 }, some (.granted bytes))
  | msg :: rawIncoming =>
      some ({ connection with rawIncoming, senderIncoming := connection.senderIncoming ++ [msg] }, none)

def step (codecs : Codecs) (connection : Connection) : Action → Option (Connection × Option Seen)
  | .send msg => (connection.send codecs msg).map fun next => (next, some (.sent msg))
  | .reply msg => (connection.reply codecs msg).map fun next => (next, some (.replied msg))
  | .arrive .receiver kind size =>
      some (connection.setToReceiver kind ((connection.toReceiver kind).arrive size), none)
  | .arrive .sender kind size =>
      some (connection.setToSender kind ((connection.toSender kind).arrive size), none)
  | .read side kind size => (connection.read codecs side kind size).map fun next => (next, none)
  | .lose .receiver kind finished =>
      some (connection.setToReceiver kind ((connection.toReceiver kind).lose finished), none)
  | .lose .sender kind finished =>
      some (connection.setToSender kind ((connection.toSender kind).lose finished), none)
  | .accept =>
      if connection.accepted < 3 ∧ connection.revealed then
        some ({ connection with accepted := connection.accepted + 1 }, none)
      else none
  | .acceptAck =>
      if !connection.ackAccepted ∧ (connection.toSender .ackProgress).arrived ≠ [] then
        some ({ connection with ackAccepted := true }, none)
      else none
  | .filter => connection.filter
  | .receive =>
      match connection.receiverIncoming with
      | [] => none
      | msg :: receiverIncoming => some ({ connection with receiverIncoming }, some (.received msg))
  | .hear =>
      match connection.senderIncoming with
      | [] => none
      | msg :: senderIncoming => some ({ connection with senderIncoming }, some (.heard msg))

end Connection

/-- A connection and what its owners have noticed. -/
structure Traced where
  connection : Connection
  seen : List Seen

def machine (codecs : Codecs) : Lib.Machine Traced Action where
  step traced action :=
    (traced.connection.step codecs action).map fun next => ⟨next.1, traced.seen ++ next.2.toList⟩

def start (credit : SenderCreditLedger) : Traced := ⟨.new credit, []⟩

/-! ### What a session takes a connection for -/

/-- A queue for the messages of each kind in each direction, as they will be read, and one for the
grants. -/
structure Streams where
  up : StreamKind → List WireSenderMsg
  down : StreamKind → List WireReceiverMsg
  grants : List Nat

namespace Streams

def empty : Streams := ⟨fun _ => [], fun _ => [], []⟩

def step (snapshots : Snapshots) (streams : Streams) : Seen → Option Streams
  | .sent msg =>
      let kind := msg.streamKind
      some { streams with up := Function.update streams.up kind (streams.up kind ++ [msg.image snapshots]) }
  | .received msg =>
      match streams.up msg.streamKind with
      | [] => none
      | first :: later =>
          if first = msg then some { streams with up := Function.update streams.up msg.streamKind later }
          else none
  | .replied msg =>
      match msg.grant with
      | some bytes => some { streams with grants := streams.grants ++ [bytes] }
      | none =>
          let kind := msg.streamKind
          some { streams with down := Function.update streams.down kind (streams.down kind ++ [msg]) }
  | .heard msg =>
      match streams.down msg.streamKind with
      | [] => none
      | first :: later =>
          if first = msg then some { streams with down := Function.update streams.down msg.streamKind later }
          else none
  | .granted bytes =>
      match streams.grants with
      | [] => none
      | first :: grants => if first = bytes then some { streams with grants } else none

def machine (snapshots : Snapshots) : Lib.Machine Streams Seen := ⟨step snapshots⟩

end Streams

end Terrasync.Transport.Quic
