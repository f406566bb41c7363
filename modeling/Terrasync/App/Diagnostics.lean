import Mathlib.Algebra.GroupWithZero.Nat
import Mathlib.Data.List.Infix
import Terrasync.Lib.TextEquality

/-! The bounded outbox of diagnostic events. An event keeps its identity until the batch
that carries it is acknowledged; what does not fit is only counted. Identifiers are digests,
so the digest is a parameter. -/

set_option autoImplicit false

namespace Terrasync.App

abbrev Text := List Char

structure CallbackIdentity where
  roundId : Text
  attemptId : Text
  roundStartedAtMillis : Nat
  attemptStartedAtMillis : Nat
  sequence : Nat
deriving DecidableEq, Repr

structure DiagnosticEvent where
  eventId : Text
  roundId : Text
  attemptId : Text
  origin : Text
  code : Text
  message : Text
  path : Option Text
deriving DecidableEq, Repr

structure DiagnosticBatch where
  batchId : Text
  events : List DiagnosticEvent
  omittedCount : Nat
deriving DecidableEq, Repr

structure CallbackAck where
  batchId : Option Text
deriving DecidableEq, Repr

def maxDiagnosticTextBytes : Nat := 2048
def maxDiagnosticLabelBytes : Nat := 128
def maxDiagnosticBatchEvents : Nat := 64
def maxDiagnosticQueueEvents : Nat := 512

/-- `u64::MAX` -/
def u64Max : Nat := 2 ^ 64 - 1

namespace Text

def byteLength (text : Text) : Nat := (text.map Char.utf8Size).sum

/-- `text_prefix`: the longest prefix of whole characters within the limit. -/
def byteTake (limit : Nat) : Text → Text
  | [] => []
  | character :: rest =>
      if character.utf8Size ≤ limit then character :: byteTake (limit - character.utf8Size) rest else []

/-- `char::is_whitespace`: the Unicode `White_Space` characters. -/
def isWhitespace (character : Char) : Bool :=
  (9 ≤ character.toNat && character.toNat ≤ 13) || character.toNat = 0x20 || character.toNat = 0x85 ||
    character.toNat = 0xa0 || character.toNat = 0x1680 ||
    (0x2000 ≤ character.toNat && character.toNat ≤ 0x200a) || character.toNat = 0x2028 ||
    character.toNat = 0x2029 || character.toNat = 0x202f || character.toNat = 0x205f ||
    character.toNat = 0x3000

/-- `char::is_control`: the Unicode category `Cc`. -/
def isControl (character : Char) : Bool :=
  character.toNat ≤ 0x1f || (0x7f ≤ character.toNat && character.toNat ≤ 0x9f)

/-- Control characters become the replacement character. -/
def visible (character : Char) : Char := if isControl character then '\ufffd' else character

def splitWhitespace (text : Text) : List Text := (text.splitOnP isWhitespace).filter fun token => token ≠ []

def contains (text key : Text) : Bool := text.tails.any key.isPrefixOf

def isDigest (text : Text) : Bool :=
  text.byteLength = 64 && text.all fun character =>
    character.isDigit || ('a' ≤ character && character ≤ 'f') || ('A' ≤ character && character ≤ 'F')

end Text

def secretKeys : List Text :=
  ["password", "passwd", "secret", "token", "credential", "authorization", "access_key",
    "secret_key"].map String.toList

def isSecretKey (token : Text) : Bool :=
  secretKeys.any (Text.contains (token.map Char.toLower))

/-- The text that stands for one token. -/
def redactToken (token : Text) : Text :=
  if token.contains "://".toList || isSecretKey token then "[redacted]".toList
  else token.map Text.visible

/-- One more token, after a blank unless it is the first. -/
def appendToken (result token : Text) : Text :=
  (if result = [] then result else result ++ [' ']) ++ token

/-- Nothing after a secret key is kept, nor anything after the text has outgrown its limit. -/
def redactTokens (result : Text) : List Text → Text
  | [] => result
  | token :: rest =>
      let result := appendToken result (redactToken token)
      if isSecretKey token || maxDiagnosticTextBytes < result.byteLength then result
      else redactTokens result rest

def safeDiagnosticText (text : Text) : Text :=
  (redactTokens [] (text.byteTake maxDiagnosticTextBytes).splitWhitespace).byteTake maxDiagnosticTextBytes

def safeDiagnosticLabel (text : Text) : Text :=
  (safeDiagnosticText text).byteTake maxDiagnosticLabelBytes

namespace DiagnosticEvent

def sanitize (event : DiagnosticEvent) : DiagnosticEvent :=
  { event with
    origin := safeDiagnosticLabel event.origin
    code := safeDiagnosticLabel event.code
    message := safeDiagnosticText event.message
    path := event.path.map safeDiagnosticText }

def isBounded (event : DiagnosticEvent) : Bool :=
  event.eventId.isDigest && event.origin.byteLength ≤ maxDiagnosticLabelBytes &&
    event.code.byteLength ≤ maxDiagnosticLabelBytes &&
    event.message.byteLength ≤ maxDiagnosticTextBytes &&
    event.path.all fun text => text.byteLength ≤ maxDiagnosticTextBytes

end DiagnosticEvent

inductive IdentifierKind where
  | event
  | batch
deriving DecidableEq, Repr

def IdentifierKind.text : IdentifierKind → Text
  | .event => "event".toList
  | .batch => "batch".toList

structure DiagnosticOutbox where
  roundId : Text
  attemptId : Text
  capacity : Nat
  batchSize : Nat
  revision : Nat
  nextEvent : Nat
  nextBatch : Nat
  omittedCount : Nat
  pending : List DiagnosticEvent
  inFlight : Option DiagnosticBatch
deriving DecidableEq, Repr

namespace DiagnosticOutbox

def new (roundId attemptId : Text) (capacity batchSize : Nat) : DiagnosticOutbox where
  roundId := roundId
  attemptId := attemptId
  capacity := min capacity maxDiagnosticQueueEvents
  batchSize := max 1 (min batchSize maxDiagnosticBatchEvents)
  revision := 0
  nextEvent := 0
  nextBatch := 0
  omittedCount := 0
  pending := []
  inFlight := none

def validateIdentity (outbox : DiagnosticOutbox) (roundId attemptId : Text) : Bool :=
  outbox.roundId = roundId && outbox.attemptId = attemptId &&
    outbox.capacity ≤ maxDiagnosticQueueEvents &&
    (1 ≤ outbox.batchSize && outbox.batchSize ≤ maxDiagnosticBatchEvents) &&
    outbox.pending.length ≤ outbox.capacity &&
    (outbox.pending.all fun event =>
      event.roundId = outbox.roundId && event.attemptId ≠ [] && event.isBounded) &&
    outbox.inFlight.all fun batch =>
      batch.batchId.isDigest && batch.events.length ≤ outbox.batchSize &&
        batch.omittedCount ≤ outbox.omittedCount &&
        outbox.pending.take batch.events.length = batch.events

def setAttempt (outbox : DiagnosticOutbox) (attemptId : Text) : DiagnosticOutbox :=
  { outbox with attemptId }

/-- The text whose digest names an event or a batch. -/
def identifierText (roundId attemptId : Text) (kind : IdentifierKind) (sequence : Nat) : Text :=
  (toString roundId.byteLength).toList ++ ':' :: roundId ++ ':' :: attemptId ++ ':' :: kind.text ++
    ':' :: (toString sequence).toList

/-- The counter behind the identifiers of a kind. -/
def counter (outbox : DiagnosticOutbox) : IdentifierKind → Nat
  | .event => outbox.nextEvent
  | .batch => outbox.nextBatch

def nextText (outbox : DiagnosticOutbox) (kind : IdentifierKind) : Text :=
  identifierText outbox.roundId outbox.attemptId kind (outbox.counter kind + 1)

def identifier (digest : Text → Text) (outbox : DiagnosticOutbox) (kind : IdentifierKind)
    (sequence : Nat) : Text :=
  digest (identifierText outbox.roundId outbox.attemptId kind sequence)

/-- The event an enqueue call records when there is room for it. -/
def event (digest : Text → Text) (outbox : DiagnosticOutbox) (origin code message : Text)
    (path : Option Text) : DiagnosticEvent where
  eventId := outbox.identifier digest .event (outbox.nextEvent + 1)
  roundId := outbox.roundId
  attemptId := outbox.attemptId
  origin := safeDiagnosticLabel origin
  code := safeDiagnosticLabel code
  message := safeDiagnosticText message
  path := path.map safeDiagnosticText

def enqueue (digest : Text → Text) (outbox : DiagnosticOutbox) (origin code message : Text)
    (path : Option Text) : Bool × DiagnosticOutbox :=
  if outbox.revision = u64Max then (false, outbox)
  else if outbox.capacity ≤ outbox.pending.length ∨ outbox.nextEvent = u64Max then
    (false, { outbox with
      revision := outbox.revision + 1
      omittedCount := min (outbox.omittedCount + 1) u64Max })
  else
    (true, { outbox with
      revision := outbox.revision + 1
      nextEvent := outbox.nextEvent + 1
      pending := outbox.pending ++ [outbox.event digest origin code message path] })

/-- An enqueue call is refused for lack of room. -/
def isFull (outbox : DiagnosticOutbox) : Bool :=
  outbox.revision ≠ u64Max && outbox.capacity ≤ outbox.pending.length

/-- What the batch in flight does not yet carry of the omitted count. -/
def unbatched (outbox : DiagnosticOutbox) : Nat :=
  outbox.omittedCount - (outbox.inFlight.map DiagnosticBatch.omittedCount).getD 0

/-- The batch that the next preparation puts in flight. -/
def nextPrepared (digest : Text → Text) (outbox : DiagnosticOutbox) : DiagnosticBatch where
  batchId := outbox.identifier digest .batch (outbox.nextBatch + 1)
  events := outbox.pending.take outbox.batchSize
  omittedCount := outbox.omittedCount

def prepareBatch (digest : Text → Text) (outbox : DiagnosticOutbox) :
    Option DiagnosticBatch × DiagnosticOutbox :=
  match outbox.inFlight with
  | some batch => (some batch, outbox)
  | none =>
      if (outbox.pending = [] ∧ outbox.omittedCount = 0) ∨ outbox.nextBatch = u64Max ∨
          outbox.revision = u64Max then
        (none, outbox)
      else
        (some (outbox.nextPrepared digest), { outbox with
          revision := outbox.revision + 1
          nextBatch := outbox.nextBatch + 1
          inFlight := some (outbox.nextPrepared digest) })

def ack (outbox : DiagnosticOutbox) (batchId : Text) : Bool × DiagnosticOutbox :=
  if outbox.revision = u64Max then (false, outbox)
  else match outbox.inFlight.filter fun batch => batch.batchId = batchId with
    | none => (false, outbox)
    | some batch =>
        if outbox.omittedCount < batch.omittedCount ∨
            outbox.pending.take batch.events.length ≠ batch.events then
          (false, outbox)
        else
          (true, { outbox with
            pending := outbox.pending.drop batch.events.length
            omittedCount := outbox.omittedCount - batch.omittedCount
            inFlight := none
            revision := outbox.revision + 1 })

end DiagnosticOutbox

end Terrasync.App
