import Mathlib.Data.Nat.Sqrt
import Mathlib.Logic.Function.Basic
import Terrasync.App.FileCommit
import Terrasync.Transport.FlowControl

/-! The coordination state of a receiver session, `remote_receiver_session.rs`. A
handler returns the next state with the replies, disk commands and writes it issues,
in order. Sends succeed while the session is open. -/

set_option autoImplicit false

namespace Terrasync.App

open SyncDelta (Bytes StrongHash signaturesOfChunks)
open Transport

structure TransferLedger where
  requested : Nat
  completed : Nat
  transferDoneSeen : Bool
  terminatedNdx : List Ndx
deriving DecidableEq, Repr

namespace TransferLedger

def new : TransferLedger := ⟨0, 0, false, []⟩

def recordRequest (ledger : TransferLedger) : TransferLedger :=
  { ledger with requested := ledger.requested + 1 }

/-- The first terminal of an index counts; later ones do not. -/
def recordTerminal (ledger : TransferLedger) (ndx : Ndx) : TransferLedger × Bool :=
  if ndx ∈ ledger.terminatedNdx then (ledger, false)
  else ({ ledger with
    completed := ledger.completed + 1
    terminatedNdx := ndx :: ledger.terminatedNdx }, true)

def recordUnindexedTerminal (ledger : TransferLedger) : TransferLedger :=
  { ledger with completed := ledger.completed + 1 }

def observeTransferDone (ledger : TransferLedger) : TransferLedger :=
  { ledger with transferDoneSeen := true }

def isComplete (ledger : TransferLedger) : Bool :=
  ledger.transferDoneSeen && decide (ledger.requested ≤ ledger.completed)

end TransferLedger

inductive ActiveTransfer where
  | idle
  | full (ndx : Ndx)
  | delta (ndx : Ndx)
deriving DecidableEq, Repr

def ActiveTransfer.ndx : ActiveTransfer → Option Ndx
  | .idle => none
  | .full ndx => some ndx
  | .delta ndx => some ndx

structure RemoteSessionState where
  ledger : TransferLedger
  ndxTable : NdxTable
  createdDirs : List ObservedEntry
  activeTransfer : ActiveTransfer
  credit : ReceiverCreditState
  attempts : Ndx → UInt8

/-- What a handler issues; `errors` is the increment of the error counter. -/
structure Effects where
  replies : List ReceiverMsg
  commands : List DiskCommitMsg
  mutations : List Mutation
  errors : Nat
deriving DecidableEq, Repr

namespace Effects

def none : Effects := ⟨[], [], [], 0⟩

def append (first second : Effects) : Effects :=
  ⟨first.replies ++ second.replies, first.commands ++ second.commands,
    first.mutations ++ second.mutations, first.errors + second.errors⟩

def reply (message : ReceiverMsg) : Effects := ⟨[message], [], [], 0⟩

def command (message : DiskCommitMsg) : Effects := ⟨[], [message], [], 0⟩

/-- A write, with the reply that reports it. -/
def write (operation : Operation) (path : RelativePath) (replies : List ReceiverMsg) : Effects :=
  ⟨replies, [], [⟨operation, path⟩], 0⟩

end Effects

/-- The error counter grows with every `Error` acknowledgement. -/
def errorIncrement : ReceiverMsg → Nat
  | .error .. => 1
  | _ => 0

structure Handled (Value : Type) where
  session : RemoteSessionState
  effects : Effects
  value : Value

/-- What a receiver is configured with, and what its destination storage supports. -/
structure ReceiverConfig where
  session : SessionConfig
  keepsHistory : Bool
  holdsDirectoryObjects : Bool
  copiedTagsRequired : Except String Bool
  /-- Whether both sides negotiated delta transfers. -/
  delta : Bool
  deltaSizeThreshold : Nat
  blake3Truncated : Bytes → StrongHash
  /-- Whether `decode_acl` accepts an encoded ACL. -/
  decodesAcl : Bytes → Bool

/-- What the destination answers for one advertised item. -/
structure ItemAnswers where
  setMetadata : Option String
  createDir : Option String
  removeMarker : Option String
  /-- The basis file, as it is read. -/
  basis : Except String (List Bytes)

/-- `calculate_block_size`; the square root of a size below the upper bound is exact
in double precision. -/
def calculateBlockSize (fileSize : Nat) : UInt32 :=
  UInt32.ofNat (max 700 (min (Nat.sqrt fileSize) (128 * 1024)))

/-- `.terrasync-part`, the suffix of resumable partial files. -/
def partSuffix : List Char := ".terrasync-part".toList

def isPartFile (path : RelativePath) : Bool := partSuffix.isSuffixOf path

namespace RemoteSessionState

def new (credit : ReceiverCreditState) : RemoteSessionState :=
  ⟨.new, .new, [], .idle, credit, fun _ => 0⟩

def ingestPage (session : RemoteSessionState) (page : DirPageResult) : RemoteSessionState :=
  { session with ndxTable := session.ndxTable.ingestPage page }

def indexedEntry (session : RemoteSessionState) (ndx : Ndx) : Option ObservedItem :=
  session.ndxTable.get ndx

def recordRequest (session : RemoteSessionState) : RemoteSessionState :=
  { session with ledger := session.ledger.recordRequest }

/-- Send a request and count it. -/
def request (session : RemoteSessionState) (message : ReceiverMsg) : Handled Bool :=
  ⟨session.recordRequest, .reply message, true⟩

def handleBaseClassification (answers : ItemAnswers) (session : RemoteSessionState) (ndx : Ndx)
    (entry : ObservedItem) (decision : TransferDecision) : Handled Bool :=
  match decision with
  | .fullTransfer => session.request (.transferRequest ndx decision)
  | .metadataOnly =>
      match answers.setMetadata with
      | some reason =>
          ⟨session, .write .setMetadata (metadataPath entry.entry) [.entryError entry.entry reason], true⟩
      | none =>
          ⟨session, .write .setMetadata (metadataPath entry.entry) [.classifiedObservation ndx decision], true⟩
  | .skip => ⟨session, .reply (.classifiedObservation ndx decision), true⟩
  | .deltaTransfer | .deleted => ⟨session, .none, false⟩

def handleDeltaClassification (config : ReceiverConfig) (answers : ItemAnswers)
    (session : RemoteSessionState) (ndx : Ndx) (entry : ObservedItem) (decision : TransferDecision) :
    Handled Bool :=
  if decision ≠ .deltaTransfer then ⟨session, .none, false⟩
  else if !config.delta then session.request (.transferRequest ndx decision)
  else if config.deltaSizeThreshold < entry.getSize then session.request (.transferRequest ndx decision)
  else
    let blockSize := calculateBlockSize entry.getSize
    match answers.basis with
    | .ok chunks =>
        session.request (.deltaTransferRequest ndx blockSize
          (signaturesOfChunks config.blake3Truncated blockSize chunks))
    | .error _ => session.request (.transferRequest ndx decision)

/-- The iteration of `handle_directory_lifecycle` for one subdirectory. -/
def handleSubdir (config : ReceiverConfig) (answers : ItemAnswers) (session : RemoteSessionState)
    (index : DestIndex) (subdir : NdxEntry) : Handled DestIndex :=
  let entry := subdir.entry.entry
  let marked := index.markMatched entry
  if !entry.path.validate then
    ⟨session, .reply (.entryError entry (unsafeRelativePath entry.path)), marked⟩
  else if config.holdsDirectoryObjects then
    if entry.directoryMarkerObject.isSome then
      match config.copiedTagsRequired with
      | .error reason => ⟨session, .reply (.entryError entry reason), marked⟩
      | .ok copyTags =>
          let decision := marked.checkDirectoryMarker entry copyTags
          if decision = .skip then
            ⟨session, .reply (.classifiedObservation subdir.ndx decision), marked⟩
          else ⟨session.recordRequest, .reply (.transferRequest subdir.ndx decision), marked⟩
    else if config.session.deleteTarget ∧ marked.hasDirectoryMarker entry then
      match answers.removeMarker with
      | some reason => ⟨session, .write .removeMarker entry.path [.entryError entry reason], marked⟩
      | none => ⟨session, .write .removeMarker entry.path [], marked.markDirectoryObjectMatched entry⟩
    else ⟨session, .none, marked⟩
  else
    match answers.createDir with
    | some reason => ⟨session, .write .createDirectory entry.path [.entryError entry reason], marked⟩
    | none =>
        ⟨{ session with createdDirs := session.createdDirs ++ [entry] },
          .write .createDirectory entry.path [], marked⟩

/-- The subdirectories of a page; answers are given by position. -/
def handleSubdirs (config : ReceiverConfig) (answers : Nat → ItemAnswers) (position : Nat)
    (session : RemoteSessionState) (index : DestIndex) : List NdxEntry → Handled DestIndex
  | [] => ⟨session, .none, index⟩
  | subdir :: rest =>
      let handled := session.handleSubdir config (answers position) index subdir
      let remaining := handleSubdirs config answers (position + 1) handled.session handled.value rest
      { remaining with effects := handled.effects.append remaining.effects }

/-- Delete one orphan; `failed` is the error of the storage. -/
def deleteOrphan (failed : Option String) (orphan : ObservedEntry) : Effects :=
  if isPartFile orphan.path then .none
  else
    match failed with
    | none => .write .delete orphan.path [.classified orphan .deleted]
    | some reason => .write .delete orphan.path [.entryError orphan reason]

def deleteOrphans (failed : Nat → Option String) (position : Nat) : List ObservedEntry → Effects
  | [] => .none
  | orphan :: rest => (deleteOrphan (failed position) orphan).append (deleteOrphans failed (position + 1) rest)

def handleDirectoryLifecycle (config : ReceiverConfig) (answers : Nat → ItemAnswers)
    (deleteFailed : Nat → Option String) (session : RemoteSessionState) (page : DirPageResult)
    (index : DestIndex) : Handled Unit :=
  let handled := session.handleSubdirs config answers 0 index page.subdirs
  let orphans :=
    if config.session.deleteTarget then deleteOrphans deleteFailed 0 handled.value.orphanedEntries
    else .none
  ⟨handled.session, handled.effects.append orphans, ()⟩

def discardDirectoryMetadata (session : RemoteSessionState) : RemoteSessionState :=
  { session with createdDirs := [] }

/-- The metadata writes of `finalize_directories`. -/
def finalizeDirectories (session : RemoteSessionState) : List Mutation :=
  session.createdDirs.map fun entry => ⟨.setMetadata, metadataPath entry⟩

def Terminated (session : RemoteSessionState) (ndx : Ndx) : Prop := ndx ∈ session.ledger.terminatedNdx

instance (session : RemoteSessionState) (ndx : Ndx) : Decidable (session.Terminated ndx) :=
  inferInstanceAs (Decidable (ndx ∈ _))

def beginFull (session : RemoteSessionState) (ndx : Ndx) (entry : ObservedItem) : Handled Bool :=
  if session.Terminated ndx then ⟨session, .none, false⟩
  else if session.activeTransfer ≠ .idle then ⟨session, .none, false⟩
  else ⟨{ session with activeTransfer := .full ndx }, .command (.fileBegin ndx entry), true⟩

def pushFullChunk (session : RemoteSessionState) (ndx : Ndx) (chunk : DataChunk) : Handled Bool :=
  if session.activeTransfer = .full ndx then ⟨session, .command (.fileChunk ndx chunk), true⟩
  else ⟨session, .none, false⟩

/-- Record accepted payload bytes; a grant is sent as soon as it is due. -/
def accepted (session : RemoteSessionState) (effects : Effects) (bytes : Nat) :
    Handled (Except TransportError Bool) :=
  match session.credit.recordAccepted bytes with
  | .error error => ⟨session, effects, .error error⟩
  | .ok (credit, .pending) => ⟨{ session with credit }, effects, .ok true⟩
  | .ok (credit, .grant grant) =>
      ⟨{ session with credit }, effects.append (.reply (.creditGrant grant)), .ok true⟩

def acceptFullChunk (session : RemoteSessionState) (ndx : Ndx) (chunk : DataChunk) :
    Handled (Except TransportError Bool) :=
  let pushed := session.pushFullChunk ndx chunk
  if pushed.value then pushed.session.accepted pushed.effects chunk.data.length
  else ⟨pushed.session, pushed.effects, .ok false⟩

def commitFull (session : RemoteSessionState) (ndx : Ndx) (entry : ObservedEntry)
    (sourceHash : Option SourceHash) : Handled Bool :=
  if session.Terminated ndx ∨ session.activeTransfer ≠ .full ndx then ⟨session, .none, false⟩
  else
    ⟨{ session with activeTransfer := .idle }, .command (.fileCommit ndx entry sourceHash), true⟩

/-- The delta stream of an index starts with its first event. -/
def ensureDeltaActive (session : RemoteSessionState) (ndx : Ndx) (entry : ObservedEntry) : Handled Bool :=
  if session.Terminated ndx then ⟨session, .none, false⟩
  else
    match session.activeTransfer with
    | .idle =>
        ⟨{ session with activeTransfer := .delta ndx },
          .command (.deltaBegin ndx entry (calculateBlockSize entry.getSize)), true⟩
    | .delta activeNdx => ⟨session, .none, decide (activeNdx = ndx)⟩
    | .full _ => ⟨session, .none, false⟩

/-- Forward a delta event of the active stream. -/
def forwardDelta (session : RemoteSessionState) (ndx : Ndx) (entry : ObservedEntry)
    (message : DiskCommitMsg) : Handled Bool :=
  let ensured := session.ensureDeltaActive ndx entry
  if ensured.value then ⟨ensured.session, ensured.effects.append (.command message), true⟩
  else ensured

def pushDeltaMatch (session : RemoteSessionState) (ndx : Ndx) (entry : ObservedEntry)
    (blockIndex : UInt32) : Handled Bool :=
  session.forwardDelta ndx entry (.deltaMatch entry blockIndex)

def pushDeltaData (session : RemoteSessionState) (ndx : Ndx) (entry : ObservedEntry) (data : Bytes) :
    Handled Bool :=
  session.forwardDelta ndx entry (.deltaData entry data)

def acceptDeltaData (session : RemoteSessionState) (ndx : Ndx) (entry : ObservedEntry) (data : Bytes) :
    Handled (Except TransportError Bool) :=
  let pushed := session.pushDeltaData ndx entry data
  if pushed.value then pushed.session.accepted pushed.effects data.length
  else ⟨pushed.session, pushed.effects, .ok false⟩

def commitDelta (session : RemoteSessionState) (ndx : Ndx) (entry : ObservedEntry)
    (sourceHash : Option SourceHash) : Handled Bool :=
  let ensured := session.ensureDeltaActive ndx entry
  if ensured.value then
    ⟨{ ensured.session with activeTransfer := .idle },
      ensured.effects.append (.command (.deltaCommit ndx entry sourceHash)), true⟩
  else ensured

def abortActiveFile (session : RemoteSessionState) : Handled Unit :=
  ⟨{ session with activeTransfer := .idle }, .command .abortFile, ()⟩

def recordTerminal (session : RemoteSessionState) (ndx : Ndx) : RemoteSessionState × Bool :=
  ({ session with ledger := (session.ledger.recordTerminal ndx).1 }, (session.ledger.recordTerminal ndx).2)

def isComplete (session : RemoteSessionState) : Bool := session.ledger.isComplete

def completeUnindexed (session : RemoteSessionState) : RemoteSessionState × Bool :=
  let completed := { session with ledger := session.ledger.recordUnindexedTerminal }
  (completed, completed.isComplete)

def observeTransferDone (session : RemoteSessionState) : RemoteSessionState × Bool :=
  let observed := { session with ledger := session.ledger.observeTransferDone }
  (observed, observed.isComplete)

def handleSourceFailure (session : RemoteSessionState) (ndx : Option Ndx) : Handled Bool :=
  match ndx with
  | some ndx =>
      let recorded := session.recordTerminal ndx
      if recorded.1.activeTransfer.ndx = some ndx then
        let aborted := recorded.1.abortActiveFile
        ⟨aborted.session, aborted.effects, recorded.2 && aborted.session.isComplete⟩
      else ⟨recorded.1, .none, recorded.2 && recorded.1.isComplete⟩
  | none =>
      let aborted := session.abortActiveFile
      let completed := aborted.session.completeUnindexed
      ⟨completed.1, aborted.effects, completed.2⟩

/-- The first mismatch of an index asks for the file again. The counter is a `u8`. -/
def redoOrError (session : RemoteSessionState) (ndx : Ndx) (reason : String) :
    RemoteSessionState × ReceiverMsg × Bool :=
  let count := session.attempts ndx + 1
  let counted := { session with attempts := Function.update session.attempts ndx count }
  if count = 1 then (counted, .redo ndx, false) else (counted, .error ndx reason, true)

/-- The acknowledgement of an outcome, and whether it is terminal. -/
def judge (session : RemoteSessionState) (ndx : Ndx) :
    FileOutcome → RemoteSessionState × ReceiverMsg × Bool
  | .success => (session, .success ndx, true)
  | .hashMismatch => session.redoOrError ndx "hash mismatch"
  | .sizeMismatch => session.redoOrError ndx "size mismatch"
  | .hardError reason => (session, .error ndx reason, true)

def handleFileOutcome (session : RemoteSessionState) (ndx : Ndx) (outcome : FileOutcome) : Handled Bool :=
  let (judged, ack, terminal) := session.judge ndx outcome
  if !terminal then ⟨judged, .reply ack, false⟩
  else
    let recorded := judged.recordTerminal ndx
    if !recorded.2 then ⟨recorded.1, .none, false⟩
    else ⟨recorded.1, ⟨[ack], [], [], errorIncrement ack⟩, recorded.1.isComplete⟩

def handleEntryOutcome (session : RemoteSessionState) (ack : ReceiverMsg) : Handled Bool :=
  let completed := session.completeUnindexed
  ⟨completed.1, .reply ack, completed.2⟩

def discardResidualCredit (session : RemoteSessionState) : RemoteSessionState :=
  { session with credit := session.credit.reset }

end RemoteSessionState

end Terrasync.App
