import Terrasync.SyncDelta.Reconstruct
import Terrasync.Transport.Message

/-! The disk-commit task of a receiver (`disk_commit.rs`, `file_commit.rs`): one file
at a time is prepared, written and published. What the storage engine answers to a
command is an argument; every write that is issued is returned with its path. -/

set_option autoImplicit false

namespace Terrasync.App

open SyncDelta (Bytes DeltaToken Reconstructor ReconstructStep)
open Transport

inductive Operation where
  | createDirectory
  | writeFile
  | setMetadata
  | applyAcl
  | createSymlink
  | writeDeleteMarker
  | removeMarker
  | delete
deriving DecidableEq, Repr

/-- A write issued to the destination storage. -/
structure Mutation where
  operation : Operation
  path : RelativePath
deriving DecidableEq, Repr

inductive FileTransferMode where
  | full
  | delta
deriving DecidableEq, Repr

structure StreamChunk where
  offset : Nat
  data : Bytes
  unchangedBasis : Bool
deriving DecidableEq, Repr

structure DeltaCtx where
  reconstructor : Reconstructor
  writePos : Nat
  /-- Basis offset, length and write offset of the references not read yet. -/
  pendingBasis : Option (Nat × Nat × Nat)

inductive ActiveFileMode where
  | full
  | delta (ctx : DeltaCtx)

def ActiveFileMode.transferMode : ActiveFileMode → FileTransferMode
  | .full => .full
  | .delta _ => .delta

/-- The file being written; `sent` is what its writer has taken from the channel. -/
structure ActiveFile where
  ndx : Ndx
  entry : ObservedItem
  sent : List StreamChunk
  size : Nat
  mode : ActiveFileMode

def ActiveFile.path (active : ActiveFile) : RelativePath := active.entry.entry.path

inductive FileCommitState where
  | idle
  | fullActive (active : ActiveFile)
  | deltaActive (active : ActiveFile)
  | committing
  | failed
  | completed

def FileCommitState.active : FileCommitState → Option ActiveFile
  | .fullActive active => some active
  | .deltaActive active => some active
  | _ => none

inductive ObserveFailure where
  | notFound
  | other (reason : String)
deriving DecidableEq, Repr

/-- What the engine answers while one command is processed. -/
structure DiskAnswers where
  createDir : Option String
  createSymlink : Option String
  writeDeleteMarker : Option String
  /-- Failure of the checks made before a write is issued. -/
  plan : Option String
  /-- Size of the basis file. -/
  observe : Except ObserveFailure Nat
  prepare : Option String
  readBasis : Nat → Nat → Except String Bytes
  /-- Whether the writer still takes the chunk of a basis range. -/
  takesBasis : Bool
  /-- Whether the writer still takes a literal chunk. -/
  takesData : Bool
  writeError : Option String
  receivedSize : Nat
  inputEnded : Bool
  receivedHash : SourceHash
  publish : Option String

/-- Effects of one command: the next state, acknowledgements and writes. -/
structure Committed where
  state : FileCommitState
  acks : List DcAck
  mutations : List Mutation

/-- The object a transfer writes: a directory item stands for its marker object. -/
def payloadPath (item : ObservedItem) : RelativePath :=
  match item.versionIndex, item.entry.directoryMarkerObject with
  | none, some marker => marker.path
  | _, _ => item.entry.path

/-- `set_entry_metadata` writes to the payload of the entry as a whole. -/
def metadataPath (entry : ObservedEntry) : RelativePath := payloadPath ⟨entry, none⟩

def unsafeRelativePath (path : RelativePath) : String :=
  let quoted := (String.ofList path).quote
  s!"Unsafe relative path: {quoted}"

/-- `stage_error`. -/
def stageError (stage source : String) : FileOutcome :=
  .hardError s!"File commit {stage}: {source}"

namespace FileCommitState

def fail (ndx : Ndx) (outcome : FileOutcome) (mutations : List Mutation) : Committed :=
  ⟨.failed, [.fileOutcome ndx outcome], mutations⟩

def ignore (state : FileCommitState) : Committed := ⟨state, [], []⟩

/-- Size of the basis of a delta transfer; a missing basis has the size of the source. -/
def basisSize (answers : DiskAnswers) (entry : ObservedItem) : Option UInt32 → Except String Nat
  | none => .ok 0
  | some _ =>
      match answers.observe with
      | .ok size => .ok size
      | .error .notFound => .ok entry.getSize
      | .error (.other reason) => .error reason

def opened (ndx : Ndx) (entry : ObservedItem) (basisSize : Nat) : Option UInt32 → FileCommitState
  | none => .fullActive ⟨ndx, entry, [], entry.getSize, .full⟩
  | some blockSize =>
      .deltaActive ⟨ndx, entry, [], entry.getSize, .delta ⟨⟨blockSize, basisSize⟩, 0, none⟩⟩

/-- The rest of `begin` once no file is active. -/
def prepare (answers : DiskAnswers) (ndx : Ndx) (entry : ObservedItem) (deltaBlockSize : Option UInt32) :
    Committed :=
  if !entry.entry.path.validate then
    fail ndx (.hardError (unsafeRelativePath entry.entry.path)) []
  else
    match basisSize answers entry deltaBlockSize with
    | .error reason => fail ndx (stageError "basis describe" reason) []
    | .ok size =>
        match answers.plan, answers.prepare with
        | some reason, _ => fail ndx (.hardError reason) []
        | none, some reason => fail ndx (.hardError reason) [⟨.writeFile, payloadPath entry⟩]
        | none, none => ⟨opened ndx entry size deltaBlockSize, [], [⟨.writeFile, payloadPath entry⟩]⟩

def begin (answers : DiskAnswers) (state : FileCommitState) (ndx : Ndx) (entry : ObservedItem)
    (deltaBlockSize : Option UInt32) : Committed :=
  match state with
  | .fullActive _ | .deltaActive _ | .committing => state.ignore
  | .idle | .failed | .completed => prepare answers ndx entry deltaBlockSize

def pushFull (answers : DiskAnswers) (state : FileCommitState) (ndx : Ndx) (chunk : DataChunk) :
    Committed :=
  match state with
  | .fullActive active =>
      if active.ndx ≠ ndx then state.ignore
      else if answers.takesData then
        ignore (.fullActive { active with sent := active.sent ++ [⟨chunk.offset, chunk.data, false⟩] })
      else state.ignore
  | _ => state.ignore

/-- Read the pending basis range and hand it to the writer. -/
def flushBasis (answers : DiskAnswers) (active : ActiveFile) : Except String ActiveFile :=
  match active.mode with
  | .full => .ok active
  | .delta ctx =>
      match ctx.pendingBasis with
      | none => .ok active
      | some (offset, length, writeOffset) =>
          match answers.readBasis offset length with
          | .error reason => .error reason
          | .ok data =>
              if answers.takesBasis then
                .ok { active with
                  sent := active.sent ++ [⟨writeOffset, data, offset = writeOffset⟩]
                  mode := .delta { ctx with pendingBasis := none } }
              else .error "Copy error: Delta destination writer closed"

/-- The pending range grown by an adjacent reference, up to 2 MiB. -/
def coalesced (ctx : DeltaCtx) : ReconstructStep → Option DeltaCtx
  | .ready _ => none
  | .needBasis offset len =>
      match ctx.pendingBasis with
      | some (start, pendingLength, writeOffset) =>
          if start + pendingLength = offset ∧ pendingLength + len.toNat ≤ 2 * 1024 * 1024 then
            some { ctx with
              pendingBasis := some (start, pendingLength + len.toNat, writeOffset)
              writePos := ctx.writePos + len.toNat }
          else none
      | none => none

/-- The last part of `push_delta`, after the pending range is flushed. -/
def applyStep (answers : DiskAnswers) (active : ActiveFile) (ctx : DeltaCtx) :
    ReconstructStep → ActiveFile
  | .needBasis offset len =>
      { active with mode := .delta { ctx with
          pendingBasis := some (offset, len.toNat, ctx.writePos)
          writePos := ctx.writePos + len.toNat } }
  | .ready data =>
      { active with
        sent := if answers.takesData then active.sent ++ [⟨ctx.writePos, data, false⟩] else active.sent
        mode := .delta { ctx with writePos := ctx.writePos + data.length } }

def pushDelta (answers : DiskAnswers) (state : FileCommitState) (entry : ObservedEntry)
    (token : DeltaToken) : Committed :=
  match state with
  | .deltaActive active =>
      if active.path ≠ entry.path then state.ignore
      else
        match active.mode with
        | .full => state.ignore
        | .delta ctx =>
            let step := ctx.reconstructor.push token
            match coalesced ctx step with
            | some grown => ignore (.deltaActive { active with mode := .delta grown })
            | none =>
                match flushBasis answers active with
                | .error reason => fail active.ndx (stageError "basis read" reason) []
                | .ok flushed =>
                    match flushed.mode with
                    | .full => ignore (.deltaActive flushed)
                    | .delta flushedCtx =>
                        ignore (.deltaActive (applyStep answers flushed flushedCtx step))
  | _ => state.ignore

/-- `finalize_file`: length and digest of the input are checked before publishing. -/
def finalizeFile (config : SessionConfig) (answers : DiskAnswers) (active : ActiveFile)
    (sourceHash : Option SourceHash) : FileOutcome :=
  match answers.writeError with
  | some reason =>
      if active.size < answers.receivedSize ∨
          (answers.inputEnded ∧ answers.receivedSize < active.size) then .sizeMismatch
      else .hardError reason
  | none =>
      if answers.receivedSize ≠ active.size then .sizeMismatch
      else if config.enableIntegrityCheck ∧ sourceHash.isSome ∧ sourceHash ≠ some answers.receivedHash then
        .hashMismatch
      else
        match answers.publish with
        | some reason => .hardError reason
        | none => .success

/-- The last part of `commit`, once the committed file is known to be the active one. -/
def settle (config : SessionConfig) (answers : DiskAnswers) (ndx : Ndx) (active : ActiveFile)
    (sourceHash : Option SourceHash) : Committed :=
  match finalizeFile config answers active sourceHash with
  | .success => ⟨.completed, [.fileOutcome ndx .success], []⟩
  | outcome => ⟨.failed, [.fileOutcome ndx outcome], []⟩

/-- A commit names the active file, its path and its mode. -/
def Commits (active : ActiveFile) (ndx : Ndx) (entry : ObservedEntry) (mode : FileTransferMode) : Prop :=
  active.ndx = ndx ∧ active.path = entry.path ∧ active.mode.transferMode = mode

instance (active : ActiveFile) (ndx : Ndx) (entry : ObservedEntry) (mode : FileTransferMode) :
    Decidable (Commits active ndx entry mode) :=
  inferInstanceAs (Decidable (_ ∧ _))

def commit (config : SessionConfig) (answers : DiskAnswers) (state : FileCommitState) (ndx : Ndx)
    (entry : ObservedEntry) (sourceHash : Option SourceHash) (expectedMode : FileTransferMode) : Committed :=
  match state with
  | .fullActive active =>
      if Commits active ndx entry expectedMode then settle config answers ndx active sourceHash
      else state.ignore
  | .deltaActive active =>
      if Commits active ndx entry expectedMode then
        match flushBasis answers active with
        | .error reason => fail ndx (stageError "basis read" reason) []
        | .ok flushed => settle config answers ndx flushed sourceHash
      else state.ignore
  | _ => state.ignore

/-- An active file is discarded; any other state is forgotten. -/
def abort (_ : FileCommitState) : Committed := ⟨.idle, [], []⟩

def createDir (state : FileCommitState) (entry : ObservedEntry) : Committed :=
  ⟨state, [.entry (.entrySuccess entry)],
    [⟨.createDirectory, entry.path⟩, ⟨.setMetadata, metadataPath entry⟩]⟩

def createSymlink (answers : DiskAnswers) (state : FileCommitState) (entry : ObservedEntry) : Committed :=
  ⟨state,
    [.entry (match answers.createSymlink with
      | none => .entrySuccess entry
      | some reason => .entryError entry reason)],
    [⟨.createSymlink, entry.path⟩]⟩

def writeDeleteMarker (answers : DiskAnswers) (state : FileCommitState) (ndx : Ndx)
    (entry : ObservedItem) : Committed :=
  match answers.plan, answers.writeDeleteMarker with
  | some reason, _ => ⟨state, [.fileOutcome ndx (.hardError reason)], []⟩
  | none, some reason =>
      ⟨state, [.fileOutcome ndx (.hardError reason)], [⟨.writeDeleteMarker, entry.entry.path⟩]⟩
  | none, none => ⟨state, [.fileOutcome ndx .success], [⟨.writeDeleteMarker, entry.entry.path⟩]⟩

/-- One message of `disk_commit_task`; `Shutdown` ends it. -/
def dispatch (config : SessionConfig) (answers : DiskAnswers) (state : FileCommitState) :
    DiskCommitMsg → Committed
  | .createDir entry => state.createDir entry
  | .createSymlink entry _ => createSymlink answers state entry
  | .writeDeleteMarker ndx entry => writeDeleteMarker answers state ndx entry
  | .fileBegin ndx entry => begin answers state ndx entry none
  | .fileChunk ndx chunk => pushFull answers state ndx chunk
  | .fileCommit ndx entry sourceHash => commit config answers state ndx entry sourceHash .full
  | .deltaBegin ndx entry blockSize => begin answers state ndx (.ofEntry entry) (some blockSize)
  | .deltaMatch entry blockIndex => pushDelta answers state entry (.matchBlock blockIndex)
  | .deltaData entry data => pushDelta answers state entry (.data data)
  | .deltaCommit ndx entry sourceHash => commit config answers state ndx entry sourceHash .delta
  | .abortFile => state.abort
  | .shutdown => state.abort

end FileCommitState

end Terrasync.App
