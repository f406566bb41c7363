import Terrasync.Observation
import Terrasync.SyncDelta.Signature

/-! Messages of the per-file transfer phase (`message.rs`), the stream each of them
travels on (`mux.rs`), and the two tables a receiver keeps: session indices and the
destination index of one page. -/

set_option autoImplicit false

namespace Terrasync.Transport

open SyncDelta (Bytes BlockSignature)

/-- Session index of an advertised item, an `i32`. -/
abbrev Ndx := Int

structure NdxEntry where
  ndx : Ndx
  entry : ObservedItem
deriving DecidableEq, Repr

structure DirPageResult where
  dirPath : RelativePath
  ndxStart : Ndx
  files : List NdxEntry
  subdirs : List NdxEntry
  gapNdx : Ndx
deriving DecidableEq, Repr

inductive TransferDecision where
  | fullTransfer
  | deltaTransfer
  | metadataOnly
  | skip
  | deleted
deriving DecidableEq, Repr

structure DataChunk where
  offset : Nat
  data : Bytes
deriving DecidableEq, Repr

/-- Hexadecimal digest of a source file. -/
abbrev SourceHash := List Char

inductive SenderMsg where
  | filePage (page : DirPageResult)
  | fileListError (path : RelativePath) (reason : String)
  | fileListDone
  | createDir (entry : ObservedEntry)
  | createSymlink (entry : ObservedEntry) (target : List Char)
  | fileBegin (ndx : Ndx)
  | writeDeleteMarker (ndx : Ndx)
  | fileData (ndx : Ndx) (chunk : DataChunk)
  | endOfFile (ndx : Ndx) (sourceHash : Option SourceHash)
  | deltaData (ndx : Ndx) (data : Bytes)
  | deltaMatch (ndx : Ndx) (blockIndex : UInt32)
  | setAcl (entry : ObservedEntry) (aclData : Bytes)
  | entryError (path : RelativePath) (reason : String) (ndx : Option Ndx)
  | transferDone
deriving DecidableEq, Repr

inductive ReceiverMsg where
  | transferRequest (ndx : Ndx) (decision : TransferDecision)
  | deltaTransferRequest (ndx : Ndx) (blockSize : UInt32) (signatures : List BlockSignature)
  | requestsDone
  | classified (entry : ObservedEntry) (decision : TransferDecision)
  | classifiedObservation (ndx : Ndx) (decision : TransferDecision)
  | entrySuccess (entry : ObservedEntry)
  | entryError (entry : ObservedEntry) (reason : String)
  | success (ndx : Ndx)
  | redo (ndx : Ndx)
  | error (ndx : Ndx) (reason : String)
  | creditGrant (bytes : Nat)
  | allDone
deriving DecidableEq, Repr

inductive TransferMode where
  | checkpoint
  | atomic
  | direct
deriving DecidableEq, Repr

/-- `peakQosRate` is an `f32`, by its bits. -/
structure SessionConfig where
  transferMode : TransferMode
  srcPath : String
  qos : Option String
  peakQosRate : UInt32
  iops : Option UInt32
  enableIntegrityCheck : Bool
  enableAcl : Bool
  isSourceReserved : Bool
  blockSize : Option String
  deleteTarget : Bool
  deltaSizeThreshold : Option String
deriving DecidableEq, Repr

/-- A copy without limits and without checks. -/
def SessionConfig.plain : SessionConfig where
  transferMode := .atomic
  srcPath := ""
  qos := none
  peakQosRate := 0
  iops := none
  enableIntegrityCheck := false
  enableAcl := false
  isSourceReserved := false
  blockSize := none
  deleteTarget := false
  deltaSizeThreshold := none

inductive StreamKind where
  | control
  | fileList
  | data
  | ackProgress
deriving DecidableEq, Repr

def senderStreamKind : SenderMsg → StreamKind
  | .transferDone | .entryError .. => .control
  | .filePage _ | .fileListError .. | .fileListDone => .fileList
  | .createDir _ | .createSymlink .. | .writeDeleteMarker _ | .fileBegin _ | .fileData ..
  | .endOfFile .. | .deltaData .. | .deltaMatch .. | .setAcl .. => .data

def receiverStreamKind : ReceiverMsg → StreamKind
  | .transferRequest .. | .deltaTransferRequest .. | .classified .. | .classifiedObservation ..
  | .requestsDone => .fileList
  | .entrySuccess _ | .entryError .. | .success _ | .redo _ | .error .. | .allDone
  | .creditGrant _ => .ackProgress

/-- `credit_cost`: only payload bytes are charged. -/
def creditCost : SenderMsg → Option Nat
  | .fileData _ chunk => some chunk.data.length
  | .deltaData _ data => some data.length
  | _ => none

inductive FileOutcome where
  | success
  | hashMismatch
  | sizeMismatch
  | hardError (reason : String)
deriving DecidableEq, Repr

inductive DiskCommitMsg where
  | createDir (entry : ObservedEntry)
  | createSymlink (entry : ObservedEntry) (target : List Char)
  | writeDeleteMarker (ndx : Ndx) (entry : ObservedItem)
  | fileBegin (ndx : Ndx) (entry : ObservedItem)
  | fileChunk (ndx : Ndx) (chunk : DataChunk)
  | fileCommit (ndx : Ndx) (entry : ObservedEntry) (sourceHash : Option SourceHash)
  | deltaBegin (ndx : Ndx) (entry : ObservedEntry) (blockSize : UInt32)
  | deltaData (entry : ObservedEntry) (data : Bytes)
  | deltaMatch (entry : ObservedEntry) (blockIndex : UInt32)
  | deltaCommit (ndx : Ndx) (entry : ObservedEntry) (sourceHash : Option SourceHash)
  | abortFile
  | shutdown
deriving DecidableEq, Repr

inductive DcAck where
  | entry (ack : ReceiverMsg)
  | fileOutcome (ndx : Ndx) (outcome : FileOutcome)
deriving DecidableEq, Repr

/-- The items advertised in one session, by index; a later insertion replaces an
earlier one. -/
structure NdxTable where
  entries : List (Ndx × ObservedItem)
deriving DecidableEq, Repr

namespace NdxTable

def new : NdxTable := ⟨[]⟩

def insert (table : NdxTable) (numbered : NdxEntry) : NdxTable :=
  ⟨(numbered.ndx, numbered.entry) :: table.entries.filter fun entry => entry.1 ≠ numbered.ndx⟩

def ingestPage (table : NdxTable) (page : DirPageResult) : NdxTable :=
  page.subdirs.foldl insert (page.files.foldl insert table)

def get (table : NdxTable) (ndx : Ndx) : Option ObservedItem :=
  table.entries.lookup ndx

@[simp] theorem get_new (ndx : Ndx) : new.get ndx = none := rfl

theorem get_insert (table : NdxTable) (numbered : NdxEntry) (ndx : Ndx) :
    (table.insert numbered).get ndx = if ndx = numbered.ndx then some numbered.entry else table.get ndx := by
  unfold insert get
  by_cases same : ndx = numbered.ndx
  · simp [same]
  · rw [List.lookup_cons, if_neg same]
    have distinct : (ndx == numbered.ndx) = false := by simpa using same
    simp only [distinct]
    induction table.entries with
    | nil => rfl
    | cons entry rest ih =>
        by_cases replaced : entry.1 = numbered.ndx
        · have other : (ndx == entry.1) = false := by simpa [replaced] using same
          rw [List.filter_cons_of_neg (by simpa using replaced), List.lookup_cons, other]
          exact ih
        · rw [List.filter_cons_of_pos (by simpa using replaced), List.lookup_cons, List.lookup_cons]
          split
          · rfl
          · exact ih

/-- Advertised items of a page, in the order they are ingested. -/
theorem ingestPage_eq (table : NdxTable) (page : DirPageResult) :
    table.ingestPage page = (page.files ++ page.subdirs).foldl insert table := by
  rw [List.foldl_append]
  rfl

end NdxTable

/-- The destination entries of one page with their match flags; files and logical
directories of the same path have separate slots. -/
structure DestIndex where
  files : List (ObservedEntry × Bool)
  directories : List (ObservedEntry × Bool)
deriving DecidableEq, Repr

namespace DestIndex

abbrev Slot := List (ObservedEntry × Bool)

def new : DestIndex := ⟨[], []⟩

/-- `index_slot`: logical directories go to their own slot. -/
def slot (index : DestIndex) (entry : ObservedEntry) : Slot :=
  if entry.kind = .directory then index.directories else index.files

def setSlot (index : DestIndex) (entry : ObservedEntry) (slot : Slot) : DestIndex :=
  if entry.kind = .directory then { index with directories := slot } else { index with files := slot }

def find (slot : Slot) (path : RelativePath) : Option (ObservedEntry × Bool) :=
  slot.find? fun keyed => keyed.1.path = path

/-- Set the match flag of a path. -/
def mark (slot : Slot) (path : RelativePath) : Slot :=
  slot.map fun keyed => if keyed.1.path = path then (keyed.1, true) else keyed

def insert (index : DestIndex) (entry : ObservedEntry) : DestIndex :=
  index.setSlot entry ((index.slot entry).filter (fun keyed => keyed.1.path ≠ entry.path) ++ [(entry, false)])

/-- `data_check`: modification time and size. -/
def dataCheck (source destination : ObservedEntry) : Bool :=
  source.getMtime = destination.getMtime ∧ source.getSize = destination.getSize

/-- `metadata_check`: backend, ownership and tags. -/
def metadataCheck (source destination : ObservedEntry) : Bool :=
  source.backendKind = destination.backendKind ∧
    source.metadata.ownershipMode = destination.metadata.ownershipMode ∧
    source.metadata.tags = destination.metadata.tags

def check (index : DestIndex) (source : ObservedEntry) : DestIndex × TransferDecision :=
  match find (index.slot source) source.path with
  | none => (index, .fullTransfer)
  | some (destination, _) =>
      let decision :=
        if dataCheck source destination then
          if metadataCheck source destination then .skip else .metadataOnly
        else .deltaTransfer
      (index.setSlot source (mark (index.slot source) source.path), decision)

/-- `names_directory_object`: the object key of a directory ends in a slash. -/
def namesDirectoryObject (path : RelativePath) : Bool := path.getLast? = some '/'

/-- `current_zero_object`, as the tags of the version found: the latest version of a
directory object, if it is empty. -/
def currentZeroObject (entry : ObservedEntry) : Option (Option (List ObjectTag)) :=
  if entry.kind = .directory ∨ namesDirectoryObject entry.path then
    ((entry.history.getD []).find? fun record =>
      record.isLatest ∧ !record.isDeleteMarker ∧ record.size = some 0).map fun record =>
        record.metadata.bind MetadataObservations.tags
  else none

/-- Object key of the marker of a directory. -/
def markerPath (directory : ObservedEntry) : RelativePath :=
  match directory.directoryMarkerObject with
  | some marker => marker.path
  | none => directory.path ++ ['/']

/-- `current_directory_marker`, as the tags of the marker found. -/
def currentDirectoryMarker (index : DestIndex) (source : ObservedEntry) :
    Option (Option (List ObjectTag)) :=
  let fromDirectory :=
    (find index.directories source.path).bind fun keyed =>
      (keyed.1.directoryMarkerObject.map MarkerObject.tags).or (currentZeroObject keyed.1)
  let fromObject :=
    (find index.files (markerPath source)).bind fun keyed => currentZeroObject keyed.1
  fromDirectory.or fromObject

def hasDirectoryMarker (index : DestIndex) (entry : ObservedEntry) : Bool :=
  (index.currentDirectoryMarker entry).isSome

def checkDirectoryMarker (index : DestIndex) (source : ObservedEntry) (copyTags : Bool) :
    TransferDecision :=
  match source.directoryMarkerObject with
  | none => .skip
  | some marker =>
      match index.currentDirectoryMarker source with
      | none => .fullTransfer
      | some tags =>
          if !copyTags ∨ marker.tags = none ∨ marker.tags = tags then .skip else .fullTransfer

def markDirectoryObjectMatched (index : DestIndex) (directory : ObservedEntry) : DestIndex :=
  { index with files := mark index.files (markerPath directory) }

def markMatched (index : DestIndex) (source : ObservedEntry) : DestIndex :=
  let already := ((find (index.slot source) source.path).map Prod.snd).getD false
  let marked := index.setSlot source (mark (index.slot source) source.path)
  if !already ∧ source.kind = .directory ∧
      (source.directoryMarkerObject.isSome ∨ source.history.isSome) then
    marked.markDirectoryObjectMatched source
  else marked

def orphanedEntries (index : DestIndex) : List ObservedEntry :=
  ((index.files ++ index.directories).filter fun keyed => !keyed.2).map Prod.fst

end DestIndex

end Terrasync.Transport
