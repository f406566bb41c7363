import Mathlib.Data.Char
import Mathlib.Data.List.Sort
import Terrasync.Catalogue.BaseTable
import Terrasync.Event
import Terrasync.Lib.Machine
import Terrasync.Lib.Replacing
import Terrasync.Scan.ChangeDetection
import Terrasync.Scan.FinalEvents

/-! The batches of an incremental round: a batch is sorted, compared with the base rows of
its keys, its events and the rows it displaces are logged, and its observations become the
base rows. A candidate that the metadata cache confirms is the base row itself. -/

set_option autoImplicit false

namespace Terrasync.Scan

open Catalogue (BaseTable NativeScanRecord)
open Lib (latest surviving)
open SyncDelta (Bytes)

/-- `has_cross_scan_identity`. -/
def hasCrossScanIdentity (entry : ObservedEntry) : Bool := entry.fileHandle.isSome

def itemKey (item : ObservedItem) : PathKey := (item.pathKey, item.versionId)

inductive ObservedScanEvent where
  | changed (item : ObservedItem) (kind : ChangeKind)
  | new (item : ObservedItem)
  | candidate (item : ObservedItem)
deriving DecidableEq, Repr

/-- One row of the event table of the round. -/
structure EventRecord where
  operation : OperationType
  view : ObservedItem
  comment : Option RelativePath
deriving DecidableEq, Repr

def EventRecord.key (record : EventRecord) : OperationType × PathKey :=
  (record.operation, itemKey record.view)

/-- `event_record`. -/
def ObservedScanEvent.record : ObservedScanEvent → EventRecord
  | .changed item _ => ⟨.changed, item, none⟩
  | .new item => ⟨.new, item, none⟩
  | .candidate item => ⟨.candidateNew, item, none⟩

/-- `NativeScanKey`: what a batch stages of an observation. -/
structure StagedKey where
  key : PathKey
  fileHandle : Option FileHandle
deriving DecidableEq, Repr

def stage (items : List ObservedItem) : List StagedKey :=
  items.map fun item => ⟨itemKey item, item.entry.fileHandle⟩

/-- `Baseline::change` on the row captured from an observation. -/
def change (blake3Hex : Bytes → List Char) (old item : ObservedItem) : Option ChangeKind :=
  ChangeDetection.Baseline.change blake3Hex (.capture blake3Hex old.view) item.view

/-- The round's working generation, whether the base holds typed handles, and the tables. -/
structure ScanRound where
  generation : Nat
  typedHandles : Bool
  base : BaseTable
  events : List EventRecord

structure ComparedBatch where
  events : List ObservedScanEvent
  displaced : List NativeScanRecord

/-- The row has a handle, the batch staged handles for its key, and none is the row's. -/
def identityChanged (staged : List StagedKey) (row : NativeScanRecord) : Bool :=
  row.fileHandle.isSome &&
    staged.any (fun other => other.key = row.key && other.fileHandle.isSome) &&
    !staged.any fun other => other.key = row.key && other.fileHandle = row.fileHandle

namespace ScanRound

def previousGeneration (round : ScanRound) (row : NativeScanRecord) : Bool :=
  row.currentState ≠ round.generation

/-- A live row of another identity at the item's key. -/
def changedAt (round : ScanRound) (byHandle : Bool) (items : List ObservedItem) (item : ObservedItem) :
    Option NativeScanRecord :=
  (round.base.row (itemKey item)).filter fun old => byHandle && identityChanged (stage items) old

section Compare

-- the hexadecimal digest of `blake3`
variable (blake3Hex : Bytes → List Char)

def changeOf (old : NativeScanRecord) (item : ObservedItem) : Option ObservedScanEvent :=
  (change blake3Hex old.view item).map (.changed item)

/-- Items whose row shows the same identity. -/
def compareDirect (round : ScanRound) (byHandle : Bool) (items : List ObservedItem) :
    List ObservedScanEvent :=
  items.filterMap fun item =>
    match round.base.row (itemKey item) with
    | some old => if (round.changedAt byHandle items item).isSome then none else changeOf blake3Hex old item
    | none => none

/-- `path_only`: no row, and no identity to look for. -/
def comparePaths (round : ScanRound) (byHandle : Bool) (items : List ObservedItem) :
    List ObservedScanEvent :=
  (items.filter fun item => (round.base.row (itemKey item)).isNone &&
    !(byHandle && hasCrossScanIdentity item.entry)).filterMap fun item =>
      match round.base.row (itemKey item) with
      | some old => changeOf blake3Hex old item
      | none => some (.new item)

/-- `absent`: no row of the identity; the paths are looked up once more. -/
def compareAbsent (round : ScanRound) (byHandle : Bool) (items : List ObservedItem) :
    List ObservedScanEvent :=
  (items.filter fun item =>
    ((round.base.row (itemKey item)).isNone && byHandle ||
      (round.changedAt byHandle items item).isSome) && hasCrossScanIdentity item.entry).filterMap
    fun item =>
      match round.base.row (itemKey item) with
      | some old =>
          if identityChanged (stage items) old then some (.candidate item) else changeOf blake3Hex old item
      | none => some (.candidate item)

/-- Some item meets a row of the previous generation with another identity. -/
def hasDisplaced (round : ScanRound) (byHandle : Bool) (items : List ObservedItem) : Bool :=
  items.any fun item => (round.changedAt byHandle items item).any round.previousGeneration

/-- The rows of the previous generation at staged keys with a different staged handle. -/
def displacedRows (round : ScanRound) (items : List ObservedItem) : List NativeScanRecord :=
  (surviving NativeScanRecord.key round.base).filter fun row =>
    round.previousGeneration row && row.fileHandle.isSome &&
      (stage items).any fun other => other.key = row.key && other.fileHandle.isSome &&
        decide (other.fileHandle ≠ row.fileHandle)

/-- `NativeScanAccess::compare`. -/
def compare (round : ScanRound) (items : List ObservedItem) : ComparedBatch :=
  let byHandle := round.typedHandles && items.any fun item => hasCrossScanIdentity item.entry
  { events := round.compareDirect blake3Hex byHandle items ++
      round.comparePaths blake3Hex byHandle items ++ round.compareAbsent blake3Hex byHandle items
    displaced := if round.hasDisplaced byHandle items then round.displacedRows items else [] }

end Compare

end ScanRound

def sortBatch (batch : List ObservedEntry) : List ObservedEntry :=
  batch.mergeSort fun first second => decide (first.path ≤ second.path)

/-- The observations of a batch, in the order they are written. -/
def batchItems (batch : List ObservedEntry) : List ObservedItem :=
  (sortBatch batch).flatMap ObservedItem.all

namespace ScanRound

/-- The comparison is logged, then the observations become base rows. -/
def flushItems (blake3Hex : Bytes → List Char) (round : ScanRound) (items : List ObservedItem) :
    ScanRound :=
  let compared := round.compare blake3Hex items
  { round with
    events := round.events ++ compared.displaced.map (fun row => ⟨.displacedOld, row.view, none⟩) ++
      compared.events.map ObservedScanEvent.record
    base := round.base.insertViews round.generation items }

/-- `flush_batch` of an incremental round. -/
def flushBatch (blake3Hex : Bytes → List Char) (round : ScanRound) (batch : List ObservedEntry) :
    ScanRound :=
  if batch = [] then round else round.flushItems blake3Hex (batchItems batch)

/-- The rows that `FINAL` shows of one kind of event. -/
def logged (round : ScanRound) (operation : OperationType) : List EventRecord :=
  (surviving EventRecord.key round.events).filter fun record => record.operation = operation

end ScanRound

def summaryOf (item : ObservedItem) : EntrySummary :=
  ⟨item.pathKey, item.versionId, item.entry.fileHandle⟩

namespace ScanRound

def liveRows (round : ScanRound) : List NativeScanRecord :=
  surviving NativeScanRecord.key round.base

/-- Old rows, and the displaced rows that are not among them. -/
def oldRows (round : ScanRound) : List EntrySummary :=
  ((round.logged .displacedOld).map fun record => summaryOf record.view).foldl
    (fun known row => if row ∈ known then known else known ++ [row])
    ((round.liveRows.filter round.previousGeneration).map fun row => summaryOf row.view)

/-- `candidate_rows`: the current rows of the logged candidates. -/
def candidateRows (round : ScanRound) : List EntrySummary :=
  (round.liveRows.filter fun row => !round.previousGeneration row &&
    (round.logged .candidateNew).any fun record => itemKey record.view = row.key).map
      fun row => summaryOf row.view

def membership (round : ScanRound) : List FileHandle :=
  (round.logged .candidateNew).filterMap fun record => record.view.entry.fileHandle

def historyRow (record : EventRecord) : FinalHistory :=
  ⟨record.operation, record.view.pathKey, record.view.versionId, record.view.entry.fileHandle,
    record.comment⟩

def history (round : ScanRound) : List FinalHistory :=
  let concerns := fun (row : FinalHistory) =>
    row.fileHandle.any fun handle => handle ∈ round.membership
  let rows := fun operation => (round.logged operation).map historyRow
  match round.candidateRows.any fun row => row.fileHandle.isSome, round.oldRows.isEmpty with
  | true, true => (rows .new ++ rows .deleted ++ rows .rename).filter concerns
  | true, false => (rows .new ++ rows .deleted).filter concerns ++ rows .rename
  | false, false => rows .rename
  | false, true => []

/-- Live paths of the candidates' handles, counted if a candidate can match an original. -/
def activeCounts (round : ScanRound) (handle : FileHandle) : Option Nat :=
  let originals := round.oldRows.filterMap EntrySummary.fileHandle ++
    (round.history.filter fun row => row.operationType = .deleted || row.operationType = .rename).filterMap
      FinalHistory.fileHandle
  if round.candidateRows.any fun row => row.fileHandle.any fun carried => carried ∈ originals then
    if handle ∈ round.membership then
      match round.liveRows.countP fun row => !round.previousGeneration row && row.fileHandle = some handle with
      | 0 => none
      | count => some count
    else none
  else none

/-- `final_events`. -/
def finalEvents (round : ScanRound) : Except DatabaseError (List ScanFinalEvent) :=
  resolveFinalEvents round.oldRows round.candidateRows round.history round.activeCounts

end ScanRound

/-- The store that runs the round. -/
inductive StoreKind where
  | single
  | cluster
deriving DecidableEq, Repr

/-- A single store recognises typed handles in its base, a cluster always has them. -/
def StoreKind.typedHandles (kind : StoreKind) (base : BaseTable) : Bool :=
  match kind with
  | .single => base.any fun row => row.fileHandle.isSome
  | .cluster => true

def ScanRound.start (kind : StoreKind) (committed : BaseTable) (generation : Nat) : ScanRound where
  generation
  typedHandles := kind.typedHandles committed
  base := committed
  events := []

/-- A round of the machine whose actions are the batches. -/
def scanMachine (blake3Hex : Bytes → List Char) : Lib.Machine ScanRound (List ObservedEntry) :=
  ⟨fun round batch => some (round.flushBatch blake3Hex batch)⟩

end Terrasync.Scan
