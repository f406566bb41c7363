import Terrasync.Catalogue.BaseTable
import Terrasync.DatabaseError

/-! Copy generations of a catalogue, and the classification of rows that the working
generation did not reach. -/

set_option autoImplicit false

namespace Terrasync.Catalogue

/-- The row of the state table with id 1. -/
structure CopyState where
  scanState : Nat
  baselineCommitted : Bool
  copyInProgress : Bool
  copyRequestKey : List Char
deriving DecidableEq, Repr

/-- What the process that runs a generation keeps in memory. -/
structure ScanGenerationLifecycle where
  working : Nat
  committed : Bool
  copyRecovery : Bool
deriving DecidableEq, Repr

structure GenerationTables where
  base : BaseTable
  state : CopyState
deriving DecidableEq, Repr

/-- `initialize`: an empty base table and generation 0, without a baseline. -/
def GenerationTables.initial : GenerationTables := ⟨[], ⟨0, false, false, []⟩⟩

namespace BaseTable

/-- `ALTER TABLE … UPDATE current_state = previous WHERE current_state != previous`. -/
def relabel (previous : Nat) (table : BaseTable) : BaseTable :=
  table.map fun record => { record with currentState := previous }

/-- The rows that `FINAL` shows. -/
def finalRows : BaseTable → BaseTable
  | [] => []
  | record :: rest =>
      if rest.any fun later => later.key = record.key then finalRows rest
      else record :: finalRows rest

def rowLe (first second : NativeScanRecord) : Bool :=
  first.relativePath < second.relativePath ||
    (first.relativePath = second.relativePath && first.versionId ≤ second.versionId)

/-- `build_detect_deleted_sql`: rows of the previous generation, by path and version. -/
def oldRows (table : BaseTable) (working : Nat) : List NativeScanRecord :=
  (table.finalRows.filter fun record => record.currentState = 1 - working).mergeSort rowLe

/-- `LIMIT 1 BY (relative_path, version_id)`. -/
def limitOneByKey : List NativeScanRecord → List NativeScanRecord
  | [] => []
  | record :: rest => record :: (limitOneByKey rest).filter fun later => later.key ≠ record.key

/-- `build_batch_fh_query_sql` for one handle. It reads stored rows without `FINAL`, in
the order of their creation times. -/
def handleGroup (ctime : ObservedItem → Int) (table : BaseTable) (handle : List Char) :
    List NativeScanRecord :=
  limitOneByKey ((table.filter fun record => record.fileHandle = some handle).mergeSort
    fun first second => ctime first.view < ctime second.view ||
      (ctime first.view = ctime second.view && first.versionId ≤ second.versionId))

end BaseTable

/-- `to_observation`: the snapshot of a version holds that version alone. -/
def NativeScanRecord.toObservation (record : NativeScanRecord) : ObservedEntry :=
  match record.view.versionIndex with
  | none => record.view.entry
  | some _ => { record.view.entry with history := record.view.version.map fun version => [version] }

inductive DeletionStatus where
  | deleted (entry : ObservedEntry)
  | renamed (fromEntry toEntry : ObservedEntry)
deriving DecidableEq, Repr

/-- The path whose rows the message of a status removes. -/
def DeletionStatus.deletedPath : DeletionStatus → RelativePath
  | .deleted entry => entry.path
  | .renamed fromEntry _ => fromEntry.path

/-- One record of `classify_deletion_status`. Three or more paths of one handle are
only reported in the log. -/
def classifyDeletion (ctime : ObservedItem → Int) (table : BaseTable)
    (record : NativeScanRecord) : Option DeletionStatus :=
  match record.fileHandle with
  | none => some (.deleted record.toObservation)
  | some handle =>
      match table.handleGroup ctime handle with
      | [] => some (.deleted record.toObservation)
      | [_] => some (.deleted record.toObservation)
      | [first, second] =>
          if first.relativePath = record.relativePath then
            some (.renamed first.toObservation second.toObservation)
          else some (.renamed second.toObservation first.toObservation)
      | _ => none

/-- Rows without a handle come first. -/
def classifyDeletedCandidates (ctime : ObservedItem → Int) (table : BaseTable)
    (rows : List NativeScanRecord) : List DeletionStatus :=
  (rows.filter fun record => record.fileHandle.isNone).filterMap (classifyDeletion ctime table) ++
    (rows.filter fun record => record.fileHandle.isSome).filterMap (classifyDeletion ctime table)

/-- `replayed_paths`. -/
def isReplayed (table : BaseTable) (working : Nat) (path : RelativePath) : Bool :=
  table.finalRows.any fun record => record.currentState = working ∧ record.relativePath = path

def firstOfPath : List NativeScanRecord → List NativeScanRecord
  | [] => []
  | record :: rest =>
      record :: (firstOfPath rest).filter fun later => later.relativePath ≠ record.relativePath

/-- The versions of replayed paths that this round did not reach. -/
def retiredKeys (table : BaseTable) (rows : List NativeScanRecord) (working : Nat) : List RowKey :=
  (rows.filter fun record => isReplayed table working record.relativePath).map NativeScanRecord.key

def retireCopyVersions (table : BaseTable) (working : Nat) (keys : List RowKey) : BaseTable :=
  table.filter fun record => ¬(record.currentState ≠ working ∧ record.key ∈ keys)

/-- `copy_recovery_deletions`: versions of replayed paths are retired at once, the
other paths are reported as deleted. -/
def copyRecoveryDeletions (table : BaseTable) (rows : List NativeScanRecord) (working : Nat) :
    BaseTable × List DeletionStatus :=
  (retireCopyVersions table working (retiredKeys table rows working),
    (firstOfPath (rows.filter fun record => !isReplayed table working record.relativePath)).map
      fun record => .deleted record.toObservation)

/-- `detect_deleted_items`: the table after retired versions, and the statuses. -/
def detectDeletedItems (ctime : ObservedItem → Int) (table : BaseTable)
    (lifecycle : ScanGenerationLifecycle) : BaseTable × List DeletionStatus :=
  let rows := table.oldRows lifecycle.working
  if lifecycle.copyRecovery then copyRecoveryDeletions table rows lifecycle.working
  else (table, classifyDeletedCandidates ctime table rows)

/-- Whether the last copy must be recovered, once the request is allowed to. -/
def checkCopyRequest (tables : GenerationTables) (requestKey : List Char) :
    Except DatabaseError Bool :=
  if requestKey = [] then
    .error (.configError "copy generation requires a source/destination recovery binding")
  else if 1 < tables.state.scanState then
    .error (.conversionError s!"Invalid copy generation {tables.state.scanState}; expected 0 or 1")
  else
    let recovering := tables.state.copyInProgress ||
      (!tables.state.baselineCommitted && !tables.base.isEmpty)
    if recovering ∧ (tables.state.copyRequestKey = [] ∨ tables.state.copyRequestKey ≠ requestKey) then
      .error (.configError "incomplete copy belongs to unknown or different source/destination/options; restore the original settings or choose a new job id")
    else .ok recovering

/-- The first write of `begin_copy_generation`. -/
def rebaseRecovering (tables : GenerationTables) (recovering : Bool) : GenerationTables :=
  if recovering then { tables with base := tables.base.relabel tables.state.scanState } else tables

/-- The second write of `begin_copy_generation`, and the lifecycle it opens. -/
def openGeneration (tables : GenerationTables) (requestKey : List Char) (recovering : Bool) :
    GenerationTables × ScanGenerationLifecycle :=
  ({ tables with state := ⟨1 - tables.state.scanState, false, true, requestKey⟩ },
    ⟨1 - tables.state.scanState, false, recovering⟩)

def beginCopyGeneration (tables : GenerationTables) (requestKey : List Char) :
    Except DatabaseError (GenerationTables × ScanGenerationLifecycle) := do
  let recovering ← checkCopyRequest tables requestKey
  return openGeneration (rebaseRecovering tables recovering) requestKey recovering

/-- The state row is written with the defaults of the copy columns. -/
def commitScanGeneration (tables : GenerationTables) :
    Option ScanGenerationLifecycle →
      Except DatabaseError (GenerationTables × ScanGenerationLifecycle)
  | none => .error (.transactionError "Cannot commit scan generation before begin")
  | some lifecycle =>
      if lifecycle.committed then .ok (tables, lifecycle)
      else .ok ({ tables with state := ⟨lifecycle.working, true, false, []⟩ },
        { lifecycle with committed := true, copyRecovery := false })

end Terrasync.Catalogue
