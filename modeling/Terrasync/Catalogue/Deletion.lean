import Mathlib.Data.List.Sort
import Terrasync.DatabaseError
import Terrasync.Lib.Blocks
import Terrasync.Lib.Replacing
import Terrasync.Observation
import Terrasync.SyncDelta.Rolling

/-! Deletion and rename classification of a catalogue, `deletion.rs`, over the stored
rows of a base table in the order they were inserted. The handle query reads the stored
rows without `FINAL` and shows one of them for each path and version. Snapshots belong to
the storage engine, and their decoding is a parameter. -/

set_option autoImplicit false

namespace Terrasync.Catalogue.Deletion

open Lib (blocks latest surviving)
open SyncDelta (Bytes)

abbrev FileHandle := List Char

/-- The columns of a stored row that classification reads. -/
structure StorageEntryRecord where
  relativePath : RelativePath
  versionId : List Char
  ctime : Int
  currentState : Nat
  fileHandle : Option FileHandle
  entrySnapshot : Bytes
deriving DecidableEq, Repr

abbrev RecordKey := RelativePath × List Char

def StorageEntryRecord.key (record : StorageEntryRecord) : RecordKey :=
  (record.relativePath, record.versionId)

inductive DeletionStatus (Entry : Type) where
  | deleted (entry : Entry)
  | renamed (source target : Entry)
deriving DecidableEq, Repr

/-! ### Queries -/

/-- `ORDER BY relative_path, version_id`. -/
def pathOrder (first second : StorageEntryRecord) : Prop :=
  first.relativePath < second.relativePath ∨
    first.relativePath = second.relativePath ∧ ¬second.versionId < first.versionId

instance : DecidableRel pathOrder := fun _ _ => inferInstanceAs (Decidable (_ ∨ _))

/-- `build_detect_deleted_sql`: the current rows of the previous generation. -/
def detectDeletedQuery (base : List StorageEntryRecord) (working : Nat) : List StorageEntryRecord :=
  ((surviving StorageEntryRecord.key base).filter fun record =>
    record.currentState = 1 - working).insertionSort pathOrder

/-- `ORDER BY file_handle, ctime, version_id`. -/
def handleOrder (first second : StorageEntryRecord) : Prop :=
  first.fileHandle.getD [] < second.fileHandle.getD [] ∨
    first.fileHandle = second.fileHandle ∧
      (first.ctime < second.ctime ∨
        first.ctime = second.ctime ∧ ¬second.versionId < first.versionId)

instance : DecidableRel handleOrder := fun _ _ => inferInstanceAs (Decidable (_ ∨ _))

/-- `LIMIT 1 BY (relative_path, version_id)`. -/
def limitOneByKey : List StorageEntryRecord → List StorageEntryRecord
  | [] => []
  | record :: rest => record :: (limitOneByKey rest).filter fun later => later.key ≠ record.key

/-- `build_batch_fh_query_sql` for one batch of handles. -/
def batchFhQuery (base : List StorageEntryRecord) (handles : List FileHandle) :
    List StorageEntryRecord :=
  limitOneByKey ((base.filter fun record => record.fileHandle.any (· ∈ handles)).insertionSort handleOrder)

/-! ### Classification -/

section Classification

variable {Entry : Type} (toObservation : StorageEntryRecord → Except DatabaseError Entry)

/-- The loop body of `classify_deletion_status` for a record with a handle. Three rows or
more are only reported in the log. -/
def classifyRecord (fhGroups : FileHandle → Option (List StorageEntryRecord))
    (record : StorageEntryRecord) : Except DatabaseError (Option (DeletionStatus Entry)) := do
  match record.fileHandle with
  | none => return some (.deleted (← toObservation record))
  | some handle =>
      match fhGroups handle with
      | some [_] => return some (.deleted (← toObservation record))
      | some [first, second] =>
          if first.relativePath = record.relativePath then
            return some (.renamed (← toObservation first) (← toObservation second))
          else return some (.renamed (← toObservation second) (← toObservation first))
      | some _ => return none
      | none => return some (.deleted (← toObservation record))

def classifyDeletionStatus (noFhRecords fhRecords : List StorageEntryRecord)
    (fhGroups : FileHandle → Option (List StorageEntryRecord)) :
    Except DatabaseError (List (DeletionStatus Entry)) := do
  let deleted ← noFhRecords.mapM fun record => return .deleted (← toObservation record)
  let classified ← fhRecords.mapM (classifyRecord toObservation fhGroups)
  return deleted ++ classified.reduceOption

def batchSize : Nat := 10000

/-- The distinct handles, in the order in which the hash set yields them. -/
def uniqueFhList (hashOrder : FileHandle → Nat) (fhRecords : List StorageEntryRecord) : List FileHandle :=
  (fhRecords.filterMap StorageEntryRecord.fileHandle).dedup.insertionSort fun first second =>
    hashOrder first ≤ hashOrder second

/-- The rows shown for a handle over all batches. -/
def shown (base : List StorageEntryRecord) (handles : List FileHandle) (handle : FileHandle) :
    List StorageEntryRecord :=
  ((blocks batchSize handles).flatMap (batchFhQuery base)).filter fun row => row.fileHandle = some handle

/-- A handle without rows has no group. -/
def fhGroups (base : List StorageEntryRecord) (handles : List FileHandle) (handle : FileHandle) :
    Option (List StorageEntryRecord) :=
  if shown base handles handle = [] then none else some (shown base handles handle)

def noFhRecords (rows : List StorageEntryRecord) : List StorageEntryRecord :=
  rows.filter fun record => record.fileHandle.isNone

def fhRecords (rows : List StorageEntryRecord) : List StorageEntryRecord :=
  rows.filter fun record => record.fileHandle.isSome

def classifyDeletedCandidates (hashOrder : FileHandle → Nat) (base rows : List StorageEntryRecord) :
    Except DatabaseError (List (DeletionStatus Entry)) :=
  classifyDeletionStatus toObservation (noFhRecords rows) (fhRecords rows)
    (fhGroups base (uniqueFhList hashOrder (fhRecords rows)))

end Classification

end Terrasync.Catalogue.Deletion
