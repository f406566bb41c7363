import Mathlib.Algebra.Order.Ring.Int
import Mathlib.Data.List.Basic
import Terrasync.DatabaseError
import Terrasync.Lib.Machine
import Terrasync.Lib.Replacing

/-! The event table of a catalogue: rows are replaced by operation, path and time, and both
writers of a scan round invent the time. A call may end before all of its rows are stored. -/

set_option autoImplicit false

namespace Terrasync.Catalogue.EventLog

open Lib (surviving latest)

abbrev Text := List Char

/-- What tells events apart. -/
structure EventId where
  operationType : Text
  relativePath : Text
  versionId : Text
deriving DecidableEq, Repr

/-- `IncrementalStorageEntryRecord`; `columns` are all the others. -/
structure IncrementalStorageEntryRecord (Columns : Type) where
  operationType : Text
  relativePath : Text
  versionId : Text
  createAt : Int
  columns : Columns
deriving DecidableEq, Repr

section Log

variable {Columns : Type}

namespace IncrementalStorageEntryRecord

def id (record : IncrementalStorageEntryRecord Columns) : EventId :=
  ⟨record.operationType, record.relativePath, record.versionId⟩

/-- The sorting key of the table. -/
def key (record : IncrementalStorageEntryRecord Columns) : Text × Text × Int :=
  (record.operationType, record.relativePath, record.createAt)

end IncrementalStorageEntryRecord

abbrev EventTable (Columns : Type) := List (IncrementalStorageEntryRecord Columns)

/-- `checked_add(1)` on a time in nanoseconds. -/
def nextTime (time : Int) : Except DatabaseError Int :=
  if time + 1 < 2 ^ 63 then .ok (time + 1)
  else .error (.conversionError "Scan event timestamp overflow")

/-- The greatest of the times, if there are any. -/
def maxTime (times : List Int) (default : Int) : Int := times.max?.getD default

/-- `resume_event_epoch`. -/
def resumeEventEpoch (now : Int) (table : EventTable Columns) : Except DatabaseError Int := do
  let after ← nextTime (maxTime (table.map IncrementalStorageEntryRecord.createAt) 0)
  return max now after

/-- The rows of the round for the paths of the records. -/
def existing (time : Int) (table records : EventTable Columns) : EventTable Columns :=
  (surviving IncrementalStorageEntryRecord.key table).filter fun row =>
    decide (time ≤ row.createAt) && (records.map IncrementalStorageEntryRecord.relativePath).contains row.relativePath

def existingTimes (rows : EventTable Columns) : List (EventId × Int) := rows.map fun row => (row.id, row.createAt)

/-- The loop of `write_native_events`: `next` is the last time handed out. -/
def stampNative (times : List (EventId × Int)) (next : Int) :
    EventTable Columns → Except DatabaseError (EventTable Columns)
  | [] => .ok []
  | record :: rest =>
      match latest Prod.fst times record.id with
      | some known => do
          let stamped ← stampNative times next rest
          return { record with createAt := known.2 } :: stamped
      | none => do
          let time ← nextTime next
          let stamped ← stampNative (times ++ [(record.id, time)]) time rest
          return { record with createAt := time } :: stamped

/-- The loop of `write_resume_events`: `next` is the time to hand out. -/
def stampResume (times : List (EventId × Int)) (next : Int) :
    EventTable Columns → Except DatabaseError (EventTable Columns)
  | [] => .ok []
  | record :: rest =>
      match latest Prod.fst times record.id with
      | some known => do
          let stamped ← stampResume times next rest
          return { record with createAt := known.2 } :: stamped
      | none => do
          let after ← nextTime next
          let stamped ← stampResume (times ++ [(record.id, next)]) after rest
          return { record with createAt := next } :: stamped

/-- The rows that `write_native_events` inserts. -/
def nativeEvents (time : Int) (table records : EventTable Columns) : Except DatabaseError (EventTable Columns) :=
  if records.isEmpty then .ok []
  else
    let rows := existing time table records
    stampNative (existingTimes rows) (maxTime (rows.map IncrementalStorageEntryRecord.createAt) time) records

/-- The rows that `write_resume_events` inserts for the records of its messages. -/
def resumeEvents (time : Int) (table records : EventTable Columns) : Except DatabaseError (EventTable Columns) := do
  let rows := existing time table records
  let next ← nextTime (maxTime (rows.map IncrementalStorageEntryRecord.createAt) time)
  stampResume (existingTimes rows) next records

/-- The rows of an insert that are stored. -/
def storedOf (kept : List Bool) (rows : EventTable Columns) : EventTable Columns :=
  ((rows.zip kept).filter Prod.snd).map Prod.fst

/-- Rows that `cleanup_candidates` removes. -/
def isTransient (row : IncrementalStorageEntryRecord Columns) : Bool :=
  row.operationType = "candidate_new".toList || row.operationType = "displaced_old".toList

inductive LogAction (Columns : Type) where
  /-- A call of `write_native_events` of which these rows are stored; after a crash, not all. -/
  | native (records : EventTable Columns) (kept : List Bool)
  | resume (records : EventTable Columns) (kept : List Bool)
  /-- Some or all of the candidates of the round are deleted. -/
  | cleanup (removed : IncrementalStorageEntryRecord Columns → Bool)

def step (time : Int) (table : EventTable Columns) : LogAction Columns → Option (EventTable Columns)
  | .native records kept =>
      match nativeEvents time table records with
      | .error _ => none
      | .ok stamped => some (table ++ storedOf kept stamped)
  | .resume records kept =>
      match resumeEvents time table records with
      | .error _ => none
      | .ok stamped => some (table ++ storedOf kept stamped)
  | .cleanup removed =>
      some (table.filter fun row => !(decide (time ≤ row.createAt) && isTransient row && removed row))

/-- A scan round whose events are not before `time`. -/
def log (time : Int) : Lib.Machine (EventTable Columns) (LogAction Columns) := ⟨step time⟩

end Log

end Terrasync.Catalogue.EventLog
