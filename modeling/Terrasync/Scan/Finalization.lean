import Terrasync.Scan.FinalEvents

/-! Finalisation of a scan round against the tables: the final events are resolved,
written in batches, the rows they replace are deleted, and the candidates cleaned. -/

set_option autoImplicit false

namespace Terrasync.Scan

/-- What the tables hold for a round when its observations are complete. -/
structure RoundTables where
  /-- Live base rows that are not of the working generation. -/
  previous : List EntrySummary
  /-- Live base rows of the working generation, counted per handle. -/
  liveCounts : FileHandle → Option Nat
  displaced : List EntrySummary
  candidates : List EntrySummary
  history : List FinalHistory

namespace RoundTables

/-- The old rows, completed by displaced rows that are not among them. -/
def oldRows (tables : RoundTables) : List EntrySummary :=
  tables.displaced.foldl (fun known row => if row ∈ known then known else known ++ [row])
    tables.previous

def membership (tables : RoundTables) : List FileHandle :=
  tables.candidates.filterMap EntrySummary.fileHandle

def typedCandidates (tables : RoundTables) : Bool :=
  tables.candidates.any fun row => row.fileHandle.isSome

/-- A record of a decision or deletion whose handle some candidate carries. -/
def concernsCandidate (tables : RoundTables) (row : FinalHistory) : Bool :=
  (row.operationType = .new || row.operationType = .deleted || row.operationType = .rename) &&
    tables.membership.any fun handle => row.fileHandle = some handle

def readHistory (tables : RoundTables) : List FinalHistory :=
  match tables.typedCandidates, tables.oldRows.isEmpty with
  | true, true => tables.history.filter tables.concernsCandidate
  | true, false =>
      tables.history.filter fun row =>
        tables.concernsCandidate row || row.operationType = .rename
  | false, false => tables.history.filter fun row => row.operationType = .rename
  | false, true => []

/-- The handles known to have had an original path. -/
def originalHandles (tables : RoundTables) : List FileHandle :=
  tables.oldRows.filterMap EntrySummary.fileHandle ++
    (tables.readHistory.filter fun row =>
      row.operationType = .deleted || row.operationType = .rename).filterMap FinalHistory.fileHandle

/-- Live paths are counted only when a candidate can match an original. -/
def activeCounts (tables : RoundTables) (handle : FileHandle) : Option Nat :=
  if tables.membership.any (fun carried => tables.originalHandles.contains carried) then
    if handle ∈ tables.membership then tables.liveCounts handle else none
  else none

def finalEvents (tables : RoundTables) : Except DatabaseError (List ScanFinalEvent) :=
  resolveFinalEvents tables.oldRows tables.candidates tables.readHistory tables.activeCounts

end RoundTables

/-- `final_event_records`. -/
def ScanFinalEvent.record (event : ScanFinalEvent) : FinalHistory where
  operationType := event.operation
  relativePath := event.item.relativePath
  versionId := event.item.versionId
  fileHandle := event.item.fileHandle
  comment := event.previousPath

namespace RoundTables

def writeFinalEvents (events : List ScanFinalEvent) (tables : RoundTables) : RoundTables :=
  { tables with history := tables.history ++ events.map ScanFinalEvent.record }

/-- `delete_resume_entries`: rows of the previous generation only. -/
def deleteResumeEntries (keys : List PathKey) (tables : RoundTables) : RoundTables :=
  { tables with previous := tables.previous.filter fun row => row.pathKey ∉ keys }

def flushFinalEvents (events : List ScanFinalEvent) (tables : RoundTables) : RoundTables :=
  (tables.writeFinalEvents events).deleteResumeEntries
    (events.filterMap ScanFinalEvent.deletionKey)

def cleanupCandidates (tables : RoundTables) : RoundTables :=
  { tables with candidates := [], displaced := [] }

/-- One event of the finalisation loop, with the batch collected so far. -/
def finalizeEvent (batchSize : Nat) (progress : RoundTables × List ScanFinalEvent)
    (event : ScanFinalEvent) : RoundTables × List ScanFinalEvent :=
  if batchSize ≤ (progress.2 ++ [event]).length then
    (progress.1.flushFinalEvents (progress.2 ++ [event]), [])
  else (progress.1, progress.2 ++ [event])

def finalizeEvents (batchSize : Nat) (tables : RoundTables) : Except DatabaseError RoundTables := do
  let events ← tables.finalEvents
  let progress := events.foldl (finalizeEvent batchSize) (tables, [])
  return (progress.1.flushFinalEvents progress.2).cleanupCandidates

end RoundTables

end Terrasync.Scan
