import Mathlib.Data.List.Basic
import Mathlib.Logic.Function.Basic
import Terrasync.DatabaseError
import Terrasync.Observation

/-! Final events of a scan round. Candidates become additions or renames, rows of the
previous generation that no rename consumed become deletions. Decisions that were
recorded before an interruption take precedence over what is inferred again. -/

set_option autoImplicit false

namespace Terrasync.Scan

abbrev FileHandle := List Char

abbrev PathKey := RelativePath × List Char

/-- A queried row, with the columns final events are decided on. -/
structure EntrySummary where
  relativePath : RelativePath
  versionId : List Char
  fileHandle : Option FileHandle
deriving DecidableEq, Repr

def EntrySummary.pathKey (row : EntrySummary) : PathKey := (row.relativePath, row.versionId)

inductive ScanFinalEvent where
  | added (row : EntrySummary)
  | deleted (row : EntrySummary)
  | renamed (fromPath : RelativePath) (fromVersion : List Char) (target : EntrySummary)
deriving DecidableEq, Repr

inductive OperationType where
  | new
  | changed
  | deleted
  | rename
  | candidateNew
  | displacedOld
deriving DecidableEq, Repr

namespace ScanFinalEvent

def item : ScanFinalEvent → EntrySummary
  | added row => row
  | deleted row => row
  | renamed _ _ target => target

def operation : ScanFinalEvent → OperationType
  | added _ => .new
  | deleted _ => .deleted
  | renamed _ _ _ => .rename

def previousPath : ScanFinalEvent → Option RelativePath
  | renamed fromPath _ _ => some fromPath
  | _ => none

def deletionKey : ScanFinalEvent → Option PathKey
  | added _ => none
  | deleted row => some row.pathKey
  | renamed fromPath fromVersion _ => some (fromPath, fromVersion)

/-- The source of a rename. -/
def renameSource : ScanFinalEvent → Option PathKey
  | renamed fromPath fromVersion _ => some (fromPath, fromVersion)
  | _ => none

end ScanFinalEvent

structure FinalHistory where
  operationType : OperationType
  relativePath : RelativePath
  versionId : List Char
  fileHandle : Option FileHandle
  comment : Option RelativePath
deriving DecidableEq, Repr

inductive RecordedDecision where
  | added
  | renamed (fromPath : RelativePath) (fromVersion : List Char)
deriving DecidableEq, Repr

/-- What the old rows and the recorded history say: the original paths of each handle,
the decisions already recorded for a path, and the sources of recorded renames. -/
structure Evidence where
  originals : FileHandle → List PathKey
  decisions : PathKey → Option RecordedDecision
  renamedSources : List PathKey

namespace Evidence

def noteOriginal (handle : Option FileHandle) (key : PathKey) (evidence : Evidence) : Evidence :=
  match handle with
  | some handle =>
      { evidence with
        originals := Function.update evidence.originals handle
          ((evidence.originals handle).insert key) }
  | none => evidence

def noteDecision (key : PathKey) (decision : RecordedDecision) (evidence : Evidence) : Evidence :=
  { evidence with decisions := Function.update evidence.decisions key (some decision) }

def noteSource (key : PathKey) (evidence : Evidence) : Evidence :=
  { evidence with renamedSources := evidence.renamedSources.insert key }

def ofOld (old : List EntrySummary) : Evidence :=
  old.foldl (fun evidence row => evidence.noteOriginal row.fileHandle row.pathKey)
    ⟨fun _ => [], fun _ => none, []⟩

def record (evidence : Evidence) (row : FinalHistory) : Except DatabaseError Evidence :=
  match row.operationType with
  | .new => .ok (evidence.noteDecision (row.relativePath, row.versionId) .added)
  | .deleted => .ok (evidence.noteOriginal row.fileHandle (row.relativePath, row.versionId))
  | .rename =>
      match row.comment with
      | none => .error (.conversionError "Recorded rename lacks source path")
      | some fromPath =>
          .ok (((evidence.noteOriginal row.fileHandle (fromPath, row.versionId)).noteSource
            (fromPath, row.versionId)).noteDecision (row.relativePath, row.versionId)
              (.renamed fromPath row.versionId))
  | .changed => .ok evidence
  | .candidateNew => .ok evidence
  | .displacedOld => .ok evidence

/-- A rename is inferred for a handle with one original path and one live current path. -/
def inferred (evidence : Evidence) (activeCounts : FileHandle → Option Nat) (row : EntrySummary) :
    Option RecordedDecision :=
  row.fileHandle.bind fun handle =>
    match evidence.originals handle with
    | [(path, version)] =>
        if activeCounts handle = some 1 then some (.renamed path version) else none
    | _ => none

def decision (evidence : Evidence) (activeCounts : FileHandle → Option Nat) (row : EntrySummary) :
    RecordedDecision :=
  ((evidence.decisions row.pathKey).or (evidence.inferred activeCounts row)).getD .added

end Evidence

def announce (row : EntrySummary) : RecordedDecision → ScanFinalEvent
  | .added => .added row
  | .renamed fromPath fromVersion => .renamed fromPath fromVersion row

def resolveFinalEvents (old candidates : List EntrySummary) (history : List FinalHistory)
    (activeCounts : FileHandle → Option Nat) : Except DatabaseError (List ScanFinalEvent) := do
  let evidence ← history.foldlM Evidence.record (Evidence.ofOld old)
  let announced := candidates.map fun row => announce row (evidence.decision activeCounts row)
  let renamedSources := evidence.renamedSources ++ announced.filterMap ScanFinalEvent.renameSource
  return announced ++
    (old.filter fun row => row.pathKey ∉ renamedSources).map ScanFinalEvent.deleted

end Terrasync.Scan
