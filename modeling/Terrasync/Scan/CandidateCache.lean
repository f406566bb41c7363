import Mathlib.Data.List.Dedup
import Mathlib.Data.List.Sort
import Terrasync.Lib.Machine
import Terrasync.Lib.Replacing
import Terrasync.Scan.ChangeDetection
import Terrasync.Scan.FinalEvents

/-! The cached candidates of a round (`candidate_cache.rs`, `candidate_rows`): the digests
that candidate rows leave in the base table, the tables with their later writes, and the
two ways to read the candidates back. Columns that no query here reads are left out. -/

set_option autoImplicit false

namespace Terrasync.Scan.CandidateCache

open ChangeDetection (toLeBytes)
open Lib (surviving latest firsts)
open SyncDelta (Bytes)

/-! ### Rows and their digests -/

/-- A string column; its byte length is a `u64`. -/
structure Text where
  bytes : Bytes
  fits : bytes.length < 2 ^ 64
deriving DecidableEq

structure EntrySummary where
  name : Text
  relativePath : Text
  size : UInt64
  ext : Option Text
  ctime : Int64
  mtime : Int64
  atime : Int64
  mode : Option UInt32
  storageType : Text
  isSymlink : Bool
  isDir : Bool
  isRegularFile : Bool
  hardLinks : UInt32
  currentState : UInt8
  uid : Option UInt32
  gid : Option UInt32
  ino : Option UInt64
  fileHandle : Option Text
  versionId : Text
  tags : Option Text
  markerState : Option Text
deriving DecidableEq

abbrev Key := Text × Text

def EntrySummary.key (row : EntrySummary) : Key := (row.relativePath, row.versionId)

/-- Equal but for the generation. -/
def EntrySummary.SameColumns (row other : EntrySummary) : Prop :=
  { row with currentState := other.currentState } = other

instance (row other : EntrySummary) : Decidable (row.SameColumns other) :=
  inferInstanceAs (Decidable (_ = _))

def hashText (text : Text) : Bytes := toLeBytes 8 text.bytes.length ++ text.bytes

def hashOption {Field : Type} (hashField : Field → Bytes) : Option Field → Bytes
  | none => [0]
  | some value => 1 :: hashField value

def hashBool (value : Bool) : Bytes := [if value then 1 else 0]

def hashU32 (value : UInt32) : Bytes := toLeBytes 4 value.toNat

def hashU64 (value : UInt64) : Bytes := toLeBytes 8 value.toNat

def hashI64 (value : Int64) : Bytes := toLeBytes 8 value.toUInt64.toNat

/-- The domain `terrasync scan event metadata v1`, with a zero byte after it. -/
def hashDomain : Bytes :=
  [0x74, 0x65, 0x72, 0x72, 0x61, 0x73, 0x79, 0x6e, 0x63, 0x20, 0x73, 0x63, 0x61, 0x6e, 0x20, 0x65, 0x76, 0x65,
    0x6e, 0x74, 0x20, 0x6d, 0x65, 0x74, 0x61, 0x64, 0x61, 0x74, 0x61, 0x20, 0x76, 0x31, 0x00]

/-- What `scan_metadata_hash` digests: everything but the generation. -/
def EntrySummary.hashed (row : EntrySummary) : Bytes :=
  hashDomain ++ (hashText row.name ++ (hashText row.relativePath ++ (hashU64 row.size ++
    (hashOption hashText row.ext ++ (hashI64 row.ctime ++ (hashI64 row.mtime ++ (hashI64 row.atime ++
      (hashOption hashU32 row.mode ++ (hashText row.storageType ++ (hashBool row.isSymlink ++
        (hashBool row.isDir ++ (hashBool row.isRegularFile ++ (hashU32 row.hardLinks ++
          (hashOption hashU32 row.uid ++ (hashOption hashU32 row.gid ++ (hashOption hashU64 row.ino ++
            (hashOption hashText row.fileHandle ++ (hashText row.versionId ++
              (hashOption hashText row.tags ++ hashOption hashText row.markerState)))))))))))))))))))

/-! ### The tables -/

structure BaseRow where
  record : EntrySummary
  metadataHash : Option (List Char)
  /-- Zero in the table of a single job; the version of a row otherwise. -/
  epoch : Nat
  isDeleted : Bool
deriving DecidableEq

def BaseRow.key (row : BaseRow) : Key := row.record.key

/-- The rows `FINAL` shows: for each key the one of the greatest epoch, inserted last. -/
def finalRows (rows : List BaseRow) : List BaseRow :=
  surviving BaseRow.key (rows.insertionSort fun first second => first.epoch ≤ second.epoch)

structure EventRow where
  operationType : OperationType
  createAt : Int
  epoch : Nat
  record : EntrySummary
deriving DecidableEq

/-- Where the catalogue is kept, with its working generation or epoch. -/
inductive Deployment where
  | single (generation : UInt8)
  | cluster (epoch : Nat)
deriving DecidableEq, Repr

namespace Deployment

/-- `active` and `live`. -/
def shows : Deployment → BaseRow → Bool
  | single generation, row => row.record.currentState = generation
  | cluster epoch, row => row.epoch = epoch && !row.isDeleted

/-- The sorting key of the event table. -/
def eventKey : Deployment → EventRow → OperationType × Text × (Int ⊕ Nat × Text)
  | single _, row => (row.operationType, row.record.relativePath, .inl row.createAt)
  | cluster _, row => (row.operationType, row.record.relativePath, .inr (row.epoch, row.record.versionId))

end Deployment

/-! ### Writes to the base table -/

section Digests

-- the hexadecimal digest of `blake3`
variable (blake3Hex : Bytes → List Char)

def EntrySummary.scanMetadataHash (row : EntrySummary) : List Char := blake3Hex row.hashed

/-- `CandidateMetadataCache::apply`, for the keys of the candidate events. -/
def apply (candidates : List Key) (epoch : Nat) (row : EntrySummary) : BaseRow :=
  ⟨row, if row.key ∈ candidates then some (row.scanMetadataHash blake3Hex) else none, epoch, false⟩

structure BaseTable where
  rows : List BaseRow
  /-- The rows of the last checkpoint. -/
  cut : List BaseRow

inductive BaseAction where
  /-- `write_native_candidates`; an ordinary write has no candidates. -/
  | write (candidates : List Key) (epoch : Nat) (records : List EntrySummary)
  /-- An update of `current_state`. -/
  | relabel (matching : BaseRow → Bool) (currentState : UInt8)
  | delete (matching : BaseRow → Bool)
  /-- Rows under newer tombstones, whose digest column is not written. -/
  | tombstone (epoch : Nat) (keys : List Key)
  | checkpoint
  | restore

def BaseTable.step (table : BaseTable) : BaseAction → Option BaseTable
  | .write candidates epoch records =>
      some { table with rows := table.rows ++ records.map (apply blake3Hex candidates epoch) }
  | .relabel matching currentState =>
      some { table with
        rows := table.rows.map fun row =>
          if matching row then { row with record := { row.record with currentState } } else row }
  | .delete matching => some { table with rows := table.rows.filter fun row => !matching row }
  | .tombstone epoch keys =>
      let removed := (finalRows table.rows).filter fun row =>
        !row.isDeleted && row.epoch ≠ epoch && row.key ∈ keys
      some { table with rows := table.rows ++ removed.map fun row => ⟨row.record, none, epoch, true⟩ }
  | .checkpoint => some { table with cut := table.rows }
  | .restore => some { table with rows := table.cut }

def baseMachine : Lib.Machine BaseTable BaseAction := ⟨BaseTable.step blake3Hex⟩

/-! ### Reading the candidates back -/

structure CandidateReference where
  key : Key
  currentState : UInt8
  metadataHash : Option (List Char)

def BaseRow.reference (row : BaseRow) : CandidateReference :=
  ⟨row.key, row.record.currentState, row.metadataHash⟩

/-- A cached row whose reference carries its digest, with the generation of the reference. -/
def verifiedRow (references : List CandidateReference) (row : EntrySummary) : Option EntrySummary :=
  match latest CandidateReference.key references row.key with
  | none => none
  | some reference =>
      if reference.metadataHash = some (row.scanMetadataHash blake3Hex) then
        some { row with currentState := reference.currentState }
      else none

/-- `verified_candidates`, without the cancellation that only ends it early. -/
def verifiedCandidates (cached : List EntrySummary) (references : List CandidateReference) :
    Option (List EntrySummary) :=
  if (cached.map EntrySummary.key).dedup.length ≠ cached.length ∨ references.length ≠ cached.length then none
  else if (references.map CandidateReference.key).dedup.length ≠ cached.length then none
  else cached.mapM (verifiedRow blake3Hex references)

end Digests

/-- The order of the string columns. -/
def KeyLe (first second : Key) : Prop :=
  first.1.bytes < second.1.bytes ∨ first.1.bytes = second.1.bytes ∧ ¬ second.2.bytes < first.2.bytes

instance : DecidableRel KeyLe := fun first second =>
  inferInstanceAs (Decidable (first.1.bytes < second.1.bytes ∨ _ ∧ ¬ second.2.bytes < first.2.bytes))

def orderByKey (rows : List EntrySummary) : List EntrySummary :=
  rows.insertionSort fun first second => KeyLe first.key second.key

/-- `LIMIT 1 BY relative_path,version_id`. -/
def limitByKey (rows : List EntrySummary) : List EntrySummary := firsts EntrySummary.key rows

section Queries

variable (deployment : Deployment) (base : List BaseRow) (events : List EventRow) (time : Int)

/-- The candidates of the event log since the round began. -/
def cachedRows : List EntrySummary :=
  let logged := (surviving deployment.eventKey events).filter fun row =>
    decide (time ≤ row.createAt) && row.operationType = .candidateNew
  orderByKey (logged.map EventRow.record)

/-- The rows of the base table that both queries read. -/
def currentRows : List BaseRow :=
  (finalRows (base.filter fun row => row.key ∈ (cachedRows deployment events time).map EntrySummary.key)).filter
    deployment.shows

/-- The wide re-read. -/
def wideRows : List EntrySummary :=
  limitByKey (orderByKey ((currentRows deployment base events time).map BaseRow.record))

/-- `candidate_rows`, where the narrow query is answered with `references`. -/
def candidateRows (blake3Hex : Bytes → List Char) (references : List CandidateReference) : List EntrySummary :=
  let cached := cachedRows deployment events time
  if cached.isEmpty then []
  else (verifiedCandidates blake3Hex cached references).getD (wideRows deployment base events time)

end Queries

end Terrasync.Scan.CandidateCache
