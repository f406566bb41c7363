import Mathlib.Algebra.GroupWithZero.Nat
import Mathlib.Data.Char
import Mathlib.Data.List.Lex
import Mathlib.Data.List.Sort
import Terrasync.Lib.Replacing
import Terrasync.Observation
import Terrasync.Scan.ChangeDetection

/-! One batch of `NativeScanAccess::compare` with the queries it asks: the range of the
batch over the staged keys, and the confirmation of the items that missed, by key groups
or by the range again. A query is answered in any order of rows. -/

set_option autoImplicit false

namespace Terrasync.Scan.BatchQueries

open ChangeDetection (ScanRowFields)
open Lib (surviving latest)
open SyncDelta (Bytes)

/-! ### Observations and their identities -/

structure ObservedEntry where
  observed : EntryFacts
  backendKind : BackendKind
  /-- `source_identity().stable_bytes()`. -/
  stableBytes : Option Bytes
  identityKey : Bytes
deriving DecidableEq

structure ObservedItem where
  entry : ObservedEntry
  versionIndex : Option Nat
deriving DecidableEq

namespace ObservedItem

def all (entry : ObservedEntry) : List ObservedItem :=
  match entry.observed.history with
  | none => [⟨entry, none⟩]
  | some records => (List.range records.length).map fun index => ⟨entry, some index⟩

def view (item : ObservedItem) : ObservedView := ⟨item.entry.observed, item.versionIndex⟩

end ObservedItem

abbrev Key := RelativePath × List Char

def ObservedItem.key (item : ObservedItem) : Key := (item.view.pathKey, item.view.versionId)

def persistedIdentityPrefix : List Char := ['5', '4', '5', '3', '4', '9', '3', '4']

def hasCrossScanIdentity (entry : ObservedEntry) : Bool :=
  decide (entry.backendKind ≠ .local) && entry.stableBytes.isSome

def hexDigits : List Char :=
  ['0', '1', '2', '3', '4', '5', '6', '7', '8', '9', 'a', 'b', 'c', 'd', 'e', 'f']

def hexByte (byte : UInt8) : List Char :=
  [hexDigits.getD (byte >>> 4).toNat '0', hexDigits.getD (byte &&& 15).toNat '0']

def encodedFileHandle (entry : ObservedEntry) : Option (List Char) :=
  if hasCrossScanIdentity entry then
    some (persistedIdentityPrefix ++ entry.identityKey.flatMap hexByte)
  else none

/-! ### Tables -/

/-- A base row in the scope of the job. `live` and `active` are the conditions of the store. -/
structure StoredRow where
  fields : ScanRowFields
  fileHandle : Option (List Char)
  live : Bool
  active : Bool
deriving DecidableEq, Repr

def StoredRow.key (row : StoredRow) : Key := (row.fields.relativePath, row.fields.versionId)

/-- `NativeScanKey`. -/
structure NativeScanKey where
  key : Key
  fileHandle : Option (List Char)
deriving DecidableEq, Repr

def NativeScanKey.capture (item : ObservedItem) : NativeScanKey :=
  ⟨item.key, encodedFileHandle item.entry⟩

/-- The base table in insertion order, and the keys staged for the batch. -/
structure Tables where
  base : List StoredRow
  stage : List NativeScanKey

/-- A row of the comparison queries. -/
structure Baseline where
  fields : ScanRowFields
  identityChanged : Bool
  previousGeneration : Bool
deriving DecidableEq, Repr

def Baseline.key (row : Baseline) : Key := (row.fields.relativePath, row.fields.versionId)

/-- `startsWith(ifNull(file_handle,''), …)`. -/
def StoredRow.typed (row : StoredRow) : Bool :=
  persistedIdentityPrefix.isPrefixOf (row.fileHandle.getD [])

/-- The `identity_changed` column. -/
def identityChanged (stage : List NativeScanKey) (byHandle : Bool) (row : StoredRow) : Bool :=
  byHandle && row.typed &&
    stage.any (fun staged => decide (staged.key = row.key) && staged.fileHandle.isSome) &&
    !stage.any fun staged => decide (staged.key = row.key ∧ staged.fileHandle = row.fileHandle) &&
      staged.fileHandle.isSome

def Tables.baseline (tables : Tables) (byHandle : Bool) (row : StoredRow) : Baseline :=
  ⟨row.fields, identityChanged tables.stage byHandle row, !row.active⟩

inductive Query where
  /-- `baselines`. -/
  | range (first last : RelativePath) (byHandle : Bool)
  /-- One group of `confirm_paths`. -/
  | sparse (keys : List Key) (byHandle : Bool)
deriving DecidableEq, Repr

def Tables.staged (tables : Tables) (key : Key) : Bool :=
  tables.stage.any fun staged => staged.key = key

/-- The rows of a query. `PREWHERE` filters before `FINAL`, `WHERE` after it; a key has one
row under `FINAL`, so `LIMIT 1 BY` keeps them all. -/
def Tables.rows (tables : Tables) : Query → List Baseline
  | .range first last byHandle =>
      ((surviving StoredRow.key tables.base).filter fun row => row.live &&
        decide (first ≤ row.fields.relativePath ∧ row.fields.relativePath ≤ last) &&
          tables.staged row.key).map (tables.baseline byHandle)
  | .sparse keys byHandle =>
      ((surviving StoredRow.key (tables.base.filter fun row => decide (row.key ∈ keys))).filter
        StoredRow.live).map (tables.baseline byHandle)

/-- The displaced rows: of an earlier generation, with another staged handle. -/
def Tables.displaced (tables : Tables) (first last : RelativePath) : List StoredRow :=
  (surviving StoredRow.key tables.base).filter fun row => row.live && !row.active &&
    decide (first ≤ row.fields.relativePath ∧ row.fields.relativePath ≤ last) &&
    row.fileHandle.isSome && row.typed &&
    tables.stage.any fun staged => decide (staged.key = row.key) && staged.fileHandle.isSome &&
      decide (staged.fileHandle ≠ row.fileHandle)

/-- Which of the queries of a comparison is asked; `position` counts those of one list. -/
inductive Ask where
  | batch
  | paths (position : Nat)
  | identities (position : Nat)
deriving DecidableEq, Repr

/-- What the database returned. -/
structure Answers where
  rows : Ask → Query → List Baseline
  displaced : RelativePath → RelativePath → List StoredRow

/-! ### The comparison -/

inductive ObservedScanEvent where
  | changed (item : ObservedItem) (kind : ChangeKind)
  | new (item : ObservedItem)
  | candidate (item : ObservedItem)
deriving DecidableEq

structure ComparedBatch where
  events : List ObservedScanEvent
  displaced : List StoredRow
deriving DecidableEq

/-- `baseline_index`: of two rows with one key the last is found. -/
def baselineIndex (rows : List Baseline) (key : Key) : Option Baseline := latest Baseline.key rows key

def sparseKeyBytes : Nat := 16384

/-- `saturating_add` on `usize`. -/
def saturatingAdd (left right : Nat) : Nat := min (left + right) (2 ^ 64 - 1)

section Compare

-- the hexadecimal digest of `blake3`; the length the client writes a key with
variable (blake3Hex : Bytes → List Char) (encodedBytes : Key → Nat)

/-- The loop of `sparse_key_group_end` over the keys from `start` on: how many fit. -/
def groupLength (taken bytes : Nat) : List Key → Nat
  | [] => taken
  | key :: rest =>
      let next := saturatingAdd (encodedBytes key) (if 0 < taken then 1 else 0)
      if sparseKeyBytes < saturatingAdd bytes next then taken
      else groupLength (taken + 1) (bytes + next) rest

/-- `sparse_key_group_end`, less `start`. -/
def sparseKeyGroup (keys : List Key) : Nat := groupLength encodedBytes 0 2 keys

/-- The loop of `confirm_paths` over the keys left; a key too long for a group falls back
to the range. -/
def confirmGroups (ask : Nat → Query → List Baseline) (range : Query) (byHandle : Bool) (position : Nat)
    (keys : List Key) (rows : List Baseline) : List Baseline :=
  match keys with
  | [] => rows
  | key :: rest =>
      let size := sparseKeyGroup encodedBytes (key :: rest)
      if 0 < size then
        confirmGroups ask range byHandle (position + 1) ((key :: rest).drop size)
          (rows ++ ask position (.sparse ((key :: rest).take size) byHandle))
      else ask position range
termination_by keys.length

def directLimit (byHandle : Bool) : Nat := if byHandle then 1024 else 256

def confirmPaths (ask : Nat → Query → List Baseline) (missing : List ObservedItem)
    (first last : RelativePath) (byHandle : Bool) : List Baseline :=
  if directLimit byHandle < missing.length then ask 0 (.range first last byHandle)
  else confirmGroups encodedBytes ask (.range first last byHandle) byHandle 0
    (missing.map ObservedItem.key) []

/-- `Baseline::change`, as the event it gives. -/
def Baseline.event (old : Baseline) (item : ObservedItem) : Option ObservedScanEvent :=
  (ChangeDetection.Baseline.change blake3Hex old.fields item.view).map (.changed item)

/-- The locals of the first loop. -/
structure Work where
  events : List ObservedScanEvent
  absent : List ObservedItem
  pathOnly : List ObservedItem
  hasDisplaced : Bool

def Work.item (byPath : Key → Option Baseline) (byHandle : Bool) (work : Work) (item : ObservedItem) :
    Work :=
  match byPath item.key with
  | some old =>
      if byHandle && old.identityChanged then
        { work with
          hasDisplaced := work.hasDisplaced || old.previousGeneration
          absent := if hasCrossScanIdentity item.entry then work.absent ++ [item] else work.absent }
      else { work with events := work.events ++ (old.event blake3Hex item).toList }
  | none =>
      if byHandle then
        if hasCrossScanIdentity item.entry then { work with absent := work.absent ++ [item] }
        else { work with pathOnly := work.pathOnly ++ [item] }
      else { work with pathOnly := work.pathOnly ++ [item] }

/-- The loop over `path_only`. -/
def pathEvent (checked : Key → Option Baseline) (item : ObservedItem) : Option ObservedScanEvent :=
  match checked item.key with
  | some old => old.event blake3Hex item
  | none => some (.new item)

/-- The loop over `absent`. -/
def absentEvent (rechecked : Key → Option Baseline) (item : ObservedItem) : Option ObservedScanEvent :=
  match rechecked item.key with
  | some old => if old.identityChanged then some (.candidate item) else old.event blake3Hex item
  | none => some (.candidate item)

/-- The rows that make `absent` items displace something. -/
def displaces (rechecked : Key → Option Baseline) (item : ObservedItem) : Bool :=
  (rechecked item.key).any fun old => old.identityChanged && old.previousGeneration

/-- `NativeScanAccess::compare`; `none` stands for the index panic of a batch without any
path. -/
def compare (typedHandles : Bool) (answers : Answers) (entries : List ObservedEntry) :
    Option ComparedBatch :=
  if entries = [] then some ⟨[], []⟩
  else
    let items := entries.flatMap ObservedItem.all
    let paths := (items.map fun item => item.view.pathKey).insertionSort (· ≤ ·)
    let byHandle := typedHandles && entries.any fun entry =>
      (ObservedItem.all entry).any fun item => hasCrossScanIdentity item.entry
    match paths.head?, paths.getLast? with
    | some first, some last =>
        let byPath := baselineIndex (answers.rows .batch (.range first last byHandle))
        let work := items.foldl (Work.item blake3Hex byPath byHandle) ⟨[], [], [], false⟩
        let checked := baselineIndex <|
          confirmPaths encodedBytes (fun position => answers.rows (.paths position)) work.pathOnly
            first last false
        let rechecked := baselineIndex <|
          confirmPaths encodedBytes (fun position => answers.rows (.identities position)) work.absent
            first last true
        some {
          events := work.events ++ work.pathOnly.filterMap (pathEvent blake3Hex checked) ++
            work.absent.filterMap (absentEvent blake3Hex rechecked)
          displaced :=
            if work.hasDisplaced || work.absent.any (displaces rechecked) then
              answers.displaced first last
            else [] }
    | _, _ => none

end Compare

end Terrasync.Scan.BatchQueries
