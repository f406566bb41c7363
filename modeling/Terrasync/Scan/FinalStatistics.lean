import Mathlib.Data.Int.Init
import Terrasync.Lib.Lowercase
import Terrasync.Lib.Tally
import Terrasync.Scan.ChangeDetection

/-! The statistics at the end of a scan: `FullStats::update` item by item, the queries of
both stores over the base table, and `reconcile_scan_statistics`, which puts what a store
returns in the place of the live figures. Ages depend on the time of the query and are left
out; counts do not reach the width of their integers. -/

set_option autoImplicit false

namespace Terrasync.Scan.FinalStatistics

open Lib (CaseTables asciiLower toLowercase surviving newestRows table bump groups)

abbrev Text := List Char

/-! ### Paths -/

inductive Component where
  | rootDir
  | curDir
  | parentDir
  | normal (name : Text)
deriving DecidableEq, Repr

/-- A part of a path behind the first: empty parts and single dots are no components. -/
def component? (part : Text) : Option Component :=
  if part = [] ∨ part = ['.'] then none
  else if part = ['.', '.'] then some .parentDir
  else some (.normal part)

/-- `Path::components`. -/
def pathComponents (path : RelativePath) : List Component :=
  match path.splitOn '/' with
  | [] => []
  | first :: rest =>
      (if first = [] then if rest = [] then [] else [.rootDir]
      else if first = ['.'] then [.curDir]
      else (component? first).toList) ++ rest.filterMap component?

def pathFileName (path : RelativePath) : Option Text :=
  match (pathComponents path).getLast? with
  | some (.normal name) => some name
  | _ => none

/-- `Path::extension`: behind the last dot, unless the dot begins the name. -/
def pathExtension (path : RelativePath) : Option Text :=
  (pathFileName path).bind fun name =>
    let after := (name.reverse.takeWhile (· ≠ '.')).reverse
    if name.length ≤ after.length + 1 then none else some after

/-- The bytes of a string. -/
def byteLength (text : Text) : Nat := (text.map Char.utf8Size).sum

/-- `countMatches(…,'/')`. -/
def slashes (path : RelativePath) : Nat := path.count '/'

/-! ### Items -/

def getName (view : ObservedView) : Text := (pathFileName view.entry.path).getD []

def getExtension (view : ObservedView) : Option Text := pathExtension view.entry.path

def getSize (view : ObservedView) : Nat := view.getSize.toNat

def getIsSymlink (view : ObservedView) : Bool := view.entry.kind = .symlink

def getIsRegularFile (view : ObservedView) : Bool := view.entry.kind = .file

abbrev Key := RelativePath × Text

def itemKey (view : ObservedView) : Key := (view.pathKey, view.versionId)

/-- `ObservedView::all`. -/
def allViews (entry : EntryFacts) : List ObservedView :=
  match entry.history with
  | none => [⟨entry, none⟩]
  | some records => (List.range records.length).map fun index => ⟨entry, some index⟩

/-! ### The live figures -/

inductive FileSizeRange where
  | lessThan4K | between4KAnd64K | between64KAnd128K | between128KAnd256K | between256KAnd512K
  | between512KAnd1M | between1MAnd2M | between2MAnd16M | between16MAnd64M | between64MAnd128M
  | between128MAnd512M | over512M
deriving DecidableEq, Repr

def calculateFileSizeRange (size : Nat) : FileSizeRange :=
  if size < 4 * 1024 then .lessThan4K
  else if size < 64 * 1024 then .between4KAnd64K
  else if size < 128 * 1024 then .between64KAnd128K
  else if size < 256 * 1024 then .between128KAnd256K
  else if size < 512 * 1024 then .between256KAnd512K
  else if size < 1024 * 1024 then .between512KAnd1M
  else if size < 2 * 1024 * 1024 then .between1MAnd2M
  else if size < 16 * 1024 * 1024 then .between2MAnd16M
  else if size < 64 * 1024 * 1024 then .between16MAnd64M
  else if size < 128 * 1024 * 1024 then .between64MAnd128M
  else if size < 512 * 1024 * 1024 then .between128MAnd512M
  else .over512M

def calculateDepth (path : RelativePath) : Nat := max (pathComponents path).length 1

/-- `as i64`, and `toInt64` of a query. -/
def toInt64 (value : Nat) : Int64 := Int64.ofNat value

/-- Signed sums wrap. -/
instance wrappingSums : AddCommMonoid Int64 where
  add_assoc := Int64.add_assoc
  zero_add := Int64.zero_add
  add_zero := Int64.add_zero
  add_comm := Int64.add_comm
  nsmul := nsmulRec

/-- The entries of a hash map, by key. -/
abbrev Distribution (Name : Type) := Name → Option (Int64 × Nat)

/-- `FullStats`: the figures that the entries of a scan change. -/
structure FullStats where
  dirCount : Nat
  dirSize : Int64
  regularFileCount : Nat
  regularFileSize : Int64
  symlinkCount : Nat
  symlinkSize : Int64
  otherEntryCount : Nat
  otherEntrySize : Int64
  totalDirDepth : Int64
  maxDirDepth : Nat
  totalNameLength : Int64
  maxNameLength : Nat
  extensionStats : Distribution Text
  fileSizeRangeStats : Distribution FileSizeRange

namespace FullStats

def new : FullStats := ⟨0, 0, 0, 0, 0, 0, 0, 0, 0, 0, 0, 0, fun _ => none, fun _ => none⟩

section Update

variable (tables : CaseTables)

def updateDistributions (stats : FullStats) (view : ObservedView) (regular : Bool) : FullStats :=
  let size := toInt64 (getSize view)
  if regular then
    { stats with
      extensionStats :=
        match getExtension view with
        | some ext => bump stats.extensionStats (toLowercase tables ext, size)
        | none => stats.extensionStats
      fileSizeRangeStats := bump stats.fileSizeRangeStats (calculateFileSizeRange (getSize view), size) }
  else stats

def update (stats : FullStats) (view : ObservedView) : FullStats :=
  let size := toInt64 (getSize view)
  let nameLen := byteLength (getName view)
  let stats := { stats with
    totalNameLength := stats.totalNameLength + toInt64 nameLen
    maxNameLength := max stats.maxNameLength nameLen }
  let stats :=
    if view.getIsDir then
      let depth := calculateDepth view.entry.path
      { stats with
        dirCount := stats.dirCount + 1
        dirSize := stats.dirSize + size
        totalDirDepth := stats.totalDirDepth + toInt64 depth
        maxDirDepth := max stats.maxDirDepth depth }
    else if getIsSymlink view then
      { stats with symlinkCount := stats.symlinkCount + 1, symlinkSize := stats.symlinkSize + size }
    else if getIsRegularFile view then
      { stats with
        regularFileCount := stats.regularFileCount + 1, regularFileSize := stats.regularFileSize + size }
    else
      { stats with
        otherEntryCount := stats.otherEntryCount + 1, otherEntrySize := stats.otherEntrySize + size }
  updateDistributions tables stats view (getIsRegularFile view)

def fold (items : List ObservedView) : FullStats := items.foldl (update tables) new

end Update

end FullStats

/-! ### Rows and tables -/

/-- The columns of a captured row that the statistics read. -/
structure NativeScanRecord where
  name : Text
  relativePath : RelativePath
  versionId : Text
  size : UInt64
  ext : Option Text
  isSymlink : Bool
  isDir : Bool
  isRegularFile : Bool
  currentState : UInt8
deriving DecidableEq, Repr

def NativeScanRecord.capture (generation : UInt8) (view : ObservedView) : NativeScanRecord where
  name := (pathFileName view.entry.path).getD []
  relativePath := view.pathKey
  versionId := view.versionId
  size := view.getSize
  ext := pathExtension view.entry.path
  isSymlink := getIsSymlink view
  isDir := view.getIsDir
  isRegularFile := view.entry.kind = .file
  currentState := generation

def NativeScanRecord.key (row : NativeScanRecord) : Key := (row.relativePath, row.versionId)

/-- A row of the shared table; the version of a row is its epoch. -/
structure ClusterNativeScanRecord where
  jobId : Text
  epoch : Nat
  isDeleted : Bool
  record : NativeScanRecord
deriving DecidableEq, Repr

def ClusterNativeScanRecord.key (row : ClusterNativeScanRecord) : Text × Key := (row.jobId, row.record.key)

/-! ### Aggregates -/

section Aggregates

variable {Row : Type}

def countIf (condition : Row → Bool) (rows : List Row) : Nat := rows.countP condition

def sumIf (value : Row → Nat) (condition : Row → Bool) (rows : List Row) : Nat :=
  ((rows.filter condition).map value).sum

/-- The default value where no row is counted. -/
def maxIf (value : Row → Nat) (condition : Row → Bool) (rows : List Row) : Nat :=
  ((rows.filter condition).map value).foldl max 0

end Aggregates

structure ScanResumeSummary where
  dirs : Nat
  dirBytes : Int64
  files : Nat
  fileBytes : Int64
  links : Nat
  linkBytes : Int64
  totalDepth : Int64
  maxDepth : Nat
  totalNameLength : Int64
  maxNameLength : Nat
deriving DecidableEq, Repr

structure ScanResumeStatistics where
  summary : ScanResumeSummary
  extensions : List (Text × Int64 × Nat)
  sizes : List (Nat × Int64 × Nat)
deriving DecidableEq, Repr

/-- The ten expressions that both stores select. -/
def selectSummary (rows : List NativeScanRecord) : ScanResumeSummary where
  dirs := countIf (·.isDir) rows
  dirBytes := toInt64 (sumIf (·.size.toNat) (·.isDir) rows)
  files := countIf (·.isRegularFile) rows
  fileBytes := toInt64 (sumIf (·.size.toNat) (·.isRegularFile) rows)
  links := countIf (fun row => !row.isDir && row.isSymlink) rows
  linkBytes := toInt64 (sumIf (·.size.toNat) (fun row => !row.isDir && row.isSymlink) rows)
  totalDepth := toInt64 (sumIf (fun row => slashes row.relativePath + 1) (·.isDir) rows)
  maxDepth := maxIf (fun row => slashes row.relativePath + 1) (·.isDir) rows
  totalNameLength := toInt64 (sumIf (fun row => byteLength row.name) (fun _ => true) rows)
  maxNameLength := maxIf (fun row => byteLength row.name) (fun _ => true) rows

/-- `size_bucket`, the `multiIf` over the sizes. -/
def sizeBucket (size : Nat) : Nat :=
  if size < 4096 then 0
  else if size < 65536 then 1
  else if size < 131072 then 2
  else if size < 262144 then 3
  else if size < 524288 then 4
  else if size < 1048576 then 5
  else if size < 2097152 then 6
  else if size < 16777216 then 7
  else if size < 67108864 then 8
  else if size < 134217728 then 9
  else if size < 536870912 then 10
  else 11

/-- `lower(ifNull(ext,''))`: the ASCII letters alone. -/
def lowerExt (row : NativeScanRecord) : Text := asciiLower (row.ext.getD [])

/-! ### The store of one job -/

/-- `write_native`: the requests of a call follow each other. -/
def SingleStore.writeNative (generation : UInt8) (base : List NativeScanRecord)
    (entries : List EntryFacts) : List NativeScanRecord :=
  base ++ (entries.flatMap allViews).map (NativeScanRecord.capture generation)

/-- `FROM base FINAL WHERE current_state=generation`. -/
def SingleStore.scope (generation : UInt8) (base : List NativeScanRecord) : List NativeScanRecord :=
  (surviving NativeScanRecord.key base).filter fun row => row.currentState = generation

/-- The queries for the summary, the extensions and the sizes. -/
def SingleStore.resumeStatistics (generation : UInt8) (base : List NativeScanRecord) : ScanResumeStatistics :=
  let scope := SingleStore.scope generation base
  let regular := scope.filter (·.isRegularFile)
  { summary := selectSummary scope
    extensions :=
      (groups ((regular.filter (·.ext.isSome)).map fun row => (lowerExt row, row.size.toNat))).map fun row =>
        (row.1, toInt64 row.2.1, row.2.2)
    sizes :=
      (groups (regular.map fun row => (sizeBucket row.size.toNat, row.size.toNat))).map fun row =>
        (row.1, toInt64 row.2.1, row.2.2) }

/-! ### The shared store -/

def ClusterScanStore.writeNative (jobId : Text) (epoch : Nat) (generation : UInt8)
    (base : List ClusterNativeScanRecord) (entries : List EntryFacts) :
    List ClusterNativeScanRecord :=
  base ++ (entries.flatMap allViews).map fun view => ⟨jobId, epoch, false, .capture generation view⟩

/-- `FROM base FINAL WHERE job_id=… AND epoch=… AND is_deleted=0`. -/
def ClusterScanStore.scope (jobId : Text) (epoch : Nat) (base : List ClusterNativeScanRecord) :
    List NativeScanRecord :=
  ((newestRows ClusterNativeScanRecord.epoch ClusterNativeScanRecord.key base).filter fun row =>
    decide (row.jobId = jobId) && decide (row.epoch = epoch) && !row.isDeleted).map ClusterNativeScanRecord.record

/-- Columns of keys, bytes and counts. -/
abbrev BucketTotals (Name : Type) := List Name × List Int64 × List Nat

structure ScanAggregateRow where
  summary : ScanResumeSummary
  extensions : BucketTotals Text
  sizes : BucketTotals Nat
deriving DecidableEq, Repr

/-- `sumMapIf` of the bytes and ones of a key; keys whose sums are all zero are dropped. -/
def sumMap (entries : List (Text × Int64)) : BucketTotals Text :=
  let rows := (groups entries).filter fun row => decide (row.2.1 ≠ 0) || decide (row.2.2 ≠ 0)
  (rows.map Prod.fst, rows.map (·.2.1), rows.map (·.2.2))

/-- `sumResample(0,n,1)`: one sum for each bucket. -/
def sumResample {Amount : Type} [AddCommMonoid Amount] (buckets : Nat) (value : NativeScanRecord → Amount)
    (bucket : NativeScanRecord → Nat) (rows : List NativeScanRecord) : List Amount :=
  (List.range buckets).map fun index => ((rows.filter fun row => bucket row = index).map value).sum

def selectAggregate (rows : List NativeScanRecord) : ScanAggregateRow where
  summary := selectSummary rows
  extensions := sumMap ((rows.filter fun row => row.isRegularFile && row.ext.isSome).map fun row =>
    (lowerExt row, toInt64 row.size.toNat))
  sizes :=
    (List.range 12,
      sumResample 12 (fun row => if row.isRegularFile then toInt64 row.size.toNat else 0)
        (fun row => sizeBucket row.size.toNat) rows,
      sumResample 12 (fun row => row.isRegularFile.toNat) (fun row => sizeBucket row.size.toNat) rows)

def buckets {Name : Type} (totals : BucketTotals Name) : List (Name × Int64 × Nat) :=
  (((totals.1.zip totals.2.1).zip totals.2.2).filter fun row => decide (row.2 > 0)).map fun row =>
    (row.1.1, row.1.2, row.2)

def ScanAggregateRow.statistics (row : ScanAggregateRow) : ScanResumeStatistics :=
  ⟨row.summary, buckets row.extensions, buckets row.sizes⟩

def ClusterScanStore.resumeStatistics (jobId : Text) (epoch : Nat) (base : List ClusterNativeScanRecord) :
    ScanResumeStatistics :=
  (selectAggregate (ClusterScanStore.scope jobId epoch base)).statistics

/-! ### Reconciliation -/

def fileSizeRanges : List FileSizeRange :=
  [.lessThan4K, .between4KAnd64K, .between64KAnd128K, .between128KAnd256K, .between256KAnd512K, .between512KAnd1M,
    .between1MAnd2M, .between2MAnd16M, .between16MAnd64M, .between64MAnd128M, .between128MAnd512M, .over512M]

/-- `reconcile_scan_statistics`, for the figures of the scanned entries. -/
def FullStats.reconcile (full : FullStats) (values : ScanResumeStatistics) : FullStats :=
  let summary := values.summary
  { full with
    dirCount := summary.dirs
    dirSize := summary.dirBytes
    regularFileCount := summary.files
    regularFileSize := summary.fileBytes
    symlinkCount := summary.links
    symlinkSize := summary.linkBytes
    totalDirDepth := summary.totalDepth
    maxDirDepth := summary.maxDepth
    totalNameLength := summary.totalNameLength
    maxNameLength := summary.maxNameLength
    extensionStats := table values.extensions
    fileSizeRangeStats := table (values.sizes.filterMap fun row =>
      (fileSizeRanges[row.1]?).map fun range => (range, row.2)) }

/-! ### One round -/

/-- A round of both stores: what was there before it, and its calls of `write_native`. Before the
round no row of the working generation is shown, and the epochs of the job are smaller. -/
structure Round where
  generation : UInt8
  jobId : Text
  epoch : Nat
  before : List NativeScanRecord
  clusterBefore : List ClusterNativeScanRecord
  calls : List (List EntryFacts)
  unshown : ∀ row ∈ surviving NativeScanRecord.key before, row.currentState ≠ generation
  older : ∀ row ∈ clusterBefore, row.jobId = jobId → row.epoch < epoch

namespace Round

variable (round : Round)

/-- Every version item that was written, in order. -/
def written : List ObservedView := round.calls.flatten.flatMap allViews

/-- The items of the round: for each path and version the observation written last. -/
def observed : List ObservedView := surviving itemKey round.written

def single : ScanResumeStatistics :=
  SingleStore.resumeStatistics round.generation
    (round.calls.foldl (SingleStore.writeNative round.generation) round.before)

def cluster : ScanResumeStatistics :=
  ClusterScanStore.resumeStatistics round.jobId round.epoch
    (round.calls.foldl (ClusterScanStore.writeNative round.jobId round.epoch round.generation) round.clusterBefore)

end Round

end Terrasync.Scan.FinalStatistics
