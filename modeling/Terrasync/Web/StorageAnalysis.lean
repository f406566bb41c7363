import Mathlib.Data.Char
import Mathlib.Data.List.DropRight
import Mathlib.Data.List.Lex
import Mathlib.Data.Prod.Lex
import Mathlib.Order.OrderDual
import Terrasync.Lib.Grouping
import Terrasync.Lib.Lowercase
import Terrasync.Lib.Replacing

/-! The storage analysis of a scan: the query for the children of a path over the base table
of the job (`children_query_scoped`, `decode_nodes`), the validation of a requested path and
`get_tree`. Sums stay below the width of their integers. -/

set_option autoImplicit false

namespace Terrasync.Web.Analysis

open Lib (asciiLower groupBy rowNumber surviving newestRows)

abbrev Text := List Char

/-! ### The base table -/

/-- The columns the query reads, with the value of its `modified` expression. -/
structure BaseRow where
  relativePath : Text
  versionId : Text
  size : Nat
  storageType : Text
  isDir : Bool
  isSymlink : Bool
  entryKind : Text
  sizeObserved : Bool
  backendKind : Text
  modifiedSecs : Option Int
deriving DecidableEq, Repr

def BaseRow.key (row : BaseRow) : Text × Text := (row.relativePath, row.versionId)

/-- A row of the table that all jobs share. -/
structure SharedRow where
  jobId : Text
  ver : Nat
  isDeleted : Bool
  row : BaseRow
deriving DecidableEq, Repr

def SharedRow.key (row : SharedRow) : Text × Text × Text := (row.jobId, row.row.key)

/-- The table of the job, or the shared table with the condition on the job. -/
inductive BaseTable where
  | single (rows : List BaseRow)
  | cluster (jobId : Text) (rows : List SharedRow)

/-- `FROM {table} FINAL {scope}`. -/
def BaseTable.rows : BaseTable → List BaseRow
  | single rows => surviving BaseRow.key rows
  | cluster jobId rows =>
      ((newestRows SharedRow.ver SharedRow.key rows).filter fun row =>
        decide (row.jobId = jobId) && !row.isDeleted).map SharedRow.row

/-! ### Entries -/

/-- A row of `normalized`. -/
structure Entry where
  entryPath : Text
  entryType : Text
  logicalBytes : Nat
  modifiedSecs : Option Int
deriving DecidableEq, Repr

/-- `replaceAll(relative_path, '\\', '/')`. -/
def slashed (path : Text) : Text := path.map fun character => if character = '\\' then '/' else character

def fileType : Text := "file".toList

def directoryType : Text := "directory".toList

def legacyKind (row : BaseRow) : Text :=
  if row.isDir then directoryType else if row.isSymlink then "symlink".toList else fileType

/-- `normalized`; a table without the observed columns is read by the legacy ones. -/
def normalize (observed : Bool) (row : BaseRow) : Entry where
  entryPath :=
    if asciiLower row.storageType = "s3".toList ∨ observed ∧ row.backendKind = "s3".toList then row.relativePath
    else slashed row.relativePath
  entryType := if observed ∧ row.entryKind ≠ [] then row.entryKind else legacyKind row
  logicalBytes := if observed ∧ row.entryKind ≠ [] ∧ !row.sizeObserved then 0 else row.size
  modifiedSecs := row.modifiedSecs

def Entry.isFile (entry : Entry) : Bool := entry.entryType = fileType

def Entry.isDirectory (entry : Entry) : Bool := entry.entryType = directoryType

/-- The condition of `scoped`. -/
def inScope (start : Text) (entry : Entry) : Bool :=
  start.isPrefixOf entry.entryPath && decide (entry.entryPath ≠ start) && decide (entry.entryPath ≠ []) &&
    (entry.isFile || entry.isDirectory)

def suffix (start : Text) (entry : Entry) : Text := entry.entryPath.drop start.length

/-- `splitByChar('/', …)[1]`. -/
def firstPart (text : Text) : Text := text.takeWhile (· ≠ '/')

/-! ### Children -/

inductive NodeKind where
  | directory
  | file
  | other
deriving DecidableEq, Repr

/-- The order of the names of the kinds. -/
def NodeKind.rank : NodeKind → Nat
  | directory => 0
  | file => 1
  | other => 2

abbrev NodeKey := Text × Text × NodeKind

def childKey (start : Text) (entry : Entry) : NodeKey :=
  let name := firstPart (suffix start entry)
  (start ++ name, name, if '/' ∈ suffix start entry ∨ entry.isDirectory then .directory else .file)

/-- A row of `grouped`, and of the result. -/
structure NodeRow where
  path : Text
  name : Text
  kind : NodeKind
  bytes : Nat
  fileCount : Nat
  directoryCount : Nat
  modifiedSecs : Option Int
deriving DecidableEq, Repr

def NodeRow.key (row : NodeRow) : NodeKey := (row.path, row.name, row.kind)

/-- The greatest value that is not null. -/
def maxSecs (values : List (Option Int)) : Option Int := (values.filterMap id).max?

def summarize (group : NodeKey × List Entry) : NodeRow where
  path := group.1.1
  name := group.1.2.1
  kind := group.1.2.2
  bytes := ((group.2.filter Entry.isFile).map Entry.logicalBytes).sum
  fileCount := group.2.countP Entry.isFile
  directoryCount := group.2.countP Entry.isDirectory
  modifiedSecs := maxSecs (group.2.map Entry.modifiedSecs)

def grouped (start : Text) (entries : List Entry) : List NodeRow :=
  (groupBy (childKey start) (entries.filter (inScope start))).map summarize

inductive AnalysisMetric where
  | size
  | count
deriving DecidableEq, Repr

/-- `{order}`: both measures from the greatest down. -/
def metricOrder : AnalysisMetric → NodeRow → Natᵒᵈ ×ₗ Natᵒᵈ
  | .size, row => toLex (OrderDual.toDual row.bytes, OrderDual.toDual row.fileCount)
  | .count, row => toLex (OrderDual.toDual row.fileCount, OrderDual.toDual row.bytes)

/-- The order of the window: `{order}, child_path, child_kind`. -/
def windowOrder (metric : AnalysisMetric) (row : NodeRow) : (Natᵒᵈ ×ₗ Natᵒᵈ) ×ₗ Text ×ₗ Nat :=
  toLex (metricOrder metric row, toLex (row.path, row.kind.rank))

/-- `rank <= {limit}`. -/
def isListed (metric : AnalysisMetric) (limit : Nat) (children : List NodeRow) (child : NodeRow) : Bool :=
  rowNumber (windowOrder metric) children child ≤ limit

/-- The path, name and kind under which a child is returned. -/
def returnedKey (listed : Bool) (child : NodeRow) : NodeKey :=
  if listed then child.key else ([], ['其', '他'], .other)

def merge (group : NodeKey × List NodeRow) : NodeRow where
  path := group.1.1
  name := group.1.2.1
  kind := group.1.2.2
  bytes := (group.2.map NodeRow.bytes).sum
  fileCount := (group.2.map NodeRow.fileCount).sum
  directoryCount := (group.2.map NodeRow.directoryCount).sum
  modifiedSecs := maxSecs (group.2.map NodeRow.modifiedSecs)

/-- The order of the result: `kind = 'other', {order}, path`. -/
def resultOrder (metric : AnalysisMetric) (row : NodeRow) : Nat ×ₗ (Natᵒᵈ ×ₗ Natᵒᵈ) ×ₗ Text :=
  toLex (if row.kind = .other then 1 else 0, toLex (metricOrder metric row, row.path))

/-- `children_query_scoped`. -/
def childrenQuery (start : Text) (metric : AnalysisMetric) (limit : Nat) (entries : List Entry) : List NodeRow :=
  let children := grouped start entries
  let result := (groupBy (fun child => returnedKey (isListed metric limit children child) child) children).map merge
  result.insertionSort fun first second => resultOrder metric first ≤ resultOrder metric second

structure AnalysisNode where
  path : Text
  name : Text
  kind : NodeKind
  bytes : Nat
  fileCount : Nat
  directoryCount : Nat
  modifiedAt : Option Text
deriving DecidableEq, Repr

/-! ### Requests -/

inductive WebError where
  | validationError (message : String)
  | analysisUnavailable (message : String)
  | notFound (id : Text)
deriving DecidableEq, Repr

structure AnalysisTreeQuery where
  path : Text
  metric : AnalysisMetric
  limit : Option Nat
deriving DecidableEq, Repr

/-- `char::is_control`. -/
def isControl (character : Char) : Bool :=
  character.toNat < 0x20 || (decide (0x7f ≤ character.toNat) && decide (character.toNat < 0xa0))

/-- `trim_end_matches('/')`. -/
def trimEnd (path : Text) : Text := path.rdropWhile (· = '/')

/-- The bytes of a string. -/
def byteLength (text : Text) : Nat := (text.map Char.utf8Size).sum

/-- What `validate` refuses of a trimmed path. -/
def refusedPath (path : Text) : Bool :=
  decide (byteLength path > 4096) || path.head? = some '/' || path.any isControl ||
    (path.splitOn '/').any fun part => part = ['.'] || part = ['.', '.']

def AnalysisTreeQuery.validate (query : AnalysisTreeQuery) : Except WebError (Text × Nat) :=
  let path := trimEnd query.path
  if refusedPath path then .error (.validationError "分析路径必须是扫描根目录内的相对路径")
  else
    let limit := query.limit.getD 120
    if 1 ≤ limit ∧ limit ≤ 500 then .ok (path, limit)
    else .error (.validationError "分析条目上限必须在 1 到 500 之间")

/-- The parameter of the query: all of a scan, or what lies below a path. -/
def startOf (path : Text) : Text := if path = [] then [] else path ++ ['/']

structure StorageAnalysis where
  path : Text
  totalBytes : Nat
  fileCount : Nat
  directoryCount : Nat
  children : List AnalysisNode
deriving DecidableEq, Repr

section Service

-- `to_rfc3339` of a time in seconds, where there is such a time
variable (rfc3339 : Int → Option Text)

def decodeNode (row : NodeRow) : AnalysisNode where
  path := row.path
  name := row.name
  kind := row.kind
  bytes := row.bytes
  fileCount := row.fileCount
  directoryCount := row.directoryCount
  modifiedAt := row.modifiedSecs.bind rfc3339

/-- The table, and whether it has the observed columns. -/
structure Scan where
  table : BaseTable
  observed : Bool

def Scan.entries (scan : Scan) : List Entry := scan.table.rows.map (normalize scan.observed)

/-- `ClickHouseAnalysisRepo::children`. -/
def children (scan : Scan) (path : Text) (metric : AnalysisMetric) (limit : Nat) : List AnalysisNode :=
  (childrenQuery (startOf path) metric limit scan.entries).map (decodeNode rfc3339)

/-- `get_tree`; `checks` are those of the task, its endpoint and its executions, which do not look at
the query. -/
def getTree (checks : Except WebError Unit) (scan : Scan) (query : AnalysisTreeQuery) :
    Except WebError StorageAnalysis := do
  let (path, limit) ← query.validate
  checks
  let children := children rfc3339 scan path query.metric limit
  return {
    path
    totalBytes := (children.map AnalysisNode.bytes).sum
    fileCount := (children.map AnalysisNode.fileCount).sum
    directoryCount := (children.map AnalysisNode.directoryCount).sum
    children }

end Service

end Terrasync.Web.Analysis
