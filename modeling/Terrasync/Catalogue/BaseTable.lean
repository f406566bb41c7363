import Mathlib.Data.List.Basic
import Terrasync.Observation

/-! The base table of a job's catalogue: the rows inserted so far, in order. Reading
with `FINAL` keeps the last row inserted for each path and version. -/

set_option autoImplicit false

namespace Terrasync.Catalogue

/-- One row: the observed view it was captured from and its generation. -/
structure NativeScanRecord where
  view : ObservedItem
  currentState : Nat
deriving DecidableEq, Repr

abbrev RowKey := RelativePath × List Char

namespace NativeScanRecord

def relativePath (record : NativeScanRecord) : RelativePath := record.view.pathKey

def versionId (record : NativeScanRecord) : List Char := record.view.versionId

def fileHandle (record : NativeScanRecord) : Option (List Char) := record.view.entry.fileHandle

def key (record : NativeScanRecord) : RowKey := (record.relativePath, record.versionId)

end NativeScanRecord

abbrev BaseTable := List NativeScanRecord

namespace BaseTable

/-- The row that `FINAL` shows for a path and version. -/
def row (table : BaseTable) (key : RowKey) : Option NativeScanRecord :=
  table.reverse.find? fun record => record.key = key

def SameRows (table other : BaseTable) : Prop := ∀ key, row table key = row other key

/-- `insert_views`. -/
def insertViews (generation : Nat) (table : BaseTable) (views : List ObservedItem) : BaseTable :=
  table ++ views.map fun view => ⟨view, generation⟩

/-- `batch_delete_record`. -/
def batchDeleteRecord (table : BaseTable) (deletedPaths : List RelativePath) : BaseTable :=
  table.filter fun record => record.relativePath ∉ deletedPaths

theorem row_append (table later : BaseTable) (key : RowKey) :
    row (table ++ later) key = (row later key).or (row table key) := by
  unfold row
  rw [List.reverse_append, List.find?_append]

theorem row_singleton (record : NativeScanRecord) (key : RowKey) :
    row [record] key = if record.key = key then some record else none := by
  by_cases same : record.key = key
  · simp [row, same]
  · simp [row, same]

theorem row_batchDeleteRecord (table : BaseTable) (deletedPaths : List RelativePath)
    (key : RowKey) :
    row (batchDeleteRecord table deletedPaths) key =
      if key.1 ∈ deletedPaths then none else row table key := by
  unfold row batchDeleteRecord
  rw [← List.filter_reverse, List.find?_filter]
  by_cases deleted : key.1 ∈ deletedPaths
  · rw [if_pos deleted, List.find?_eq_none]
    intro record _ found
    simp only [decide_not, Bool.not_eq_true', decide_eq_false_iff_not, decide_eq_true_eq] at found
    rw [← found.2] at deleted
    exact found.1 deleted
  · rw [if_neg deleted]
    congr 1
    funext record
    by_cases same : record.key = key
    · have kept : record.relativePath ∉ deletedPaths := by
        rw [← same] at deleted
        exact deleted
      simp [same, kept]
    · simp [same]

end BaseTable

end Terrasync.Catalogue
