import Terrasync.App.DatabaseConsumer
import Terrasync.Lib.WriteBuffers

/-! The database consumer against the sequential meaning of its messages. The base
table is a store under two write buffers, keyed by path and version, whose removals
take whole paths. -/

set_option autoImplicit false

namespace Terrasync.App

open Terrasync.Catalogue
open Terrasync.Lib

abbrev BaseOp := WriteBuffers.Op RowKey RelativePath NativeScanRecord

/-- What one message means for the base table. -/
def baseEffect (generation : Nat) (table : BaseTable) : StorageEntryMessage → BaseTable
  | .new item => table.insertViews generation [item]
  | .changed item _ => table.insertViews generation [item]
  | .renamed fromEntry toEntry =>
      (table.insertViews generation [ObservedItem.ofEntry toEntry]).batchDeleteRecord
        [fromEntry.path]
  | .deleted entry => table.batchDeleteRecord [entry.path]
  | _ => table

/-- The base table after the messages took effect one at a time, in arrival order. -/
def applyInOrder (generation : Nat) (table : BaseTable) (messages : List StorageEntryMessage) :
    BaseTable :=
  messages.foldl (baseEffect generation) table

def recordOf (generation : Nat) (item : ObservedItem) : NativeScanRecord := ⟨item, generation⟩

def rowOf (generation : Nat) (item : ObservedItem) : RowKey × NativeScanRecord :=
  ((recordOf generation item).key, recordOf generation item)

def putItem (generation : Nat) (item : ObservedItem) : BaseOp :=
  .put (recordOf generation item).key (recordOf generation item)

/-- The inserts and deletions of one message. -/
def operationsOf (generation : Nat) : StorageEntryMessage → List BaseOp
  | .new item => [putItem generation item]
  | .changed item _ => [putItem generation item]
  | .renamed fromEntry toEntry =>
      [putItem generation (ObservedItem.ofEntry toEntry), .remove fromEntry.path]
  | .deleted entry => [.remove entry.path]
  | _ => []

def operations (generation : Nat) (messages : List StorageEntryMessage) : List BaseOp :=
  messages.flatMap (operationsOf generation)

/-- Every row that is both inserted and deleted is inserted last exactly if, at some
moment, all deletions of its path have been written and an insert of it has not. -/
def OrderKept (batchSize generation : Nat) (messages : List StorageEntryMessage) : Prop :=
  ∀ key, key ∈ (WriteBuffers.putsOf (operations generation messages)).map Prod.fst →
    key.1 ∈ WriteBuffers.removesOf (operations generation messages) →
      (WriteBuffers.LastIsPut Prod.fst (operations generation messages) key ↔
        WriteBuffers.Outlasts Prod.fst batchSize (operations generation messages) key)

theorem row_insertViews (generation : Nat) (table : BaseTable) (views : List ObservedItem) :
    BaseTable.row (table.insertViews generation views) =
      WriteBuffers.putAll (BaseTable.row table) (views.map (rowOf generation)) := by
  induction views generalizing table with
  | nil => simp [BaseTable.insertViews, WriteBuffers.putAll]
  | cons view rest ih =>
      have first : BaseTable.row (table ++ [⟨view, generation⟩]) =
          Function.update (BaseTable.row table) (rowOf generation view).1
            (some (rowOf generation view).2) := by
        funext key
        rw [BaseTable.row_append, BaseTable.row_singleton]
        by_cases same : key = (rowOf generation view).1
        · have here : NativeScanRecord.key ⟨view, generation⟩ = key := same.symm
          rw [if_pos here, Option.some_or, same, Function.update_self]
          rfl
        · have other : NativeScanRecord.key ⟨view, generation⟩ ≠ key := Ne.symm same
          rw [Function.update_of_ne same, if_neg other, Option.none_or]
      have whole : table.insertViews generation (view :: rest) =
          BaseTable.insertViews generation (table ++ [⟨view, generation⟩]) rest := by
        simp [BaseTable.insertViews]
      rw [whole, ih, first]
      rfl

theorem row_batchDelete (table : BaseTable) (paths : List RelativePath) :
    BaseTable.row (table.batchDeleteRecord paths) =
      WriteBuffers.removeAll Prod.fst (BaseTable.row table) paths := by
  funext key
  rw [BaseTable.row_batchDeleteRecord]
  by_cases deleted : key.1 ∈ paths
  · rw [if_pos deleted, WriteBuffers.removeAll_of_mem deleted]
  · rw [if_neg deleted, WriteBuffers.removeAll_of_not_mem deleted]

theorem row_baseEffect (generation : Nat) (table : BaseTable) (message : StorageEntryMessage) :
    BaseTable.row (baseEffect generation table message) =
      WriteBuffers.sequential Prod.fst (BaseTable.row table) (operationsOf generation message) := by
  cases message with
  | new item => exact row_insertViews generation table [item]
  | changed item kind => exact row_insertViews generation table [item]
  | renamed fromEntry toEntry =>
      rw [baseEffect, row_batchDelete, row_insertViews]
      rfl
  | deleted entry => exact row_batchDelete table [entry.path]
  | scanned entry => rfl
  | integrityChecked entry => rfl
  | packaged entry => rfl
  | tarManifest tarPath entries => rfl
  | error event path entry reason => rfl

theorem row_applyInOrder (generation : Nat) (table : BaseTable)
    (messages : List StorageEntryMessage) :
    BaseTable.row (applyInOrder generation table messages) =
      WriteBuffers.sequential Prod.fst (BaseTable.row table) (operations generation messages) := by
  induction messages generalizing table with
  | nil => rfl
  | cons message rest ih =>
      calc BaseTable.row (applyInOrder generation (baseEffect generation table message) rest)
          = WriteBuffers.sequential Prod.fst
              (WriteBuffers.sequential Prod.fst (BaseTable.row table)
                (operationsOf generation message))
              (operations generation rest) := by
            rw [ih, row_baseEffect]
        _ = WriteBuffers.sequential Prod.fst (BaseTable.row table)
              (operations generation (message :: rest)) := by
            unfold WriteBuffers.sequential operations
            rw [List.flatMap_cons, List.foldl_append]

namespace DatabaseConsumer

/-- The worker's base table and its two base buffers, as the library sees them. -/
def buffersOf (worker : Worker) : WriteBuffers.Buffers RowKey RelativePath NativeScanRecord where
  store := BaseTable.row worker.db.base
  puts := worker.currentInsertEntryBatch.map (rowOf worker.db.workingState)
  removes := worker.currentDeleteEntryBatch

theorem buffersOf_batchInsertBaseRecord (batchSize : Nat) (worker : Worker) (item : ObservedItem) :
    buffersOf (batchInsertBaseRecord batchSize worker item) =
      WriteBuffers.step Prod.fst batchSize (buffersOf worker)
        (putItem worker.db.workingState item) := by
  have puts : (buffersOf worker).puts ++
      [((recordOf worker.db.workingState item).key, recordOf worker.db.workingState item)] =
      (worker.currentInsertEntryBatch ++ [item]).map (rowOf worker.db.workingState) := by
    rw [List.map_append, List.map_singleton]
    rfl
  unfold batchInsertBaseRecord
  by_cases reached : batchSize ≤ (worker.currentInsertEntryBatch ++ [item]).length
  · have full : batchSize ≤ ((buffersOf worker).puts ++ [((recordOf worker.db.workingState item).key, recordOf worker.db.workingState item)]).length := by
      rw [puts, List.length_map]
      exact reached
    rw [if_pos reached, putItem, WriteBuffers.step_put_reached full, puts]
    unfold buffersOf
    rw [JobCatalogue.batchInsertCompletedRecords, row_insertViews, List.map_nil]
  · have short : ¬batchSize ≤
        ((buffersOf worker).puts ++
          [((recordOf worker.db.workingState item).key, recordOf worker.db.workingState item)]).length := by
      rw [puts, List.length_map]
      exact reached
    rw [if_neg reached, putItem, WriteBuffers.step_put_waiting short, puts]
    rfl

theorem buffersOf_batchDeleteBaseRecord (batchSize : Nat) (worker : Worker)
    (entry : ObservedEntry) :
    buffersOf (batchDeleteBaseRecord batchSize worker entry) =
      WriteBuffers.step Prod.fst batchSize (buffersOf worker) (.remove entry.path) := by
  unfold batchDeleteBaseRecord
  by_cases reached : batchSize ≤ (worker.currentDeleteEntryBatch ++ [entry.path]).length
  · rw [if_pos reached, WriteBuffers.step_remove_reached reached]
    unfold buffersOf
    rw [JobCatalogue.batchDeleteBaseRecord, row_batchDelete]
  · rw [if_neg reached, WriteBuffers.step_remove_waiting reached]
    rfl

theorem buffersOf_batchInsertIncrementalRecord (batchSize : Nat) (worker : Worker)
    (message : StorageEntryMessage) :
    buffersOf (batchInsertIncrementalRecord batchSize worker message) = buffersOf worker := by
  unfold batchInsertIncrementalRecord
  split
  · rfl
  · rfl

@[simp] theorem workingState_batchInsertBaseRecord (batchSize : Nat) (worker : Worker)
    (item : ObservedItem) :
    (batchInsertBaseRecord batchSize worker item).db.workingState = worker.db.workingState := by
  unfold batchInsertBaseRecord
  split
  · rfl
  · rfl

@[simp] theorem workingState_batchDeleteBaseRecord (batchSize : Nat) (worker : Worker)
    (entry : ObservedEntry) :
    (batchDeleteBaseRecord batchSize worker entry).db.workingState = worker.db.workingState := by
  unfold batchDeleteBaseRecord
  split
  · rfl
  · rfl

@[simp] theorem workingState_batchInsertIncrementalRecord (batchSize : Nat) (worker : Worker)
    (message : StorageEntryMessage) :
    (batchInsertIncrementalRecord batchSize worker message).db.workingState =
      worker.db.workingState := by
  unfold batchInsertIncrementalRecord
  split
  · rfl
  · rfl

/-- Messages of a copy job act on the base table as their operations say. A full copy
never announces a change. -/
theorem buffersOf_receive {consumer : DatabaseConsumer}
    (copying : consumer.jobType = .copy ∨ consumer.jobType = .incrementalCopy) (worker : Worker)
    {message : StorageEntryMessage}
    (delivered : consumer.jobType = .copy → message.isChanged = false) :
    buffersOf (consumer.receive worker message) =
        WriteBuffers.run Prod.fst consumer.batchSize (buffersOf worker)
          (operationsOf worker.db.workingState message) ∧
      (consumer.receive worker message).db.workingState = worker.db.workingState := by
  cases message with
  | scanned entry =>
      have other : consumer.jobType ≠ .scan := by
        intro scan
        rw [scan] at copying
        simp at copying
      rw [receive, if_neg other]
      exact ⟨rfl, rfl⟩
  | new item =>
      have inserts : insertsBase consumer.jobType (.new item) = true := by
        simpa [insertsBase] using copying
      simp only [receive, inserts, if_true]
      split
      · rw [buffersOf_batchInsertIncrementalRecord, buffersOf_batchInsertBaseRecord]
        simp [operationsOf, WriteBuffers.run]
      · rw [buffersOf_batchInsertBaseRecord]
        simp [operationsOf, WriteBuffers.run]
  | changed item kind =>
      have incremental : consumer.jobType = .incrementalCopy := by
        cases copying with
        | inl copy => exact absurd (delivered copy) (Bool.false_ne_true ∘ Eq.symm)
        | inr incremental => exact incremental
      have inserts : insertsBase consumer.jobType (.changed item kind) = true := by
        simpa [insertsBase] using incremental
      simp only [receive, inserts, if_true]
      rw [buffersOf_batchInsertIncrementalRecord, buffersOf_batchInsertBaseRecord]
      simp [operationsOf, WriteBuffers.run]
  | renamed fromEntry toEntry =>
      rw [receive, buffersOf_batchInsertIncrementalRecord, buffersOf_batchDeleteBaseRecord,
        buffersOf_batchInsertBaseRecord]
      simp [operationsOf, WriteBuffers.run]
  | deleted entry =>
      rw [receive, buffersOf_batchInsertIncrementalRecord, buffersOf_batchDeleteBaseRecord]
      simp [operationsOf, WriteBuffers.run]
  | tarManifest tarPath entries =>
      rw [receive]
      unfold JobCatalogue.batchInsertTarManifest
      split
      · exact ⟨rfl, rfl⟩
      · exact ⟨rfl, rfl⟩
  | integrityChecked entry => exact ⟨rfl, rfl⟩
  | packaged entry => exact ⟨rfl, rfl⟩
  | error event path entry reason => exact ⟨rfl, rfl⟩

theorem buffersOf_foldl_receive {consumer : DatabaseConsumer}
    (copying : consumer.jobType = .copy ∨ consumer.jobType = .incrementalCopy) (worker : Worker)
    {messages : List StorageEntryMessage}
    (delivered : consumer.jobType = .copy → ∀ message ∈ messages, message.isChanged = false) :
    buffersOf (messages.foldl consumer.receive worker) =
      WriteBuffers.run Prod.fst consumer.batchSize (buffersOf worker)
        (operations worker.db.workingState messages) := by
  induction messages generalizing worker with
  | nil => rfl
  | cons message rest ih =>
      have here := buffersOf_receive copying worker
        fun copy => delivered copy message List.mem_cons_self
      have later := ih (consumer.receive worker message)
        fun copy other member => delivered copy other (List.mem_cons_of_mem _ member)
      rw [List.foldl_cons, later, here.1, here.2, ← WriteBuffers.run_append, operations, operations,
        List.flatMap_cons]

theorem row_close (worker : Worker) :
    BaseTable.row (close worker).base = WriteBuffers.finish Prod.fst (buffersOf worker) := by
  have inserted : buffersOf (finalizeInsertBaseRecord worker) =
      ⟨WriteBuffers.putAll (buffersOf worker).store (buffersOf worker).puts, [],
        (buffersOf worker).removes⟩ := by
    unfold finalizeInsertBaseRecord
    split
    · rename_i empty
      simp [buffersOf, empty, WriteBuffers.putAll]
    · simp [buffersOf, JobCatalogue.batchInsertCompletedRecords, row_insertViews]
  have deleted : ∀ other : Worker,
      BaseTable.row (finalizeDeleteBaseRecord other).db.base =
        WriteBuffers.removeAll Prod.fst (buffersOf other).store (buffersOf other).removes := by
    intro other
    unfold finalizeDeleteBaseRecord
    split
    · rename_i empty
      funext key
      simp [buffersOf, empty, WriteBuffers.removeAll]
    · simp [buffersOf, JobCatalogue.batchDeleteBaseRecord, row_batchDelete]
  have events : ∀ other : Worker, (finalizeInsertIncrementalRecord other).db.base = other.db.base := by
    intro other
    unfold finalizeInsertIncrementalRecord
    split
    · rfl
    · rfl
  rw [close, events, deleted, inserted]
  rfl

/-- The whole life of the consumer is the batched run of its operations. -/
theorem row_start {consumer : DatabaseConsumer}
    (copying : consumer.jobType = .copy ∨ consumer.jobType = .incrementalCopy) (db : JobCatalogue)
    {messages : List StorageEntryMessage}
    (delivered : consumer.jobType = .copy → ∀ message ∈ messages, message.isChanged = false) :
    BaseTable.row (consumer.start db messages).base =
      WriteBuffers.batched Prod.fst consumer.batchSize (BaseTable.row db.base)
        (operations db.workingState messages) := by
  rw [start, row_close, buffersOf_foldl_receive copying _ delivered]
  rfl

/-- Written one at a time, the messages keep their order. -/
theorem base_table_sequential_of_batch_size_one {consumer : DatabaseConsumer} (db : JobCatalogue)
    {messages : List StorageEntryMessage}
    (copying : consumer.jobType = .copy ∨ consumer.jobType = .incrementalCopy)
    (delivered : consumer.jobType = .copy → ∀ message ∈ messages, message.isChanged = false)
    (one : consumer.batchSize = 1) :
    BaseTable.SameRows (consumer.start db messages).base
      (applyInOrder db.workingState db.base messages) := by
  intro key
  rw [row_start copying db delivered, row_applyInOrder, one]
  apply (WriteBuffers.batched_eq_sequential_iff Nat.one_pos _ _ key).mpr
  intro _ _
  exact WriteBuffers.outlasts_one.symm

/-- The batched base table is the sequential one exactly when the batches keep the
order of inserts and deletions on every row that has both. -/
theorem base_table_sequential_iff (consumer : DatabaseConsumer) (db : JobCatalogue)
    (messages : List StorageEntryMessage)
    (copying : consumer.jobType = .copy ∨ consumer.jobType = .incrementalCopy)
    (delivered : consumer.jobType = .copy → ∀ message ∈ messages, message.isChanged = false)
    (positive : 1 ≤ consumer.batchSize) :
    BaseTable.SameRows (consumer.start db messages).base
        (applyInOrder db.workingState db.base messages) ↔
      OrderKept consumer.batchSize db.workingState messages := by
  unfold BaseTable.SameRows OrderKept
  rw [row_start copying db delivered, row_applyInOrder]
  apply forall_congr'
  intro key
  exact WriteBuffers.batched_eq_sequential_iff positive _ _ key

/-- One name of a file with two names. -/
def hardLink (name : Char) : ObservedEntry := .new [name] .file (some 7) none .nfs (some ['h'])

/-- Both names of the file are gone, and each is reported as renamed to the other. -/
def vanishedLinks : List StorageEntryMessage :=
  [.renamed (hardLink 'a') (hardLink 'b'), .renamed (hardLink 'b') (hardLink 'a')]

def vanishedLinksCatalogue : JobCatalogue where
  base := [⟨⟨hardLink 'a', none⟩, 0⟩, ⟨⟨hardLink 'b', none⟩, 0⟩]
  incremental := []
  tarManifest := []
  workingState := 1

theorem base_table_sequential_iff_two_deletions :
    BaseTable.SameRows
        (start ⟨2, .incrementalCopy⟩ vanishedLinksCatalogue
          [.deleted (hardLink 'a'), .deleted (hardLink 'b')]).base
        (applyInOrder 1 vanishedLinksCatalogue.base
          [.deleted (hardLink 'a'), .deleted (hardLink 'b')]) ↔
      OrderKept 2 1 [.deleted (hardLink 'a'), .deleted (hardLink 'b')] :=
  base_table_sequential_iff ⟨2, .incrementalCopy⟩ vanishedLinksCatalogue
    [.deleted (hardLink 'a'), .deleted (hardLink 'b')] (Or.inr rfl)
    (fun copy => JobType.noConfusion copy) (by decide)

/-- With a batch of 100 both rows are lost; one at a time the second rename leaves `a`. -/
theorem vanished_links_lose_their_row :
    ¬∀ (consumer : DatabaseConsumer) (db : JobCatalogue) (messages : List StorageEntryMessage),
      consumer.jobType = .copy ∨ consumer.jobType = .incrementalCopy →
      (consumer.jobType = .copy → ∀ message ∈ messages, message.isChanged = false) →
      1 ≤ consumer.batchSize →
      BaseTable.SameRows (consumer.start db messages).base
        (applyInOrder db.workingState db.base messages) := by
  intro claim
  have same := claim ⟨100, .incrementalCopy⟩ vanishedLinksCatalogue vanishedLinks (Or.inr rfl)
    (fun copy => JobType.noConfusion copy) (by decide) (['a'], [])
  revert same
  decide

end DatabaseConsumer

end Terrasync.App
