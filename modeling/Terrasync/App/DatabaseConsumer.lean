import Terrasync.Catalogue.BaseTable
import Terrasync.Event

/-! The consumer that stores broadcast messages in the catalogue. Rows to insert,
paths to delete and events wait in three buffers, each written at the batch size. -/

set_option autoImplicit false

namespace Terrasync.App

open Terrasync.Catalogue

inductive JobType where
  | scan
  | incrementalScan
  | copy
  | incrementalCopy
  | integrityCheck
deriving DecidableEq, Repr

/-- The tables of one job. Rows are written with the working generation. -/
structure JobCatalogue where
  base : BaseTable
  incremental : List StorageEntryMessage
  tarManifest : List (RelativePath × List ObservedEntry)
  workingState : Nat
deriving DecidableEq

namespace JobCatalogue

def batchInsertCompletedRecords (catalogue : JobCatalogue) (records : List ObservedItem) :
    JobCatalogue :=
  { catalogue with base := catalogue.base.insertViews catalogue.workingState records }

def batchDeleteBaseRecord (catalogue : JobCatalogue) (deletedPaths : List RelativePath) :
    JobCatalogue :=
  { catalogue with base := catalogue.base.batchDeleteRecord deletedPaths }

def batchInsertIncrementalRecord (catalogue : JobCatalogue) (messages : List StorageEntryMessage) :
    JobCatalogue :=
  { catalogue with incremental := catalogue.incremental ++ messages }

def batchInsertTarManifest (catalogue : JobCatalogue) (tarPath : RelativePath)
    (entries : List ObservedEntry) : JobCatalogue :=
  if entries = [] then catalogue
  else { catalogue with tarManifest := catalogue.tarManifest ++ [(tarPath, entries)] }

end JobCatalogue

structure DatabaseConsumer where
  batchSize : Nat
  jobType : JobType
deriving DecidableEq

namespace DatabaseConsumer

/-- The consumer's task between two messages. -/
structure Worker where
  db : JobCatalogue
  currentMessageBatch : List StorageEntryMessage
  currentInsertEntryBatch : List ObservedItem
  currentDeleteEntryBatch : List RelativePath
deriving DecidableEq

def batchInsertBaseRecord (batchSize : Nat) (worker : Worker) (entry : ObservedItem) : Worker :=
  if batchSize ≤ (worker.currentInsertEntryBatch ++ [entry]).length then
    { worker with
      db := worker.db.batchInsertCompletedRecords (worker.currentInsertEntryBatch ++ [entry])
      currentInsertEntryBatch := [] }
  else { worker with currentInsertEntryBatch := worker.currentInsertEntryBatch ++ [entry] }

def batchDeleteBaseRecord (batchSize : Nat) (worker : Worker) (entry : ObservedEntry) : Worker :=
  if batchSize ≤ (worker.currentDeleteEntryBatch ++ [entry.path]).length then
    { worker with
      db := worker.db.batchDeleteBaseRecord (worker.currentDeleteEntryBatch ++ [entry.path])
      currentDeleteEntryBatch := [] }
  else { worker with currentDeleteEntryBatch := worker.currentDeleteEntryBatch ++ [entry.path] }

def batchInsertIncrementalRecord (batchSize : Nat) (worker : Worker)
    (message : StorageEntryMessage) : Worker :=
  if batchSize ≤ (worker.currentMessageBatch ++ [message]).length then
    { worker with
      db := worker.db.batchInsertIncrementalRecord (worker.currentMessageBatch ++ [message])
      currentMessageBatch := [] }
  else { worker with currentMessageBatch := worker.currentMessageBatch ++ [message] }

/-- `New` and `Changed` enter the base table only in the job types that need it. -/
def insertsBase (jobType : JobType) : StorageEntryMessage → Bool
  | .new _ => jobType = .copy || jobType = .incrementalCopy
  | .changed _ _ => jobType = .incrementalCopy
  | _ => false

def receive (consumer : DatabaseConsumer) (worker : Worker) (message : StorageEntryMessage) :
    Worker :=
  match message with
  | .scanned entry =>
      if consumer.jobType = .scan then
        (ObservedItem.all entry).foldl (batchInsertBaseRecord consumer.batchSize) worker
      else worker
  | .new item =>
      let inserted :=
        if insertsBase consumer.jobType message then
          batchInsertBaseRecord consumer.batchSize worker item
        else worker
      if consumer.jobType ≠ .copy then
        batchInsertIncrementalRecord consumer.batchSize inserted message
      else inserted
  | .changed item _ =>
      let inserted :=
        if insertsBase consumer.jobType message then
          batchInsertBaseRecord consumer.batchSize worker item
        else worker
      batchInsertIncrementalRecord consumer.batchSize inserted message
  | .renamed fromEntry toEntry =>
      batchInsertIncrementalRecord consumer.batchSize
        (batchDeleteBaseRecord consumer.batchSize
          (batchInsertBaseRecord consumer.batchSize worker (ObservedItem.ofEntry toEntry))
          fromEntry)
        message
  | .deleted entry =>
      batchInsertIncrementalRecord consumer.batchSize
        (batchDeleteBaseRecord consumer.batchSize worker entry) message
  | .tarManifest tarPath entries =>
      { worker with db := worker.db.batchInsertTarManifest tarPath entries }
  | .integrityChecked _ => worker
  | .packaged _ => worker
  | .error _ _ _ _ => worker

def finalizeInsertBaseRecord (worker : Worker) : Worker :=
  if worker.currentInsertEntryBatch = [] then worker
  else
    { worker with
      db := worker.db.batchInsertCompletedRecords worker.currentInsertEntryBatch
      currentInsertEntryBatch := [] }

def finalizeDeleteBaseRecord (worker : Worker) : Worker :=
  if worker.currentDeleteEntryBatch = [] then worker
  else
    { worker with
      db := worker.db.batchDeleteBaseRecord worker.currentDeleteEntryBatch
      currentDeleteEntryBatch := [] }

def finalizeInsertIncrementalRecord (worker : Worker) : Worker :=
  if worker.currentMessageBatch = [] then worker
  else
    { worker with
      db := worker.db.batchInsertIncrementalRecord worker.currentMessageBatch
      currentMessageBatch := [] }

/-- The channel is closed: what waits is written, inserts before deletions. -/
def close (worker : Worker) : JobCatalogue :=
  (finalizeInsertIncrementalRecord (finalizeDeleteBaseRecord (finalizeInsertBaseRecord worker))).db

/-- One life of the consumer, with every database call succeeding. -/
def start (consumer : DatabaseConsumer) (db : JobCatalogue) (messages : List StorageEntryMessage) :
    JobCatalogue :=
  close (messages.foldl consumer.receive ⟨db, [], [], []⟩)

end DatabaseConsumer

end Terrasync.App
