import Terrasync.Scan.CandidateCacheProperties

/-! The three records that `metadata_hash!` is expanded for, with what each of them feeds to
the hasher. A row borrows some of its texts where a stored record owns them; the digested
bytes are the same, and they tell every stored column but the generation apart. -/

set_option autoImplicit false

namespace Terrasync.Scan.CandidateCache

open SyncDelta (Bytes)

/-- `Cow<str>`. -/
inductive Cow where
  | borrowed (text : Text)
  | owned (text : Text)
deriving DecidableEq

/-- `as_ref`, and the text of `into_owned`. -/
def Cow.text : Cow → Text
  | borrowed text => text
  | owned text => text

/-- The row that is written to the base table. -/
structure NativeScanRecord where
  name : Text
  relativePath : Cow
  size : UInt64
  ext : Option Text
  ctime : Int64
  mtime : Int64
  atime : Int64
  mode : Option UInt32
  storageType : Text
  isSymlink : Bool
  isDir : Bool
  isRegularFile : Bool
  hardLinks : UInt32
  currentState : UInt8
  uid : Option UInt32
  gid : Option UInt32
  ino : Option UInt64
  fileHandle : Option Text
  versionId : Text
  tags : Option Text
  markerState : Option Text
  identityKey : Text
  backendKind : Text
  backendId : Text
  entryKind : Text
  sizeObserved : Bool
  modifiedUnixNanos : Option Int
  entrySnapshot : Bytes
  metadataHash : Option (List Char)
  historySegment : UInt32
  historyIndex : UInt32

structure IncrementalStorageEntryRecord where
  operationType : Text
  name : Text
  relativePath : Text
  size : UInt64
  ext : Option Text
  ctime : Int64
  mtime : Int64
  atime : Int64
  mode : Option UInt32
  storageType : Text
  isSymlink : Bool
  isDir : Bool
  isRegularFile : Bool
  hardLinks : UInt32
  currentState : UInt8
  uid : Option UInt32
  gid : Option UInt32
  ino : Option UInt64
  fileHandle : Option Text
  versionId : Text
  tags : Option Text
  markerState : Option Text
  createAt : Int64
  comment : Option Text

/-- `legacy`. -/
def NativeScanRecord.legacy (record : NativeScanRecord) : EntrySummary where
  name := record.name
  relativePath := record.relativePath.text
  size := record.size
  ext := record.ext
  ctime := record.ctime
  mtime := record.mtime
  atime := record.atime
  mode := record.mode
  storageType := record.storageType
  isSymlink := record.isSymlink
  isDir := record.isDir
  isRegularFile := record.isRegularFile
  hardLinks := record.hardLinks
  currentState := record.currentState
  uid := record.uid
  gid := record.gid
  ino := record.ino
  fileHandle := record.fileHandle
  versionId := record.versionId
  tags := record.tags
  markerState := record.markerState

def incrementalRecord (record : EntrySummary) (operation : Text) (comment : Option Text) (eventTime : Int64) :
    IncrementalStorageEntryRecord where
  operationType := operation
  createAt := eventTime
  comment := comment
  name := record.name
  relativePath := record.relativePath
  size := record.size
  ext := record.ext
  ctime := record.ctime
  mtime := record.mtime
  atime := record.atime
  mode := record.mode
  storageType := record.storageType
  isSymlink := record.isSymlink
  isDir := record.isDir
  isRegularFile := record.isRegularFile
  hardLinks := record.hardLinks
  currentState := record.currentState
  uid := record.uid
  gid := record.gid
  ino := record.ino
  fileHandle := record.fileHandle
  versionId := record.versionId
  tags := record.tags
  markerState := record.markerState

def hashCow (cow : Cow) : Bytes := hashText cow.text

/-- The expansion of `metadata_hash!` for the written row. -/
def NativeScanRecord.hashed (row : NativeScanRecord) : Bytes :=
  hashDomain ++ (hashText row.name ++ (hashCow row.relativePath ++ (hashU64 row.size ++
    (hashOption hashText row.ext ++ (hashI64 row.ctime ++ (hashI64 row.mtime ++ (hashI64 row.atime ++
      (hashOption hashU32 row.mode ++ (hashText row.storageType ++ (hashBool row.isSymlink ++
        (hashBool row.isDir ++ (hashBool row.isRegularFile ++ (hashU32 row.hardLinks ++
          (hashOption hashU32 row.uid ++ (hashOption hashU32 row.gid ++ (hashOption hashU64 row.ino ++
            (hashOption hashText row.fileHandle ++ (hashText row.versionId ++
              (hashOption hashText row.tags ++ hashOption hashText row.markerState)))))))))))))))))))

/-- The expansion of `metadata_hash!` for the event record. -/
def IncrementalStorageEntryRecord.hashed (row : IncrementalStorageEntryRecord) : Bytes :=
  hashDomain ++ (hashText row.name ++ (hashText row.relativePath ++ (hashU64 row.size ++
    (hashOption hashText row.ext ++ (hashI64 row.ctime ++ (hashI64 row.mtime ++ (hashI64 row.atime ++
      (hashOption hashU32 row.mode ++ (hashText row.storageType ++ (hashBool row.isSymlink ++
        (hashBool row.isDir ++ (hashBool row.isRegularFile ++ (hashU32 row.hardLinks ++
          (hashOption hashU32 row.uid ++ (hashOption hashU32 row.gid ++ (hashOption hashU64 row.ino ++
            (hashOption hashText row.fileHandle ++ (hashText row.versionId ++
              (hashOption hashText row.tags ++ hashOption hashText row.markerState)))))))))))))))))))

/-! ### One encoding of the stored columns -/

/-- A record with a metadata hash. -/
inductive MetadataRecord where
  | native (record : NativeScanRecord)
  | summary (record : EntrySummary)
  | incremental (record : IncrementalStorageEntryRecord)

def MetadataRecord.hashed : MetadataRecord → Bytes
  | native record => record.hashed
  | summary record => record.hashed
  | incremental record => record.hashed

/-- The stored columns of an event record. -/
def IncrementalStorageEntryRecord.columns (record : IncrementalStorageEntryRecord) : EntrySummary where
  name := record.name
  relativePath := record.relativePath
  size := record.size
  ext := record.ext
  ctime := record.ctime
  mtime := record.mtime
  atime := record.atime
  mode := record.mode
  storageType := record.storageType
  isSymlink := record.isSymlink
  isDir := record.isDir
  isRegularFile := record.isRegularFile
  hardLinks := record.hardLinks
  currentState := record.currentState
  uid := record.uid
  gid := record.gid
  ino := record.ino
  fileHandle := record.fileHandle
  versionId := record.versionId
  tags := record.tags
  markerState := record.markerState

def MetadataRecord.columns : MetadataRecord → EntrySummary
  | native record => record.legacy
  | summary record => record
  | incremental record => record.columns

theorem hashed_legacy (record : NativeScanRecord) : record.legacy.hashed = record.hashed := rfl

theorem columns_incrementalRecord (record : EntrySummary) (operation : Text) (comment : Option Text)
    (eventTime : Int64) : (incrementalRecord record operation comment eventTime).columns = record := rfl

theorem hashed_columns (record : IncrementalStorageEntryRecord) : record.columns.hashed = record.hashed := rfl

/-- What a record feeds to the hasher is a function of its stored columns. -/
theorem MetadataRecord.hashed_eq (record : MetadataRecord) : record.hashed = record.columns.hashed := by
  cases record with
  | native record => exact (hashed_legacy record).symm
  | summary record => rfl
  | incremental record => exact (hashed_columns record).symm

/-- Two records feed the same bytes to the hasher exactly when their stored columns agree but
for the generation; a written row, its summary and its event records feed the same bytes. -/
theorem metadata_encoding_exact :
    (∀ first second : MetadataRecord,
      first.hashed = second.hashed ↔ first.columns.SameColumns second.columns) ∧
    ∀ (record : NativeScanRecord) (operation : Text) (comment : Option Text) (eventTime : Int64),
      record.legacy.hashed = record.hashed ∧
        (incrementalRecord record.legacy operation comment eventTime).hashed = record.hashed := by
  refine ⟨fun first second => ?_, fun record operation comment eventTime => ⟨hashed_legacy record, ?_⟩⟩
  · rw [first.hashed_eq, second.hashed_eq]
    exact ⟨sameColumns_of_hashed, hashed_sameColumns⟩
  · rw [← hashed_columns, columns_incrementalRecord, hashed_legacy]

end Terrasync.Scan.CandidateCache
