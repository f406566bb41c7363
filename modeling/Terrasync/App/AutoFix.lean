import Terrasync.App.IntegrityCheck
import Terrasync.Scan.ChangeDetection

/-! The automatic repair of `integrity_check.rs`: `compare_entry` turns the differences that the
storage library reports into labels, `set_metadata` writes what the entry's type and the
destination's capabilities allow. Times are nanoseconds. -/

set_option autoImplicit false

namespace Terrasync.App.AutoFix

abbrev SourceEntry := EntryFacts

/-! ### The source entry -/

def view (source : SourceEntry) : ObservedView := ⟨source, none⟩

/-- The modification time that `get_mtime` clamps to an `i64`, with zero for an unknown one. -/
def modified? (source : SourceEntry) : Option Int := source.metadata.modified.or source.modified

/-- The word that `dispatch` passes along with the entry. -/
def sourceType (source : SourceEntry) : EntryType :=
  match source.kind with
  | .symlink => .symlink
  | .directory => .dir
  | .file | .special _ => .file

/-! ### Comparison -/

/-- `unsupported` is any other difference, with its debug text. -/
inductive IntegrityDifference where
  | missing
  | size (source destination : Option UInt64)
  | content
  | kind (source destination : EntryKind)
  | modified (source destination : Option Int)
  | permissions (source destination : Permissions)
  | unsupported (text : List Char)
deriving DecidableEq, Repr

/-- The two lists that `compare_entry` fills. -/
structure Noted where
  data : List MismatchDataField
  metadata : List MismatchMetaField
deriving DecidableEq, Repr

def numericId? (principal : Option PrincipalIdentity) : Option UInt32 := principal.bind PrincipalIdentity.numericId

/-- `if let (Some(src), Some(dest))`, and the two differ. -/
def noteIfDiffer (field : MismatchMetaField) : Option UInt32 → Option UInt32 → List MismatchMetaField
  | some source, some destination => if source ≠ destination then [field] else []
  | _, _ => []

def notePermissions (source destination : Permissions) : List MismatchMetaField :=
  noteIfDiffer .mode source.mode destination.mode ++
    noteIfDiffer .uid (numericId? source.owner) (numericId? destination.owner) ++
    noteIfDiffer .gid (numericId? source.group) (numericId? destination.group)

/-- `StorageError::FileNotFound` -/
def fileNotFound (path : RelativePath) : CompareError := .other true ("File not found: ".toList ++ path)

/-- `operation(..)` of an unsupported difference. -/
def unsupportedDifference (text : List Char) : CompareError :=
  .other false ("Storage operation error: unsupported integrity difference: ".toList ++ text)

/-- The body of the loop over the differences. -/
def note (source : SourceEntry) (noted : Noted) : IntegrityDifference → Except CompareError Noted
  | .missing => .error (fileNotFound source.path)
  | .size _ _ =>
      if source.kind = .directory then .ok noted else .ok { noted with data := noted.data ++ [.size] }
  | .content => .ok { noted with data := noted.data ++ [.content] }
  | .kind _ _ => .ok { noted with data := noted.data ++ [.entryKind] }
  | .modified _ _ => .ok { noted with metadata := noted.metadata ++ [.mtime] }
  | .permissions permissions permissions' =>
      .ok { noted with metadata := noted.metadata ++ notePermissions permissions permissions' }
  | .unsupported text => .error (unsupportedDifference text)

/-- `compare_entry`, over the differences of the report. -/
def compareEntry (source : SourceEntry) (differences : List IntegrityDifference) : Except CompareError Unit := do
  let noted ← differences.foldlM (note source) ⟨[], []⟩
  if noted.data ≠ [] then .error (.mismatchData noted.data)
  else if noted.metadata ≠ [] then .error (.mismatchMeta noted.metadata)
  else .ok ()

/-! ### Setting metadata -/

inductive CopiedOwnershipTarget where
  | numeric
  | modeOnly
  | unsupported
deriving DecidableEq, Repr

/-- A precision is its quantum of nanoseconds. -/
abbrev TimePrecision := { quantumNanos : Int // 0 < quantumNanos }

inductive CopiedTimestampTarget where
  | stored (precision : TimePrecision)
  | unsupported
deriving DecidableEq

structure CopiedMetadataTarget where
  ownership : CopiedOwnershipTarget
  timestamps : CopiedTimestampTarget
deriving DecidableEq

inductive MetadataMutation where
  | numericOwnership (ownership : OwnershipMode)
  | mode (mode : UInt32)
  | timestamps (accessed modified : Option Int)
deriving DecidableEq, Repr

/-- A role that the storage does not have makes the call for it fail. `metadata` answers whether a
mutation succeeds. -/
structure Storage where
  stagedDestination : Bool
  copiedMetadataTarget : Option CopiedMetadataTarget
  maySetOwner : UInt32 → UInt32 → Bool
  metadata : Option (MetadataMutation → Bool)

/-- The metadata of the destination entry. -/
structure DestMetadata where
  permissions : Permissions
  modified : Option Int
  accessed : Option Int
deriving DecidableEq, Repr

/-- A mutation sets the fields that it names. -/
def MetadataMutation.set (state : DestMetadata) : MetadataMutation → DestMetadata
  | .numericOwnership ownership =>
      { state with permissions :=
          ⟨some ownership.mode, some (.numeric ownership.uid), some (.numeric ownership.gid)⟩ }
  | .mode value => { state with permissions := { state.permissions with mode := some value } }
  | .timestamps accessed modified =>
      { state with accessed := accessed.or state.accessed, modified := modified.or state.modified }

inductive SetMetadataError where
  | roleUnavailable
  | notAdvertised
  | mutation (mutation : MetadataMutation)
deriving DecidableEq, Repr

/-- The legacy mode includes the bits of the file type. -/
def permissionBits (mode : UInt32) : UInt32 := mode &&& 0o7777

def aligned (precision : TimePrecision) (value : Int) : Int := value / precision.1 * precision.1

/-- The first mutation of `set_metadata`; the mode has its permission bits only. -/
def ownershipMutation (target : CopiedMetadataTarget) (maySetOwner : UInt32 → UInt32 → Bool)
    (uid gid mode : Option UInt32) : Option MetadataMutation :=
  let modeMutation := mode.bind fun mode =>
    if target.ownership ≠ .unsupported then some (.mode mode) else none
  match uid, gid, mode with
  | some uid, some gid, some mode =>
      if target.ownership = .numeric ∧ maySetOwner uid gid then some (.numericOwnership ⟨mode, uid, gid⟩)
      else modeMutation
  | _, _, _ => modeMutation

/-- The second one. -/
def timestampMutation (target : CopiedMetadataTarget) (atime mtime : Option Int) : Option MetadataMutation :=
  match target.timestamps with
  | .stored precision =>
      if atime.isSome ∨ mtime.isSome then
        some (.timestamps (atime.map (aligned precision)) (mtime.map (aligned precision)))
      else none
  | .unsupported => none

def applyMutation (metadata : MetadataMutation → Bool) (state : DestMetadata) (mutation : MetadataMutation) :
    Except SetMetadataError DestMetadata :=
  if metadata mutation then .ok (mutation.set state) else .error (.mutation mutation)

def setMetadata (storage : Storage) (atime mtime : Option Int) (uid gid mode : Option UInt32)
    (state : DestMetadata) : Except SetMetadataError DestMetadata :=
  if storage.stagedDestination = false then .error .roleUnavailable
  else
    match storage.copiedMetadataTarget with
    | none => .error .notAdvertised
    | some target =>
        match storage.metadata with
        | none => .error .roleUnavailable
        | some metadata =>
            ((ownershipMutation target storage.maySetOwner uid gid (mode.map permissionBits)).toList ++
              (timestampMutation target atime mtime).toList).foldlM (applyMutation metadata) state

/-! ### The repair -/

/-- What `apply_auto_fix` passes on: access time, modification time and mode. -/
def fixValues (source : SourceEntry) : Option Int × Option Int × Option UInt32 :=
  match sourceType source with
  | .file => (none, none, (view source).mode)
  | .dir => (some (view source).getMtime, some ((view source).getMtime), (view source).mode)
  | .symlink => (some (view source).getMtime, some ((view source).getMtime), none)

/-- The destination after the call of `set_metadata` in `apply_auto_fix`. -/
def repair (storage : Storage) (source : SourceEntry) (state : DestMetadata) :
    Except SetMetadataError DestMetadata :=
  let (atime, mtime, mode) := fixValues source
  setMetadata storage atime mtime (view source).uid (view source).gid mode state

/-- `build_mismatch_issue` with the repair. -/
def buildIssue (storage : Storage) (source : SourceEntry) (state : DestMetadata) (mismatches : List MismatchLabel)
    (autoFix : Bool) : IntegrityIssue :=
  buildMismatchIssue source.path (sourceType source) mismatches autoFix
    (repair storage source state).isOk

end Terrasync.App.AutoFix
