import Mathlib.Algebra.Group.Int.Defs
import Mathlib.Algebra.GroupWithZero.Nat
import Mathlib.Data.List.Basic
import Terrasync.Lib.TextEquality

/-! Observed entries as the product sees them: one native observation, optionally
with its version history, and views that select one version. Observations keep the
facts that the product reads. Paths are relative and written with slashes. -/

set_option autoImplicit false

namespace Terrasync

abbrev RelativePath := List Char

namespace RelativePath

def isAbsolute (path : RelativePath) : Bool := path.head? = some '/'

def components (path : RelativePath) : List (List Char) :=
  (path.splitOn '/').filter fun component => component ≠ [] ∧ component ≠ ['.']

/-- `validate_relative_path`: neither absolute nor with a parent component. -/
def validate (path : RelativePath) : Bool :=
  !path.isAbsolute && !path.components.contains ['.', '.']

/-- `file_name`: the last component, unless it is a parent component. -/
def fileName (path : RelativePath) : List Char :=
  match path.components.getLast? with
  | some name => if name = ['.', '.'] then [] else name
  | none => []

end RelativePath

inductive SpecialFileKind where
  | blockDevice
  | characterDevice
  | fifo
  | socket
deriving DecidableEq, Repr

inductive EntryKind where
  | file
  | directory
  | symlink
  | special (kind : SpecialFileKind)
deriving DecidableEq, Repr

inductive BackendKind where
  | local
  | nfs
  | cifs
  | s3
  | hdfs
deriving DecidableEq, Repr

structure OwnershipMode where
  mode : UInt32
  uid : UInt32
  gid : UInt32
deriving DecidableEq, Repr

abbrev ObjectTag := List Char × List Char

inductive PrincipalIdentity where
  | numeric (id : UInt32)
  | named (name : List Char)
deriving DecidableEq, Repr

def PrincipalIdentity.numericId : PrincipalIdentity → Option UInt32
  | .numeric id => some id
  | .named _ => none

structure Permissions where
  mode : Option UInt32
  owner : Option PrincipalIdentity
  group : Option PrincipalIdentity
deriving DecidableEq, Repr

/-- The observed values; `modified` is the one of the timestamps, in nanoseconds. -/
structure MetadataObservations where
  modified : Option Int
  ownershipMode : Option OwnershipMode
  tags : Option (List ObjectTag)
deriving DecidableEq, Repr

def MetadataObservations.empty : MetadataObservations := ⟨none, none, none⟩

structure VersionRecord where
  versionId : Option (List Char)
  isLatest : Bool
  isDeleteMarker : Bool
  size : Option UInt64
  modified : Option Int
  metadata : Option MetadataObservations
deriving DecidableEq, Repr

/-- The zero-byte object that stands for a directory of an object store. -/
structure MarkerObject where
  path : RelativePath
  identityKey : List UInt8
  modified : Option Int
  tags : Option (List ObjectTag)
deriving DecidableEq, Repr

/-- What an observation says of the entry itself. -/
structure EntryFacts where
  path : RelativePath
  kind : EntryKind
  size : Option UInt64
  modified : Option Int
  metadata : MetadataObservations
  permissions : Option Permissions
  history : Option (List VersionRecord)
  directoryMarkerObject : Option MarkerObject
  /-- Only a directory has a marker object. -/
  markerOfDirectory : directoryMarkerObject.isSome → kind = .directory
deriving DecidableEq, Repr

structure ObservedEntry extends EntryFacts where
  backendKind : BackendKind
  /-- `encoded_file_handle`: the identity, if it is stable across scans. -/
  fileHandle : Option (List Char)
deriving DecidableEq, Repr

/-- `timestamp_nanos`: clamped to an `i64`. -/
def timestampNanos (time : Option Int) : Int :=
  time.elim 0 fun nanos => max (-2 ^ 63) (min nanos (2 ^ 63 - 1))

/-- The facts of an entry with the version selected of it. -/
structure ObservedView where
  entry : EntryFacts
  versionIndex : Option Nat
deriving DecidableEq, Repr

namespace ObservedView

def version (view : ObservedView) : Option VersionRecord :=
  view.versionIndex.bind fun index => view.entry.history.bind fun records => records[index]?

/-- `version_id`: empty without history, `null` for a version without an id. -/
def versionId (view : ObservedView) : List Char :=
  match view.version with
  | some record => record.versionId.getD ['n', 'u', 'l', 'l']
  | none => []

/-- `path_key`: a directory object with history keeps its trailing slash. -/
def pathKey (view : ObservedView) : RelativePath :=
  if view.version.isSome ∧ view.entry.kind = .directory then view.entry.path ++ ['/']
  else view.entry.path

def metadata (view : ObservedView) : MetadataObservations :=
  match view.version with
  | some record => record.metadata.getD .empty
  | none => view.entry.metadata

/-- Permission facts of the container are not those of a selected version. -/
def permissions (view : ObservedView) : Option Permissions :=
  if view.versionIndex.isNone then view.entry.permissions else none

def mode (view : ObservedView) : Option UInt32 :=
  (view.metadata.ownershipMode.map OwnershipMode.mode).or (view.permissions.bind Permissions.mode)

def uid (view : ObservedView) : Option UInt32 :=
  (view.metadata.ownershipMode.map OwnershipMode.uid).or
    ((view.permissions.bind Permissions.owner).bind PrincipalIdentity.numericId)

def gid (view : ObservedView) : Option UInt32 :=
  (view.metadata.ownershipMode.map OwnershipMode.gid).or
    ((view.permissions.bind Permissions.group).bind PrincipalIdentity.numericId)

def getSize (view : ObservedView) : UInt64 :=
  match view.version with
  | some record => record.size.getD 0
  | none => view.entry.size.getD 0

def getMtime (view : ObservedView) : Int :=
  timestampNanos <|
    match view.version with
    | some record => record.modified
    | none => view.entry.metadata.modified.or view.entry.modified

def getIsDir (view : ObservedView) : Bool := view.entry.kind = .directory

end ObservedView

namespace EntryFacts

/-- What a plain listing shows of an entry. -/
def new (path : RelativePath) (kind : EntryKind) (size : Option UInt64) (modified : Option Int) :
    EntryFacts where
  path
  kind
  size
  modified
  metadata := .empty
  permissions := none
  history := none
  directoryMarkerObject := none
  markerOfDirectory := fun marker => absurd marker Bool.false_ne_true

/-- The observation itself, without a selected version. -/
def whole (facts : EntryFacts) : ObservedView := ⟨facts, none⟩

end EntryFacts

namespace ObservedEntry

def new (path : RelativePath) (kind : EntryKind) (size : Option UInt64) (modified : Option Int)
    (backendKind : BackendKind) (fileHandle : Option (List Char)) : ObservedEntry :=
  { EntryFacts.new path kind size modified with backendKind, fileHandle }

def getSize (entry : ObservedEntry) : Nat := entry.whole.getSize.toNat

def getMtime (entry : ObservedEntry) : Int := entry.whole.getMtime

def getName (entry : ObservedEntry) : List Char := entry.path.fileName

def getIsDir (entry : ObservedEntry) : Bool := entry.kind = .directory

def getIsSymlink (entry : ObservedEntry) : Bool := entry.kind = .symlink

end ObservedEntry

/-- An entry with the version an event selects. -/
structure ObservedItem where
  entry : ObservedEntry
  versionIndex : Option Nat
deriving DecidableEq, Repr

namespace ObservedItem

/-- `From<Arc<ObservedEntry>>`: the only version, else the latest one. -/
def ofEntry (entry : ObservedEntry) : ObservedItem :=
  ⟨entry, entry.history.bind fun records =>
    if records.length = 1 then some 0
    else records.findIdx? fun record => record.isLatest⟩

/-- One item per version, or a single item without history. -/
def all (entry : ObservedEntry) : List ObservedItem :=
  match entry.history with
  | none => [⟨entry, none⟩]
  | some records => (List.range records.length).map fun index => ⟨entry, some index⟩

def view (item : ObservedItem) : ObservedView := ⟨item.entry.toEntryFacts, item.versionIndex⟩

@[simp] theorem view_entry (item : ObservedItem) : item.view.entry = item.entry.toEntryFacts := rfl

def version (item : ObservedItem) : Option VersionRecord := item.view.version

def getSize (item : ObservedItem) : Nat := item.view.getSize.toNat

def versionId (item : ObservedItem) : List Char := item.view.versionId

def pathKey (item : ObservedItem) : RelativePath := item.view.pathKey

end ObservedItem

end Terrasync
