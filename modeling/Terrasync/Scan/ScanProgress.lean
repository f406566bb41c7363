import Mathlib.Algebra.GroupWithZero.Nat
import Terrasync.Lib.Machine
import Terrasync.Observation

/-! The directory statistics of a scan: `scan/progress.rs` and `scan/statistics.rs`, with the
snapshot that `ScanStatistics` keeps for the callbacks. Revisions of an active directory
replace each other; a completed directory joins the prefix that checkpoints save. The
counters are `u64`. -/

set_option autoImplicit false

namespace Terrasync.Scan.Statistics

/-! ### Counts -/

inductive EntryKindName where
  | directories | regularFiles | symlinks | blockDevices | characterDevices | fifos | sockets | unknown
deriving DecidableEq, Repr

/-- `EntryKindCounts` of data-mover. -/
structure EntryKindCounts where
  directories : Nat
  regularFiles : Nat
  symlinks : Nat
  blockDevices : Nat
  characterDevices : Nat
  fifos : Nat
  sockets : Nat
  unknown : Nat
deriving DecidableEq, Repr

namespace EntryKindCounts

def default : EntryKindCounts := ⟨0, 0, 0, 0, 0, 0, 0, 0⟩

def count (counts : EntryKindCounts) : EntryKindName → Nat
  | .directories => counts.directories
  | .regularFiles => counts.regularFiles
  | .symlinks => counts.symlinks
  | .blockDevices => counts.blockDevices
  | .characterDevices => counts.characterDevices
  | .fifos => counts.fifos
  | .sockets => counts.sockets
  | .unknown => counts.unknown

end EntryKindCounts

/-- The methods of `EntryKindCounts`, which are code of data-mover. -/
structure EntryKindMethods where
  saturatingAdd : EntryKindCounts → EntryKindCounts → EntryKindCounts
  saturatingSub : EntryKindCounts → EntryKindCounts → EntryKindCounts
  total : EntryKindCounts → Nat

/-- The arithmetic works kind by kind. -/
structure EntryKindMethods.Documented (methods : EntryKindMethods) : Prop where
  add : ∀ left right kind, (methods.saturatingAdd left right).count kind =
    min (left.count kind + right.count kind) (2 ^ 64 - 1)
  sub : ∀ left right kind, (methods.saturatingSub left right).count kind = left.count kind - right.count kind

/-- `saturating_add` on `u64`. -/
def saturatingAdd (left right : Nat) : Nat := min (left + right) (2 ^ 64 - 1)

structure ScanCounts where
  scanned : EntryKindCounts
  filtered : EntryKindCounts
  retained : EntryKindCounts
  failed : EntryKindCounts
  vanished : EntryKindCounts
  prunedDirectories : Nat
  truncatedDirectories : Nat
  regularFileBytes : Nat
  unknownFileSizes : Nat
  versions : Nat
  deleteMarkers : Nat
  allVersionsBytes : Nat
  completedListings : Nat
  interruptedListings : Nat
  unreadableListings : Nat
  vanishedListings : Nat
deriving DecidableEq, Repr

def ScanCounts.default : ScanCounts :=
  ⟨.default, .default, .default, .default, .default, 0, 0, 0, 0, 0, 0, 0, 0, 0, 0, 0⟩

inductive ListingOutcome where
  | complete
  | interrupted
  | unreadable
deriving DecidableEq, Repr

structure DirectoryStatistics where
  path : RelativePath
  passStart : Bool
  revision : Nat
  scanned : EntryKindCounts
  filtered : EntryKindCounts
  retained : EntryKindCounts
  failed : EntryKindCounts
  vanished : EntryKindCounts
  prunedDirs : Nat
  truncatedDirs : Nat
  regularFileBytes : Nat
  unknownFileSizes : Nat
  versions : Nat
  deleteMarkers : Nat
  allVersionsBytes : Nat
  outcome : Option ListingOutcome
  vanishedListing : Bool
deriving DecidableEq, Repr

def ScanCounts.fromDirectory (value : DirectoryStatistics) : ScanCounts where
  scanned := value.scanned
  filtered := value.filtered
  retained := value.retained
  failed := value.failed
  vanished := value.vanished
  prunedDirectories := value.prunedDirs
  truncatedDirectories := value.truncatedDirs
  regularFileBytes := value.regularFileBytes
  unknownFileSizes := value.unknownFileSizes
  versions := value.versions
  deleteMarkers := value.deleteMarkers
  allVersionsBytes := value.allVersionsBytes
  completedListings := (decide (value.outcome = some .complete)).toNat
  interruptedListings := (decide (value.outcome = some .interrupted)).toNat
  unreadableListings := (decide (value.outcome = some .unreadable)).toNat
  vanishedListings := value.vanishedListing.toNat

section Counts

variable (methods : EntryKindMethods)

def EntryKindMethods.replace (counts old new : EntryKindCounts) : EntryKindCounts :=
  methods.saturatingAdd (methods.saturatingSub counts old) new

def replaceScalar (counts old new : Nat) : Nat := saturatingAdd (counts - old) new

def ScanCounts.replace (counts old new : ScanCounts) : ScanCounts where
  scanned := methods.replace counts.scanned old.scanned new.scanned
  filtered := methods.replace counts.filtered old.filtered new.filtered
  retained := methods.replace counts.retained old.retained new.retained
  failed := methods.replace counts.failed old.failed new.failed
  vanished := methods.replace counts.vanished old.vanished new.vanished
  prunedDirectories := replaceScalar counts.prunedDirectories old.prunedDirectories new.prunedDirectories
  truncatedDirectories :=
    replaceScalar counts.truncatedDirectories old.truncatedDirectories new.truncatedDirectories
  regularFileBytes := replaceScalar counts.regularFileBytes old.regularFileBytes new.regularFileBytes
  unknownFileSizes := replaceScalar counts.unknownFileSizes old.unknownFileSizes new.unknownFileSizes
  versions := replaceScalar counts.versions old.versions new.versions
  deleteMarkers := replaceScalar counts.deleteMarkers old.deleteMarkers new.deleteMarkers
  allVersionsBytes := replaceScalar counts.allVersionsBytes old.allVersionsBytes new.allVersionsBytes
  completedListings := replaceScalar counts.completedListings old.completedListings new.completedListings
  interruptedListings :=
    replaceScalar counts.interruptedListings old.interruptedListings new.interruptedListings
  unreadableListings := replaceScalar counts.unreadableListings old.unreadableListings new.unreadableListings
  vanishedListings := replaceScalar counts.vanishedListings old.vanishedListings new.vanishedListings

/-! ### The snapshot -/

/-- `ScanSnapshot`, without the capabilities of the storage. -/
structure ScanSnapshot where
  scannedEntries : Nat
  filteredEntries : Nat
  retainedEntries : Nat
  counts : ScanCounts
  complete : Bool
  restarts : Nat
  distributionsComplete : Bool
  distributionsReconciled : Bool
deriving DecidableEq, Repr

namespace ScanSnapshot

def new : ScanSnapshot := ⟨0, 0, 0, .default, false, 0, true, false⟩

/-- The three totals, read off the counts. -/
def setTotals (snapshot : ScanSnapshot) : ScanSnapshot :=
  { snapshot with
    scannedEntries := methods.total snapshot.counts.scanned
    filteredEntries := methods.total snapshot.counts.filtered
    retainedEntries := methods.total snapshot.counts.retained }

def replace (snapshot : ScanSnapshot) (old new : ScanCounts) : ScanSnapshot :=
  setTotals methods { snapshot with counts := snapshot.counts.replace methods old new }

/-- The snapshot part of `restore_scan_counts`. -/
def restore (snapshot : ScanSnapshot) (counts : ScanCounts) : ScanSnapshot :=
  setTotals methods { snapshot with
    distributionsComplete := decide (methods.total counts.retained = 0)
    counts
    restarts := saturatingAdd snapshot.restarts 1
    complete := false
    distributionsReconciled := false }

/-- The snapshot in `to_report_for_scan_prefix`. -/
def forPrefix (snapshot : ScanSnapshot) (counts : ScanCounts) : ScanSnapshot :=
  setTotals methods { snapshot with
    distributionsComplete := decide (methods.total counts.retained = 0)
    counts }

def validCheckpoint (snapshot : ScanSnapshot) (observed : Nat) : Bool :=
  let accounted := methods.saturatingAdd (methods.saturatingAdd
    (methods.saturatingAdd snapshot.counts.filtered snapshot.counts.retained) snapshot.counts.failed)
      snapshot.counts.vanished
  snapshot.counts.scanned = accounted &&
    snapshot.scannedEntries = methods.total snapshot.counts.scanned &&
    snapshot.scannedEntries = observed &&
    snapshot.filteredEntries = methods.total snapshot.counts.filtered &&
    snapshot.retainedEntries = methods.total snapshot.counts.retained

end ScanSnapshot

end Counts

/-! ### Progress -/

inductive TraversalOrder where
  | blocks
  | unordered
deriving DecidableEq, Repr

/-- An entry of the active map: the path, its counts and their revision. -/
structure ActiveDirectory where
  path : RelativePath
  counts : ScanCounts
  revision : Nat
deriving DecidableEq, Repr

/-- `ScanProgress`; the order of the map's keys does not matter to it. -/
structure ScanProgress where
  order : TraversalOrder
  active : List ActiveDirectory
  completePrefix : ScanCounts
  confirmed : ScanCounts
  cursor : Option (List UInt8)
deriving DecidableEq, Repr

/-- What is saved with a checkpoint (its cursor) or at the end of the traversal. -/
structure SavedCheckpoint where
  cursor : Option (List UInt8)
  snapshot : ScanSnapshot
  observedEntries : Nat
deriving DecidableEq, Repr

structure State where
  progress : ScanProgress
  snapshot : ScanSnapshot
  saved : List SavedCheckpoint
deriving DecidableEq, Repr

inductive Event where
  | push (value : DirectoryStatistics)
  | checkpoint (cursor : List UInt8)
  | resumed (checkpoint : Option (List UInt8))
  | finish
deriving DecidableEq, Repr

section Steps

variable (methods : EntryKindMethods)

def ScanProgress.new (order : TraversalOrder) (initial : ScanCounts) (cursor : Option (List UInt8)) :
    ScanProgress :=
  ⟨order, [], initial, initial, cursor⟩

def start (order : TraversalOrder) (snapshot : ScanSnapshot) (cursor : Option (List UInt8)) : State :=
  ⟨.new order snapshot.counts cursor, snapshot, []⟩

/-- `push`; a refusal ends the scan. -/
def push (state : State) (value : DirectoryStatistics) : Option State :=
  let progress := state.progress
  if progress.order = .blocks ∧ progress.active.any (fun directory => directory.path ≠ value.path) then none
  else
    let previous := progress.active.find? fun directory => directory.path = value.path
    let active := progress.active.filter fun directory => directory.path ≠ value.path
    if value.passStart ≠ previous.isNone ∨
        previous.any (fun directory => value.revision ≤ directory.revision) then none
    else
      let old := (previous.map ActiveDirectory.counts).getD .default
      let new := ScanCounts.fromDirectory value
      let snapshot := state.snapshot.replace methods old new
      match value.outcome with
      | some .complete =>
          if methods.total value.failed = 0 then
            some { state with
              snapshot
              progress := { progress with
                active, completePrefix := progress.completePrefix.replace methods .default new } }
          else none
      | none =>
          some { state with
            snapshot, progress := { progress with active := ⟨value.path, new, value.revision⟩ :: active } }
      | _ => none

def ScanProgress.checkpointCounts (progress : ScanProgress) : Option ScanCounts :=
  if progress.order ≠ .blocks ∨ !progress.active.isEmpty then none else some progress.completePrefix

def ScanProgress.confirm (progress : ScanProgress) (cursor : List UInt8) : ScanProgress :=
  { progress with cursor := some cursor, confirmed := progress.completePrefix }

/-- `checkpoint_counts`, the save with its acknowledgement, and `confirm`. -/
def checkpoint (state : State) (cursor : List UInt8) : Option State :=
  state.progress.checkpointCounts.map fun counts =>
    { state with
      saved := state.saved ++
        [⟨some cursor, state.snapshot.forPrefix methods counts, methods.total counts.scanned⟩]
      progress := state.progress.confirm cursor }

def resumed (state : State) (selected : Option (List UInt8)) : Option State :=
  let progress := state.progress
  let counts :=
    match progress.order with
    | .blocks => if selected ≠ progress.cursor then none else some progress.confirmed
    | .unordered => if selected.isSome then none else some .default
  counts.map fun counts =>
    { state with
      progress := { progress with active := [], completePrefix := counts, confirmed := counts }
      snapshot := state.snapshot.restore methods counts }

/-- `finish`, `complete_scan` and the save of the finalizing phase. -/
def finish (state : State) : Option State :=
  if !state.progress.active.isEmpty then none
  else
    let snapshot := { state.snapshot with complete := true }
    some { state with snapshot, saved := state.saved ++ [⟨none, snapshot, snapshot.scannedEntries⟩] }

def step (state : State) : Event → Option State
  | .push value => push methods state value
  | .checkpoint cursor => checkpoint methods state cursor
  | .resumed selected => resumed methods state selected
  | .finish => finish state

def machine : Lib.Machine State Event := ⟨step methods⟩

end Steps

/-! ### What is to be counted -/

/-- The directories of a scan, read off its events: those completed, those at the last confirmed
checkpoint, and the latest revisions of those in progress, over the restored counts. A pass over
a directory that begins after it was completed is one more directory here. -/
structure Ledger where
  order : TraversalOrder
  base : ScanCounts
  done : List DirectoryStatistics
  confirmed : List DirectoryStatistics
  active : List DirectoryStatistics

namespace Ledger

def record (ledger : Ledger) : Event → Ledger
  | .push value =>
      let others := ledger.active.filter fun directory => directory.path ≠ value.path
      if value.outcome.isSome then { ledger with done := ledger.done ++ [value], active := others }
      else { ledger with active := value :: others }
  | .checkpoint _ => { ledger with confirmed := ledger.done }
  | .resumed _ =>
      match ledger.order with
      | .blocks => { ledger with done := ledger.confirmed, active := [] }
      | .unordered => { ledger with base := .default, done := [], confirmed := [], active := [] }
  | .finish => ledger

def of (order : TraversalOrder) (base : ScanCounts) (events : List Event) : Ledger :=
  events.foldl record ⟨order, base, [], [], []⟩

end Ledger

inductive CountGroup where
  | scanned | filtered | retained | failed | vanished
deriving DecidableEq, Repr

inductive Scalar where
  | prunedDirectories | truncatedDirectories | regularFileBytes | unknownFileSizes | versions | deleteMarkers
  | allVersionsBytes | completedListings | interruptedListings | unreadableListings | vanishedListings
deriving DecidableEq, Repr

/-- One `u64` of `ScanCounts`. -/
inductive Counter where
  | kind (group : CountGroup) (kind : EntryKindName)
  | scalar (scalar : Scalar)
deriving DecidableEq, Repr

namespace ScanCounts

def group (counts : ScanCounts) : CountGroup → EntryKindCounts
  | .scanned => counts.scanned
  | .filtered => counts.filtered
  | .retained => counts.retained
  | .failed => counts.failed
  | .vanished => counts.vanished

def count (counts : ScanCounts) : Counter → Nat
  | .kind group kind => (counts.group group).count kind
  | .scalar .prunedDirectories => counts.prunedDirectories
  | .scalar .truncatedDirectories => counts.truncatedDirectories
  | .scalar .regularFileBytes => counts.regularFileBytes
  | .scalar .unknownFileSizes => counts.unknownFileSizes
  | .scalar .versions => counts.versions
  | .scalar .deleteMarkers => counts.deleteMarkers
  | .scalar .allVersionsBytes => counts.allVersionsBytes
  | .scalar .completedListings => counts.completedListings
  | .scalar .interruptedListings => counts.interruptedListings
  | .scalar .unreadableListings => counts.unreadableListings
  | .scalar .vanishedListings => counts.vanishedListings

end ScanCounts

/-- What some directories contribute to a counter. -/
def contributed (values : List DirectoryStatistics) (counter : Counter) : Nat :=
  (values.map fun value => (ScanCounts.fromDirectory value).count counter).sum

namespace Ledger

def completed (ledger : Ledger) (counter : Counter) : Nat :=
  ledger.base.count counter + contributed ledger.done counter

/-- The true total of a counter. -/
def total (ledger : Ledger) (counter : Counter) : Nat :=
  ledger.completed counter + contributed ledger.active counter

/-- The true totals are `u64`. -/
def Fits (ledger : Ledger) : Prop := ∀ counter, ledger.total counter < 2 ^ 64

end Ledger

/-- The cursor that an event has saved, if it saves at all. -/
def Event.savedCursor? : Event → Option (Option (List UInt8))
  | .checkpoint cursor => some (some cursor)
  | .finish => some none
  | .push _ | .resumed _ => none

/-- The saves among some events: what came before each, and its cursor. -/
def savesFrom (before : List Event) : List Event → List (List Event × Option (List UInt8))
  | [] => []
  | event :: rest =>
      match event.savedCursor? with
      | some cursor => (before, cursor) :: savesFrom (before ++ [event]) rest
      | none => savesFrom (before ++ [event]) rest

def saves (events : List Event) : List (List Event × Option (List UInt8)) := savesFrom [] events

/-- Every scanned entry was filtered, retained, failed or vanished. -/
def ScanCounts.Balanced (counts : ScanCounts) : Prop :=
  ∀ kind, counts.scanned.count kind =
    counts.filtered.count kind + counts.retained.count kind + counts.failed.count kind + counts.vanished.count kind

end Terrasync.Scan.Statistics
