import Terrasync.Event
import Terrasync.Lib.Machine

/-! The integrity check: a walk of the source feeds a bounded queue, workers take entries
from it, compare them with the destination and note what they found. -/

set_option autoImplicit false

namespace Terrasync.App

inductive MismatchLabel where
  | entryKind
  | size
  | readLength
  | streamOffset
  | content
  | mtime
  | uid
  | gid
  | mode
  | hdfsOwner
  | hdfsGroup
deriving DecidableEq, Repr

inductive MismatchDataField where
  | entryKind
  | size
  | readLength
  | streamOffset
  | content
deriving DecidableEq, Repr

inductive MismatchMetaField where
  | mtime
  | uid
  | gid
  | mode
  | hdfsOwner
  | hdfsGroup
deriving DecidableEq, Repr

/-- The failures of `compare_entry`, as far as the check distinguishes them. -/
inductive CompareError where
  | mismatchData (fields : List MismatchDataField)
  | mismatchMeta (fields : List MismatchMetaField)
  | cancelled
  | other (isNotFound : Bool) (text : List Char)
deriving DecidableEq, Repr

def MismatchDataField.label : MismatchDataField → MismatchLabel
  | .entryKind => .entryKind
  | .size => .size
  | .readLength => .readLength
  | .streamOffset => .streamOffset
  | .content => .content

def MismatchMetaField.label : MismatchMetaField → MismatchLabel
  | .mtime => .mtime
  | .uid => .uid
  | .gid => .gid
  | .mode => .mode
  | .hdfsOwner => .hdfsOwner
  | .hdfsGroup => .hdfsGroup

def structuredMismatchLabels : CompareError → Option (List MismatchLabel)
  | .mismatchData fields => some (fields.map MismatchDataField.label)
  | .mismatchMeta fields => some (fields.map MismatchMetaField.label)
  | _ => none

def detectContentMismatch (mismatches : List MismatchLabel) : Bool :=
  mismatches.any fun label =>
    label ∈ [.entryKind, .size, .readLength, .streamOffset, .content, MismatchLabel.mtime]

inductive IssueKind where
  | missing
  | mismatch
  | error
deriving DecidableEq, Repr

inductive FixStatus where
  | notAttempted
  | fixed
  | partiallyFixed
  | fixFailed
deriving DecidableEq, Repr

inductive EntryType where
  | file
  | dir
  | symlink
deriving DecidableEq, Repr

structure IntegrityIssue where
  path : RelativePath
  entryType : EntryType
  kind : IssueKind
  mismatches : List MismatchLabel
  fixStatus : FixStatus
deriving DecidableEq, Repr

/-- `apply_auto_fix`, over whether `set_metadata` succeeded. -/
def applyAutoFix (setMetadata hasContentMismatch : Bool) : FixStatus :=
  if setMetadata then (if hasContentMismatch then .partiallyFixed else .fixed) else .fixFailed

def buildMismatchIssue (path : RelativePath) (entryType : EntryType) (mismatches : List MismatchLabel)
    (autoFix setMetadata : Bool) : IntegrityIssue where
  path
  entryType
  kind := .mismatch
  mismatches
  fixStatus :=
    if autoFix then applyAutoFix setMetadata (detectContentMismatch mismatches) else .notAttempted

def buildLookupIssue (entryType : EntryType) (path : RelativePath) (isNotFound : Bool) :
    IntegrityIssue where
  path
  entryType
  kind := if isNotFound then .missing else .error
  mismatches := []
  fixStatus := .notAttempted

def cancelledReason : List Char := "integrity check cancelled".toList

/-- What `process_entry` leaves behind: an issue to push and the reason it returns. -/
def processEntry (path : RelativePath) (entryType : EntryType) (autoFix setMetadata : Bool) :
    Except CompareError Unit → Option IntegrityIssue × Option (List Char)
  | .ok () => (none, none)
  | .error error =>
      match structuredMismatchLabels error with
      | some labels => (some (buildMismatchIssue path entryType labels autoFix setMetadata), none)
      | none =>
          match error with
          | .other isNotFound text => (some (buildLookupIssue entryType path isNotFound), some text)
          | _ => (none, some cancelledReason)

/-- The branch of `dispatch` an entry takes. -/
def entryType (entry : ObservedEntry) : EntryType :=
  if entry.getIsSymlink then .symlink else if entry.getIsDir then .dir else .file

structure IntegrityCheckConfig where
  autoFix : Bool
  /-- `holds_directory_objects` of the destination. -/
  holdsDirectoryObjects : Bool
  checkConcurrency : Nat
deriving DecidableEq, Repr

/-- An entry a worker dispatched. Without a result it was not compared. -/
structure Checked where
  worker : Nat
  entry : ObservedEntry
  compared : Option (Except CompareError Unit)
  setMetadata : Bool

namespace Checked

def outcome (autoFix : Bool) (checked : Checked) : Option IntegrityIssue × Option (List Char) :=
  match checked.compared with
  | some result =>
      processEntry checked.entry.path (entryType checked.entry) autoFix checked.setMetadata result
  | none => (none, none)

def issue (autoFix : Bool) (checked : Checked) : Option IntegrityIssue := (checked.outcome autoFix).1

def message (autoFix : Bool) (checked : Checked) : StorageEntryMessage :=
  match (checked.outcome autoFix).2 with
  | some reason => .error .integrityCheck checked.entry.path (some checked.entry) reason
  | none => .integrityChecked checked.entry

end Checked

/-- What the walk delivers. -/
inductive WalkItem where
  | scanned (entry : ObservedEntry)
  | error (path : RelativePath) (entry : Option ObservedEntry) (reason : List Char)
deriving DecidableEq, Repr

def WalkItem.entry : WalkItem → Option ObservedEntry
  | .scanned entry => some entry
  | .error _ _ _ => none

/-- Where a worker stands. Within one entry: taken, compared, issue pushed, counted. -/
inductive CheckWorker where
  | spawned
  | setupFailed
  | waiting
  | received (entry : ObservedEntry)
  | compared (checked : Checked)
  | reported (checked : Checked)
  | counted (checked : Checked)
  | forwarding (path : RelativePath) (entry : Option ObservedEntry) (reason : List Char)
  | returned
  | panicked

def CheckWorker.ended : CheckWorker → Bool
  | .setupFailed | .returned | .panicked => true
  | _ => false

structure CheckState where
  /-- The walk task: what is left to find, and the message it is sending. -/
  remaining : List WalkItem
  sending : Option WalkItem
  queue : List WalkItem
  channelClosed : Bool
  storedError : Bool
  /-- The scan failure signal. -/
  scanFailed : Bool
  workers : List CheckWorker
  issues : List IntegrityIssue
  checkedFiles : Nat
  checkedDirs : Nat
  checkedSymlinks : Nat
  broadcasts : List StorageEntryMessage
  /-- What the workers dispatched so far. -/
  history : List Checked
  /-- The return value, once there is one. -/
  succeeded : Option Bool

namespace CheckState

def initial (config : IntegrityCheckConfig) (walk : List WalkItem) : CheckState where
  remaining := walk
  sending := none
  queue := []
  channelClosed := false
  storedError := false
  scanFailed := false
  workers := List.replicate config.checkConcurrency .spawned
  issues := []
  checkedFiles := 0
  checkedDirs := 0
  checkedSymlinks := 0
  broadcasts := []
  history := []
  succeeded := none

/-- `take_error` finds something. -/
def failed (state : CheckState) : Bool := state.scanFailed || state.storedError

def checked (state : CheckState) : EntryType → Nat
  | .file => state.checkedFiles
  | .dir => state.checkedDirs
  | .symlink => state.checkedSymlinks

def increment (state : CheckState) : EntryType → CheckState
  | .file => { state with checkedFiles := state.checkedFiles + 1 }
  | .dir => { state with checkedDirs := state.checkedDirs + 1 }
  | .symlink => { state with checkedSymlinks := state.checkedSymlinks + 1 }

def setWorker (state : CheckState) (index : Nat) (worker : CheckWorker) : CheckState :=
  { state with workers := state.workers.set index worker }

end CheckState

inductive CheckAction where
  | observe
  | send
  | endWalk
  | scanFails
  | createStorages (worker : Nat) (created : Bool)
  | next (worker : Nat)
  | compare (worker : Nat) (result : Except CompareError Unit) (setMetadata : Bool)
  | pushIssue (worker : Nat)
  | count (worker : Nat)
  | broadcast (worker : Nat)
  | panic (worker : Nat)
  | finish

namespace CheckState

def channelCapacity : Nat := 128

/-- The walk finds its next item. An error is stored before it is sent. -/
def observe (state : CheckState) : Option CheckState :=
  match state.sending, state.remaining with
  | none, item :: rest =>
      some { state with
        remaining := rest
        sending := some item
        storedError := state.storedError || item.entry.isNone }
  | _, _ => none

/-- A walk whose channel is closed returns. -/
def send (state : CheckState) : Option CheckState :=
  match state.sending with
  | none => none
  | some item =>
      if state.channelClosed then some { state with remaining := [], sending := none }
      else if state.queue.length < channelCapacity then
        some { state with sending := none, queue := state.queue ++ [item] }
      else none

def endWalk (state : CheckState) : Option CheckState :=
  if state.remaining = [] ∧ state.sending = none then some { state with channelClosed := true }
  else none

/-- `next`: a scan failure comes before what is queued. -/
def next (state : CheckState) (index : Nat) : Option CheckState :=
  match state.workers[index]? with
  | some .waiting =>
      if state.scanFailed then some { state.setWorker index .returned with channelClosed := true }
      else
        match state.queue with
        | .scanned entry :: rest =>
            some { state.setWorker index (.received entry) with queue := rest }
        | .error path entry reason :: rest =>
            some { state.setWorker index (.forwarding path entry reason) with queue := rest }
        | [] => if state.channelClosed then some (state.setWorker index .returned) else none
  | _ => none

/-- The comparison of `dispatch`; directories are skipped if the destination holds them
as objects. -/
def compare (config : IntegrityCheckConfig) (state : CheckState) (index : Nat)
    (result : Except CompareError Unit) (setMetadata : Bool) : Option CheckState :=
  match state.workers[index]? with
  | some (.received entry) =>
      let skipped := entryType entry = .dir ∧ config.holdsDirectoryObjects
      let checked : Checked := ⟨index, entry, if skipped then none else some result, setMetadata⟩
      some { state.setWorker index (.compared checked) with history := state.history ++ [checked] }
  | _ => none

def pushIssue (config : IntegrityCheckConfig) (state : CheckState) (index : Nat) :
    Option CheckState :=
  match state.workers[index]? with
  | some (.compared checked) =>
      some { state.setWorker index (.reported checked) with
        issues := state.issues ++ (checked.issue config.autoFix).toList }
  | _ => none

def count (state : CheckState) (index : Nat) : Option CheckState :=
  match state.workers[index]? with
  | some (.reported checked) =>
      some ((state.setWorker index (.counted checked)).increment (entryType checked.entry))
  | _ => none

def broadcast (config : IntegrityCheckConfig) (state : CheckState) (index : Nat) :
    Option CheckState :=
  match state.workers[index]? with
  | some (.counted checked) =>
      some { state.setWorker index .waiting with
        broadcasts := state.broadcasts ++ [checked.message config.autoFix] }
  | some (.forwarding path entry reason) =>
      some { state.setWorker index .waiting with
        broadcasts := state.broadcasts ++ [.error .integrityCheck path entry reason] }
  | _ => none

def step (config : IntegrityCheckConfig) (state : CheckState) (action : CheckAction) :
    Option CheckState :=
  if state.succeeded.isSome then none
  else
    match action with
    | .observe => state.observe
    | .send => state.send
    | .endWalk => state.endWalk
    | .scanFails => some { state with scanFailed := true }
    | .createStorages index created =>
        match state.workers[index]? with
        | some .spawned => some (state.setWorker index (if created then .waiting else .setupFailed))
        | _ => none
    | .next index => state.next index
    | .compare index result setMetadata => state.compare config index result setMetadata
    | .pushIssue index => state.pushIssue config index
    | .count index => state.count index
    | .broadcast index => state.broadcast config index
    | .panic index =>
        match state.workers[index]? with
        | some worker => if worker.ended then none else some (state.setWorker index .panicked)
        | none => none
    | .finish =>
        if state.workers.all CheckWorker.ended then some { state with succeeded := some (!state.failed) }
        else none

end CheckState

/-- `integrity_check_with_concurrency`, from the start of its workers. -/
def integrityCheck (config : IntegrityCheckConfig) : Lib.Machine CheckState CheckAction :=
  ⟨CheckState.step config⟩

end Terrasync.App
