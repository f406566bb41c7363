import Mathlib.Algebra.GroupWithZero.Nat
import Terrasync.Lib.SegmentRuns
import Terrasync.Observation

/-! The admission of version histories in `scan/source.rs` and `scan/observation.rs`. An
object with many versions comes as a row of entries of one path with numbered segments.
`ResumableScan` follows them with its own pair, the other two consumers of a traversal with
`HistorySequence`. The failure signal of a scan does not fire here. -/

set_option autoImplicit false

namespace Terrasync.Scan.VersionHistory

open Lib (Shape)

/-! ### Observations -/

/-- `other` numbers the failure classes that no code below tells apart. -/
inductive FailureClass where
  | unsupported
  | invalidInput
  | other (index : Nat)
deriving DecidableEq, Repr

inductive Transience where
  | permanent
  | transient
deriving DecidableEq, Repr

/-- `MetadataObservation` of the tags, without the tags themselves. -/
inductive TagsObservation where
  | value
  | notApplicable
  | unsupported
  | failed (failure : FailureClass) (transience : Transience)
  | notRequested
deriving DecidableEq, Repr

structure VersionRecord where
  isDeleteMarker : Bool
  metadata : Option TagsObservation
deriving DecidableEq, Repr

/-- One segment of an object's versions; the segment number is a `u32`. -/
structure ObjectHistory where
  segment : Nat
  segment_lt : segment < 2 ^ 32
  isComplete : Bool
  records : List VersionRecord
deriving DecidableEq, Repr

structure ObservedEntry where
  path : RelativePath
  kind : EntryKind
  tags : TagsObservation
  history : Option ObjectHistory
  directoryMarkerObject : Option (RelativePath × TagsObservation)
deriving DecidableEq, Repr

/-- The variants of `StorageError` that a traversal's consumers return; `F` is what data-mover
reports with a failed entry or observation. -/
inductive StorageError (F : Type) where
  | entry (path : RelativePath) (failure : FailureClass) (transience : Transience) (diagnostic : String)
  | operation (message : String)
  | incompleteHistory
  | traversalEntry (failure : F)
  | traversalObservation (failure : F)
  | terminal (failure : F)
deriving DecidableEq, Repr

variable {Resume Statistics F : Type}

inductive TraversalItem (Resume Statistics F : Type) where
  | resumed (event : Resume)
  | entry (entry : ObservedEntry)
  | directoryStatistics (statistics : Statistics)
  | checkpoint (bytes : List UInt8)
  | failure (failure : F)
  | observationFailure (failure : F)
deriving DecidableEq, Repr

inductive ResumableScanItem (Resume Statistics : Type) where
  | resumed (event : Resume)
  | entry (entry : ObservedEntry)
  | statistics (statistics : Statistics)
  | checkpoint (bytes : List UInt8)
deriving DecidableEq, Repr

/-! ### Required tags -/

def checkTags (path : RelativePath) : TagsObservation → Except (StorageError F) Unit
  | .value | .notApplicable => .ok ()
  | .unsupported =>
      .error (.entry path .unsupported .permanent "required copy tags were not observed")
  | .failed failure transience =>
      .error (.entry path failure transience "required copy tags were not observed")
  | .notRequested =>
      .error (.entry path .invalidInput .permanent "required copy tags were not observed")

/-- `validate_required_tags`. The default of `MetadataObservations` requested nothing. -/
def validateRequiredTags (entry : ObservedEntry) : Except (StorageError F) Unit :=
  match entry.history, entry.directoryMarkerObject with
  | some history, _ =>
      (history.records.filter fun record => !record.isDeleteMarker).forM fun record =>
        checkTags entry.path (record.metadata.getD .notRequested)
  | none, some (path, tags) => checkTags path tags
  | none, none => if entry.kind ≠ .directory then checkTags entry.path entry.tags else .ok ()

/-- What both machines ask of an entry before its history. -/
def requireTags (tags : Bool) (entry : ObservedEntry) : Except (StorageError F) Unit :=
  if tags then validateRequiredTags entry else .ok ()

/-! ### `HistorySequence` -/

structure HistorySequence where
  path : Option RelativePath
  nextSegment : Nat
deriving DecidableEq, Repr

namespace HistorySequence

def default : HistorySequence := ⟨none, 0⟩

/-- `checked_add(1)` on `u32`. -/
def checkedSuccessor (segment : Nat) : Option Nat := if segment + 1 < 2 ^ 32 then some (segment + 1) else none

/-- A sequence that has refused an entry is not asked again, so a refusal carries no state. -/
def check (sequence : HistorySequence) (entry : ObservedEntry) (tags : Bool) :
    Except (StorageError F) HistorySequence := do
  requireTags tags entry
  match entry.history with
  | some history =>
      let sequence : HistorySequence := if sequence.path = none then ⟨some entry.path, 0⟩ else sequence
      if sequence.path ≠ some entry.path ∨ history.segment ≠ sequence.nextSegment then
        throw (.operation "out-of-order object history")
      match checkedSuccessor sequence.nextSegment with
      | none => throw (.operation "history segment overflow")
      | some next =>
          return if history.isComplete then ⟨none, next⟩ else ⟨sequence.path, next⟩
  | none =>
      if sequence.path.isSome then throw (.operation "interrupted object history")
      return sequence

def isComplete (sequence : HistorySequence) : Bool := sequence.path.isNone

/-- The entries that the walk of `walkdir_with_root_policy` sends on before its first refusal. -/
def admitted (tags : Bool) (sequence : HistorySequence) :
    List (TraversalItem Resume Statistics F) → List ObservedEntry
  | [] => []
  | .resumed _ :: rest => admitted tags default rest
  | .entry entry :: rest =>
      match sequence.check (F := F) entry tags with
      | .ok next => entry :: admitted tags next rest
      | .error _ => []
  | _ :: rest => admitted tags sequence rest

end HistorySequence

/-! ### `DirectoryInventory` -/

structure DirectoryInventory (Resume Statistics F : Type) where
  requiredTags : Bool
  session : List (TraversalItem Resume Statistics F)
  histories : HistorySequence
  ended : Bool

namespace DirectoryInventory

def start (requiredTags : Bool) (session : List (TraversalItem Resume Statistics F)) :
    DirectoryInventory Resume Statistics F :=
  ⟨requiredTags, session, .default, false⟩

def next (inventory : DirectoryInventory Resume Statistics F) :
    Option (Except (StorageError F) (TraversalItem Resume Statistics F)) ×
      DirectoryInventory Resume Statistics F :=
  if inventory.ended then (none, inventory)
  else
    match inventory.session with
    | .resumed event :: rest =>
        (some (.ok (.resumed event)), { inventory with session := rest, histories := .default })
    | .entry entry :: rest =>
        match inventory.histories.check entry inventory.requiredTags with
        | .ok histories => (some (.ok (.entry entry)), { inventory with session := rest, histories })
        | .error error => (some (.error error), { inventory with session := rest, ended := true })
    | item :: rest => (some (.ok item), { inventory with session := rest })
    | [] =>
        if inventory.histories.isComplete then (none, { inventory with ended := true })
        else (some (.error .incompleteHistory), { inventory with ended := true })

/-- The answers of the first calls, up to the first `None`. -/
def answers : Nat → DirectoryInventory Resume Statistics F →
    List (Except (StorageError F) (TraversalItem Resume Statistics F))
  | 0, _ => []
  | calls + 1, inventory =>
      match inventory.next with
      | (none, _) => []
      | (some answer, later) => answer :: answers calls later

end DirectoryInventory

/-! ### `ResumableScan` -/

structure ResumableScan (Resume Statistics F : Type) where
  includeTags : Bool
  session : List (TraversalItem Resume Statistics F)
  history : Option (RelativePath × Nat)

namespace ResumableScan

def start (includeTags : Bool) (session : List (TraversalItem Resume Statistics F)) :
    ResumableScan Resume Statistics F :=
  ⟨includeTags, session, none⟩

/-- `saturating_add(1)` on `u32`. -/
def saturatingSuccessor (segment : Nat) : Nat := min (segment + 1) (2 ^ 32 - 1)

/-- The branch for an entry in the loop of `next`, with the open history behind it: of a history
that is refused out of order, `get_or_insert_with` has already stored the path. -/
def admitEntry (includeTags : Bool) (history : Option (RelativePath × Nat)) (entry : ObservedEntry) :
    Except (StorageError F) Unit × Option (RelativePath × Nat) :=
  match requireTags includeTags entry with
  | .error error => (.error error, history)
  | .ok () =>
      match entry.history with
      | some part =>
          let expected := history.getD (entry.path, 0)
          if expected.1 ≠ entry.path ∨ expected.2 ≠ part.segment then
            (.error (.operation "out-of-order object history"), some expected)
          else (.ok (), if part.isComplete then none else some (expected.1, saturatingSuccessor expected.2))
      | none =>
          if history.isSome then (.error (.operation "interrupted object history"), history)
          else (.ok (), history)

/-- The loop of `next` over the items of the session. Statistics and checkpoints that arrive
inside a history are dropped. -/
def nextFrom (includeTags : Bool) (history : Option (RelativePath × Nat)) :
    List (TraversalItem Resume Statistics F) →
      Option (Except (StorageError F) (ResumableScanItem Resume Statistics)) ×
        ResumableScan Resume Statistics F
  | [] => (none, ⟨includeTags, [], history⟩)
  | .resumed event :: rest => (some (.ok (.resumed event)), ⟨includeTags, rest, none⟩)
  | .directoryStatistics statistics :: rest =>
      if history.isNone then (some (.ok (.statistics statistics)), ⟨includeTags, rest, history⟩)
      else nextFrom includeTags history rest
  | .entry entry :: rest =>
      match admitEntry includeTags history entry with
      | (.ok (), later) => (some (.ok (.entry entry)), ⟨includeTags, rest, later⟩)
      | (.error error, later) => (some (.error error), ⟨includeTags, rest, later⟩)
  | .checkpoint bytes :: rest =>
      if history.isNone then (some (.ok (.checkpoint bytes)), ⟨includeTags, rest, history⟩)
      else nextFrom includeTags history rest
  | .failure failure :: rest => (some (.error (.traversalEntry failure)), ⟨includeTags, rest, history⟩)
  | .observationFailure failure :: rest =>
      (some (.error (.traversalObservation failure)), ⟨includeTags, rest, history⟩)

def next (scan : ResumableScan Resume Statistics F) :
    Option (Except (StorageError F) (ResumableScanItem Resume Statistics)) ×
      ResumableScan Resume Statistics F :=
  nextFrom scan.includeTags scan.history scan.session

/-- The items of the first calls up to the first error or the end, and the scan behind them. -/
def returned : Nat → ResumableScan Resume Statistics F →
    List (ResumableScanItem Resume Statistics) × ResumableScan Resume Statistics F
  | 0, scan => ([], scan)
  | calls + 1, scan =>
      match scan.next with
      | (some (.ok item), later) =>
          match returned calls later with
          | (items, last) => (item :: items, last)
      | (_, later) => ([], later)

/-- `finish`, given what the session's own `finish` answers. -/
def finish {Outcome : Type} (scan : ResumableScan Resume Statistics F) (session : Except F Outcome) :
    Except (StorageError F) Outcome := do
  let outcome ← session.mapError .terminal
  if scan.history.isSome then throw (.operation "scan ended with an incomplete version history")
  return outcome

end ResumableScan

/-! ### What the streams mean -/

def ObservedEntry.shape (entry : ObservedEntry) : Shape RelativePath :=
  match entry.history with
  | none => .alone
  | some history => .segment entry.path history.segment history.isComplete

def TraversalItem.shape : TraversalItem Resume Statistics F → Shape RelativePath
  | .resumed _ => .reset
  | .entry observed => observed.shape
  | _ => .alone

def ResumableScanItem.shape : ResumableScanItem Resume Statistics → Shape RelativePath
  | .resumed _ => .reset
  | .entry observed => observed.shape
  | _ => .alone

def ResumableScanItem.entry? : ResumableScanItem Resume Statistics → Option ObservedEntry
  | .entry observed => some observed
  | _ => none

/-- The items that an open history is about. -/
def TraversalItem.concernsHistory : TraversalItem Resume Statistics F → Bool
  | .resumed _ | .entry _ => true
  | _ => false

def TraversalItem.isFailure : TraversalItem Resume Statistics F → Bool
  | .failure _ | .observationFailure _ => true
  | _ => false

end Terrasync.Scan.VersionHistory
