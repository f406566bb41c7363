import Terrasync.Scan.ComparisonProperties
import Terrasync.Scan.Finalization

/-! What an incremental round is for: a committed namespace is replaced by the observed one,
and public events tell how the two differ. -/

set_option autoImplicit false

namespace Terrasync.Scan

/-- Rows that `cleanup_candidates` removes. -/
def FinalHistory.transient (row : FinalHistory) : Bool :=
  row.operationType = .candidateNew || row.operationType = .displacedOld

/-- Operation, path, version and comment of an event. -/
abbrev PublicEvent := OperationType × RelativePath × List Char × Option RelativePath

def FinalHistory.publicEvent (row : FinalHistory) : PublicEvent :=
  (row.operationType, row.relativePath, row.versionId, row.comment)

/-- The last observation of each path and version. -/
abbrev Namespace := PathKey → Option ObservedItem

/-- Both observations carry an identity, and not the same one. -/
def Displaced (row item : ObservedItem) : Prop :=
  row.entry.fileHandle.isSome = true ∧ item.entry.fileHandle.isSome = true ∧
    item.entry.fileHandle ≠ row.entry.fileHandle

instance (row item : ObservedItem) : Decidable (Displaced row item) := inferInstanceAs (Decidable (_ ∧ _ ∧ _))

section Difference

-- the hexadecimal digest of `blake3`
variable (blake3Hex : SyncDelta.Bytes → List Char) (before after : Namespace)

/-- The object of a committed path is no longer there. -/
def Lost (key : PathKey) (row : ObservedItem) : Prop :=
  before key = some row ∧ ∀ item, after key = some item → Displaced row item

/-- The object of an observed path was not there. -/
def Arrived (key : PathKey) (item : ObservedItem) : Prop :=
  after key = some item ∧ ∀ row, before key = some row → Displaced row item

/-- The object has one live path now and lost one committed path. -/
def MovedFrom (key source : PathKey) : Prop :=
  ∃ item handle, after key = some item ∧ item.entry.fileHandle = some handle ∧
    (∀ other observed, after other = some observed → observed.entry.fileHandle = some handle → other = key) ∧
    ∀ other, (∃ row, Lost before after other row ∧ row.entry.fileHandle = some handle) ↔ other = source

inductive Published : PublicEvent → Prop
  | changed {key : PathKey} {row item : ObservedItem} :
      before key = some row → after key = some item → ¬Displaced row item →
        (change blake3Hex row item).isSome = true → Published (.changed, key.1, key.2, none)
  | added {key : PathKey} {item : ObservedItem} :
      Arrived before after key item → (∀ source, ¬MovedFrom before after key source) →
        Published (.new, key.1, key.2, none)
  | renamed {key source : PathKey} {item : ObservedItem} :
      Arrived before after key item → MovedFrom before after key source →
        Published (.rename, key.1, key.2, some source.1)
  | deleted {key : PathKey} {row : ObservedItem} :
      Lost before after key row →
        (∀ target item, Arrived before after target item → ¬MovedFrom before after target key) →
          Published (.deleted, key.1, key.2, none)

end Difference

end Terrasync.Scan
