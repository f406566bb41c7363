import Mathlib.Algebra.Group.Int.Defs
import Mathlib.Algebra.GroupWithZero.Nat
import Terrasync.Event
import Terrasync.Lib.ThreeValued
import Terrasync.SyncDelta.Rolling

/-! Change detection over the nullable columns of a stored row: `Baseline::change` on the
row and the later item, `from_entry_diff` on two observations, and the filters of
`build_detect_changed_sql` on two rows. -/

set_option autoImplicit false

namespace Terrasync.Scan.ChangeDetection

open Lib (Truth)
open SyncDelta (Bytes)

/-! ### Marker states -/

/-- `to_le_bytes` of an unsigned integer of `width` bytes. -/
def toLeBytes (width value : Nat) : Bytes :=
  match width with
  | 0 => []
  | rest + 1 => UInt8.ofNat value :: toLeBytes rest (value / 256)

def asBytes (text : List Char) : Bytes := (String.ofList text).toUTF8.toList

/-- The bytes of a marker object that are hashed; its time is an `i128`. -/
def markerFacts (marker : MarkerObject) : Bytes :=
  marker.identityKey ++ toLeBytes 16 ((marker.modified.getD 0) % 2 ^ 128).toNat ++
    match marker.tags with
    | none => []
    | some tags => 1 :: tags.flatMap fun tag => [tag.1, tag.2].flatMap fun part =>
        toLeBytes 8 (asBytes part).length ++ asBytes part

/-! ### Rows -/

/-- The columns of a captured row that change detection reads. -/
structure ScanRowFields where
  relativePath : RelativePath
  versionId : List Char
  size : UInt64
  mtime : Int
  mode : Option UInt32
  uid : Option UInt32
  gid : Option UInt32
  isDir : Bool
  markerState : Option (List Char)
deriving DecidableEq, Repr

section Detection

-- the hexadecimal digest of `blake3`
variable (blake3Hex : Bytes → List Char)

def directoryMarkerState (entry : EntryFacts) : Option (List Char) :=
  entry.directoryMarkerObject.map fun marker => blake3Hex (markerFacts marker)

def ScanRowFields.capture (view : ObservedView) : ScanRowFields where
  relativePath := view.pathKey
  versionId := view.versionId
  size := view.getSize
  mtime := view.getMtime
  mode := view.mode
  uid := view.uid
  gid := view.gid
  isDir := view.getIsDir
  markerState := directoryMarkerState blake3Hex view.entry

/-- A row of the base table as a batch comparison reads it. -/
abbrev Baseline := ScanRowFields

def kindOf (data metadata : Bool) : Option ChangeKind :=
  match data, metadata with
  | true, true => some .both
  | true, false => some .dataOnly
  | false, true => some .metadataOnly
  | false, false => none

/-- `Baseline::change`. The kind of the later item is not looked at. -/
def Baseline.change (baseline : Baseline) (item : ObservedView) : Option ChangeKind :=
  if baseline.isDir then
    let marker := directoryMarkerState blake3Hex item.entry
    if baseline.markerState.isSome && marker.isNone then some .directoryMarkerRemoved
    else if baseline.markerState ≠ marker then some .dataOnly
    else none
  else
    let data := baseline.size != item.getSize || baseline.mtime != item.getMtime
    let metadata := baseline.mode != item.mode || baseline.uid != item.uid || baseline.gid != item.gid
    kindOf data metadata

/-- `ChangeKind::from_entry_diff`: the facts of the observations themselves. -/
def fromEntryDiff (source target : EntryFacts) : Option ChangeKind :=
  let data := source.whole.getSize != target.whole.getSize ||
    source.whole.getMtime != target.whole.getMtime
  let metadata := source.whole.mode != target.whole.mode || source.whole.uid != target.whole.uid ||
    source.whole.gid != target.whole.gid
  kindOf data metadata

/-! ### `build_detect_changed_sql` -/

/-- `ifNull(t.c = f.c, (t.c IS NULL AND f.c IS NULL))`. -/
def nullSafeEqual {Value : Type} [DecidableEq Value] (first second : Option Value) : Truth :=
  .ifNull (.equal first second) (.and (.isNull first) (.isNull second))

section Filters

variable (t f : ScanRowFields)

def markerEq : Truth := nullSafeEqual t.markerState f.markerState

def sameContent : Truth := .and (some (decide (t.size = f.size))) (some (decide (t.mtime = f.mtime)))

def otherContent : Truth := .or (some (decide (t.size ≠ f.size))) (some (decide (t.mtime ≠ f.mtime)))

def dataChanged : Truth := .or (otherContent t f) (.not (markerEq t f))

def dataUnchanged : Truth := .and (sameContent t f) (markerEq t f)

def modeEq : Truth := nullSafeEqual t.mode f.mode

def uidEq : Truth := nullSafeEqual t.uid f.uid

def gidEq : Truth := nullSafeEqual t.gid f.gid

def metaChanged : Truth := .or (.or (.not (modeEq t f)) (.not (uidEq t f))) (.not (gidEq t f))

def metaUnchanged : Truth := .and (.and (modeEq t f) (uidEq t f)) (gidEq t f)

def markerRemoved : Truth :=
  .and (.and (some t.isDir) (.isNull t.markerState)) (.not (.isNull f.markerState))

def kindFilter : ChangeKind → Truth
  | .directoryMarkerRemoved => markerRemoved t f
  | .dataOnly => .and (.and (dataChanged t f) (metaUnchanged t f)) (.not (markerRemoved t f))
  | .metadataOnly => .and (.and (dataUnchanged t f) (metaChanged t f)) (.not (markerRemoved t f))
  | .both => .and (.and (dataChanged t f) (metaChanged t f)) (.not (markerRemoved t f))

/-- The `WHERE` clause on a row `t` of the batch and the row `f` of its key. -/
def detectChangedFilter (kind : ChangeKind) : Truth :=
  .and (kindFilter t f kind) (.or (some !f.isDir) (.not (markerEq t f)))

end Filters

end Detection

end Terrasync.Scan.ChangeDetection
