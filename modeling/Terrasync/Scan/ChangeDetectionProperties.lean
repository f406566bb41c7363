import Terrasync.Scan.ChangeDetection

/-! When change detection is complete and agrees over its three implementations: the row
decides for a directory by its marker state alone, for other entries by the facts, and
never by the kind of the later item. -/

set_option autoImplicit false

namespace Terrasync.Scan.ChangeDetection

open Lib (Truth)
open SyncDelta (Bytes)

/-! ### Facts of two views -/

def dataDiffers (first second : ObservedView) : Bool :=
  first.getSize != second.getSize || first.getMtime != second.getMtime

def metadataDiffers (first second : ObservedView) : Bool :=
  first.mode != second.mode || first.uid != second.uid || first.gid != second.gid

/-- Size, times and permissions are equal, an unknown one only to an unknown one. -/
structure SameFacts (first second : ObservedView) : Prop where
  size : first.getSize = second.getSize
  mtime : first.getMtime = second.getMtime
  mode : first.mode = second.mode
  uid : first.uid = second.uid
  gid : first.gid = second.gid

theorem sameFacts_iff {first second : ObservedView} :
    SameFacts first second ↔ dataDiffers first second = false ∧ metadataDiffers first second = false := by
  simp only [dataDiffers, metadataDiffers, Bool.or_eq_false_iff, bne_eq_false_iff_eq]
  constructor
  · intro same
    exact ⟨⟨same.size, same.mtime⟩, ⟨same.mode, same.uid⟩, same.gid⟩
  · rintro ⟨⟨size, mtime⟩, ⟨mode, uid⟩, gid⟩
    exact ⟨size, mtime, mode, uid, gid⟩

theorem kindOf_inj {data metadata data' metadata' : Bool} :
    kindOf data metadata = kindOf data' metadata' ↔ data = data' ∧ metadata = metadata' := by
  revert data metadata data' metadata'
  decide

theorem kindOf_eq_none {data metadata : Bool} :
    kindOf data metadata = none ↔ data = false ∧ metadata = false := by
  revert data metadata
  decide

theorem fromEntryDiff_eq (source target : EntryFacts) :
    fromEntryDiff source target =
      kindOf (dataDiffers source.whole target.whole) (metadataDiffers source.whole target.whole) := rfl

section Detection

variable {blake3Hex : Bytes → List Char} {old item : ObservedView}

theorem directoryMarkerState_of_not_directory {entry : EntryFacts} (other : entry.kind ≠ .directory) :
    directoryMarkerState blake3Hex entry = none := by
  cases marker : entry.directoryMarkerObject with
  | none => rw [directoryMarkerState, marker, Option.map_none]
  | some object => exact absurd (entry.markerOfDirectory (by rw [marker]; rfl)) other

/-- A stored directory changes with its marker state. -/
theorem change_directory (directory : old.entry.kind = .directory) :
    Baseline.change blake3Hex (.capture blake3Hex old) item = none ↔
      directoryMarkerState blake3Hex old.entry = directoryMarkerState blake3Hex item.entry := by
  have isDir : (ScanRowFields.capture blake3Hex old).isDir = true := decide_eq_true directory
  have stored : (ScanRowFields.capture blake3Hex old).markerState =
      directoryMarkerState blake3Hex old.entry := rfl
  rw [Baseline.change, if_pos isDir, stored]
  cases directoryMarkerState blake3Hex old.entry <;>
    cases directoryMarkerState blake3Hex item.entry <;> simp

/-- Any other stored entry changes with its facts. -/
theorem change_other (other : old.entry.kind ≠ .directory) :
    Baseline.change blake3Hex (.capture blake3Hex old) item =
      kindOf (dataDiffers old item) (metadataDiffers old item) := by
  have isDir : ¬(ScanRowFields.capture blake3Hex old).isDir = true := by
    simpa [ScanRowFields.capture, ObservedView.getIsDir] using other
  rw [Baseline.change, if_neg isDir]
  rfl

theorem markerEq_other (other : old.entry.kind ≠ .directory) (other' : item.entry.kind ≠ .directory) :
    markerEq (.capture blake3Hex item) (.capture blake3Hex old) = some true := by
  have stored : (ScanRowFields.capture blake3Hex old).markerState = none :=
    directoryMarkerState_of_not_directory other
  have later : (ScanRowFields.capture blake3Hex item).markerState = none :=
    directoryMarkerState_of_not_directory other'
  rw [markerEq, nullSafeEqual, Truth.ifNull_equal, stored, later]
  rfl

theorem otherContent_eq : otherContent (.capture blake3Hex item) (.capture blake3Hex old) =
    some (dataDiffers old item) := by
  rw [otherContent, Truth.or_some, Option.some_inj, Bool.eq_iff_iff]
  simp [dataDiffers, ScanRowFields.capture, @eq_comm _ item.getSize, @eq_comm _ item.getMtime]

theorem sameContent_eq : sameContent (.capture blake3Hex item) (.capture blake3Hex old) =
    some !dataDiffers old item := by
  rw [sameContent, Truth.and_some, Option.some_inj, Bool.eq_iff_iff]
  simp [dataDiffers, ScanRowFields.capture, @eq_comm _ item.getSize, @eq_comm _ item.getMtime]

theorem metaChanged_eq : metaChanged (.capture blake3Hex item) (.capture blake3Hex old) =
    some (metadataDiffers old item) := by
  simp only [metaChanged, modeEq, uidEq, gidEq, nullSafeEqual, Truth.ifNull_equal, Truth.not_some,
    Truth.or_some]
  rw [Option.some_inj, Bool.eq_iff_iff]
  simp [metadataDiffers, ScanRowFields.capture, @eq_comm _ item.mode, @eq_comm _ item.uid,
    @eq_comm _ item.gid]

theorem metaUnchanged_eq : metaUnchanged (.capture blake3Hex item) (.capture blake3Hex old) =
    some !metadataDiffers old item := by
  simp only [metaUnchanged, modeEq, uidEq, gidEq, nullSafeEqual, Truth.ifNull_equal, Truth.and_some]
  rw [Option.some_inj, Bool.eq_iff_iff]
  simp [metadataDiffers, ScanRowFields.capture, @eq_comm _ item.mode, @eq_comm _ item.uid,
    @eq_comm _ item.gid]

theorem markerRemoved_other (other' : item.entry.kind ≠ .directory) :
    markerRemoved (.capture blake3Hex item) (.capture blake3Hex old) = some false := by
  have isDir : (ScanRowFields.capture blake3Hex item).isDir = false := decide_eq_false other'
  rw [markerRemoved, isDir]
  rfl

/-- On two entries that are no directories, the filters decide like the facts. -/
theorem detectChangedFilter_other (other : old.entry.kind ≠ .directory)
    (other' : item.entry.kind ≠ .directory) (kind : ChangeKind) :
    (detectChangedFilter (.capture blake3Hex item) (.capture blake3Hex old) kind).Holds ↔
      kindOf (dataDiffers old item) (metadataDiffers old item) = some kind := by
  have isDir : (ScanRowFields.capture blake3Hex old).isDir = false := decide_eq_false other
  rw [detectChangedFilter, isDir, markerEq_other other other']
  have changed : dataChanged (.capture blake3Hex item) (.capture blake3Hex old) =
      some (dataDiffers old item) := by
    rw [dataChanged, otherContent_eq, markerEq_other other other', Truth.not_some, Truth.or_some,
      Bool.not_true, Bool.or_false]
  have unchanged : dataUnchanged (.capture blake3Hex item) (.capture blake3Hex old) =
      some !dataDiffers old item := by
    rw [dataUnchanged, sameContent_eq, markerEq_other other other', Truth.and_some, Bool.and_true]
  cases kind <;> rw [kindFilter, markerRemoved_other other'] <;>
    simp only [changed, unchanged, metaChanged_eq, metaUnchanged_eq, Truth.not_some, Truth.and_some,
      Truth.or_some, Truth.holds_some] <;>
    cases dataDiffers old item <;> cases metadataDiffers old item <;> decide

/-! ### The claim of completeness and agreement -/

/-- What no change may mean. -/
def Unchanged (blake3Hex : Bytes → List Char) (old item : ObservedView) : Prop :=
  old.entry.kind = .directory ∧ item.entry.kind = .directory ∧
      directoryMarkerState blake3Hex old.entry = directoryMarkerState blake3Hex item.entry ∨
    old.entry.kind ≠ .directory ∧ old.entry.kind = item.entry.kind ∧ SameFacts old item

/-- Change detection on the row captured from `old` and a later item. -/
structure Detects (blake3Hex : Bytes → List Char) (old item : ObservedView) : Prop where
  complete : Baseline.change blake3Hex (.capture blake3Hex old) item = none → Unchanged blake3Hex old item
  observed : old.entry.kind ≠ .directory → item.entry.kind ≠ .directory →
    Baseline.change blake3Hex (.capture blake3Hex old) item = fromEntryDiff old.entry item.entry
  filtered : old.entry.kind ≠ .directory → item.entry.kind ≠ .directory → ∀ kind,
    (detectChangedFilter (.capture blake3Hex item) (.capture blake3Hex old) kind).Holds ↔
      Baseline.change blake3Hex (.capture blake3Hex old) item = some kind

/-- A change of kind shows in the marker of the stored directory or in the facts. -/
def KindShows (old item : ObservedView) : Prop :=
  old.entry.kind ≠ item.entry.kind →
    if old.entry.kind = .directory then old.entry.directoryMarkerObject.isSome = true
    else ¬SameFacts old item

/-- The observations differ where their selected versions do. -/
def VersionsDifferAlike (old item : ObservedView) : Prop :=
  old.entry.kind ≠ .directory → item.entry.kind ≠ .directory →
    dataDiffers old.entry.whole item.entry.whole = dataDiffers old item ∧
      metadataDiffers old.entry.whole item.entry.whole = metadataDiffers old item

/-- Without selected versions an observation is its own view. -/
theorem versionsDifferAlike_of_whole (unversioned : old.versionIndex = none)
    (unversioned' : item.versionIndex = none) : VersionsDifferAlike old item := by
  have whole : old.entry.whole = old := by rw [EntryFacts.whole, ← unversioned]
  have whole' : item.entry.whole = item := by rw [EntryFacts.whole, ← unversioned']
  intro _ _
  rw [whole, whole']
  exact ⟨rfl, rfl⟩

theorem complete_iff : (Baseline.change blake3Hex (.capture blake3Hex old) item = none →
    Unchanged blake3Hex old item) ↔ KindShows old item := by
  by_cases directory : old.entry.kind = .directory
  · rw [change_directory directory, KindShows, if_pos directory]
    by_cases same : item.entry.kind = .directory
    · refine iff_of_true (fun marker => .inl ⟨directory, same, marker⟩) fun differs => ?_
      exact absurd (directory.trans same.symm) differs
    · rw [directoryMarkerState_of_not_directory same]
      have differs : old.entry.kind ≠ item.entry.kind := fun equal => same (equal.symm.trans directory)
      constructor
      · intro complete _
        cases marker : old.entry.directoryMarkerObject with
        | some object => rfl
        | none =>
            have unmarked : directoryMarkerState blake3Hex old.entry = none := by
              rw [directoryMarkerState, marker, Option.map_none]
            obtain ⟨-, both, -⟩ | ⟨other, -⟩ := complete unmarked
            · exact absurd both same
            · exact absurd directory other
      · intro shows unmarked
        have marked := shows differs
        rw [directoryMarkerState, Option.map_eq_none_iff] at unmarked
        rw [unmarked] at marked
        cases marked
  · rw [change_other directory, kindOf_eq_none, ← sameFacts_iff, KindShows, if_neg directory]
    constructor
    · intro complete differs same
      obtain ⟨both, -⟩ | ⟨-, equal, -⟩ := complete same
      · exact directory both
      · exact differs equal
    · intro shows same
      refine .inr ⟨directory, ?_, same⟩
      by_contra differs
      exact shows differs same

/-- Change detection is complete and agrees over its implementations exactly when a
change of kind shows and the versions differ like their observations. -/
theorem change_detection_exact (blake3Hex : Bytes → List Char) (old item : ObservedView) :
    Detects blake3Hex old item ↔ KindShows old item ∧ VersionsDifferAlike old item := by
  have observed : (old.entry.kind ≠ .directory → item.entry.kind ≠ .directory →
      Baseline.change blake3Hex (.capture blake3Hex old) item = fromEntryDiff old.entry item.entry) ↔
        VersionsDifferAlike old item := by
    refine imp_congr_right fun other => imp_congr_right fun other' => ?_
    rw [change_other other, fromEntryDiff_eq, kindOf_inj, eq_comm, @eq_comm _ (metadataDiffers old item)]
  rw [← @complete_iff blake3Hex, ← observed]
  constructor
  · intro detects
    exact ⟨detects.complete, detects.observed⟩
  · rintro ⟨complete, observed⟩
    refine ⟨complete, observed, fun other other' kind => ?_⟩
    rw [detectChangedFilter_other other other', change_other other]

end Detection

/-- An entry of a storage without identities, owners and markers. -/
def plainEntry (kind : EntryKind) (size : Option UInt64) : EntryFacts := .new ['a'] kind size none

/-- A directory became a file of the same key, and the row shows no change. -/
theorem directory_replaced_by_file :
    let old := (plainEntry .directory none).whole
    let item := (plainEntry .file (some 5)).whole
    (old.pathKey, old.versionId) = (item.pathKey, item.versionId) ∧
      Baseline.change (fun _ => []) (.capture (fun _ => []) old) item = none ∧
      ¬Detects (fun _ => []) old item := by
  intro old item
  refine ⟨rfl, rfl, fun detects => ?_⟩
  obtain ⟨-, directory, -⟩ | ⟨other, -⟩ := detects.complete rfl
  · cases directory
  · exact other rfl

end Terrasync.Scan.ChangeDetection
