import Terrasync.App.AutoFix

/-! When the status of an automatic repair is truthful. The comparison of the storage library is a
parameter: exact up to the precision of the destination's times, and blind to everything that a
mutation does not name. -/

set_option autoImplicit false

namespace Terrasync.App.AutoFix


/-! ### What a comparison notes -/

section

variable {source : SourceEntry}

namespace IntegrityDifference

def isMetadata : IntegrityDifference → Bool
  | .modified .. | .permissions .. => true
  | _ => false

def isModified : IntegrityDifference → Bool
  | .modified .. => true
  | _ => false

/-- The difference at which `compare_entry` gives up. -/
def failure? (source : SourceEntry) : IntegrityDifference → Option CompareError
  | .missing => some (fileNotFound source.path)
  | .unsupported text => some (unsupportedDifference text)
  | _ => none

def dataFields (source : SourceEntry) : IntegrityDifference → List MismatchDataField
  | .size _ _ => if source.kind = .directory then [] else [.size]
  | .content => [.content]
  | .kind _ _ => [.entryKind]
  | .missing | .modified _ _ | .permissions _ _ | .unsupported _ => []

def metaFields : IntegrityDifference → List MismatchMetaField
  | .modified .. => [.mtime]
  | .permissions source destination => notePermissions source destination
  | _ => []

end IntegrityDifference

open IntegrityDifference

theorem note_eq (noted : Noted) (difference : IntegrityDifference) :
    note source noted difference =
      match difference.failure? source with
      | some error => .error error
      | none => .ok ⟨noted.data ++ difference.dataFields source, noted.metadata ++ difference.metaFields⟩ := by
  cases difference with
  | size =>
      simp only [note, failure?, dataFields, metaFields]
      split <;> simp
  | missing | unsupported => rfl
  | content | kind | modified | permissions => simp [note, failure?, dataFields, metaFields]

theorem foldlM_note (differences : List IntegrityDifference) (noted : Noted) :
    differences.foldlM (note source) noted =
      match differences.findSome? (failure? source) with
      | some error => .error error
      | none => .ok ⟨noted.data ++ differences.flatMap (dataFields source),
          noted.metadata ++ differences.flatMap metaFields⟩ := by
  induction differences generalizing noted with
  | nil => simp [pure, Except.pure]
  | cons difference rest ih =>
      rw [List.foldlM_cons, note_eq, List.findSome?_cons]
      cases failed : difference.failure? source with
      | some error => rfl
      | none =>
          rw [List.flatMap_cons, List.flatMap_cons, ← List.append_assoc, ← List.append_assoc]
          exact ih ⟨_, _⟩

/-- What the two lists come to. -/
def verdict (data : List MismatchDataField) (metadata : List MismatchMetaField) : Except CompareError Unit :=
  if data ≠ [] then .error (.mismatchData data)
  else if metadata ≠ [] then .error (.mismatchMeta metadata)
  else .ok ()

theorem compareEntry_eq (differences : List IntegrityDifference) :
    compareEntry source differences =
      match differences.findSome? (failure? source) with
      | some error => .error error
      | none => verdict (differences.flatMap (dataFields source)) (differences.flatMap metaFields) := by
  rw [compareEntry, foldlM_note]
  split <;> rfl

theorem failure?_unlabelled {difference : IntegrityDifference} {error : CompareError}
    (failed : difference.failure? source = some error) : structuredMismatchLabels error = none := by
  cases difference <;> cases failed <;> rfl

/-- A comparison whose error has labels ran to its end. -/
theorem labelled_complete {differences : List IntegrityDifference} {error : CompareError}
    {labels : List MismatchLabel} (compared : compareEntry source differences = .error error)
    (labelled : structuredMismatchLabels error = some labels) :
    differences.findSome? (failure? source) = none ∧
      verdict (differences.flatMap (dataFields source)) (differences.flatMap metaFields) = .error error := by
  rw [compareEntry_eq] at compared
  cases failed : differences.findSome? (failure? source) with
  | none =>
      rw [failed] at compared
      exact ⟨rfl, compared⟩
  | some other =>
      rw [failed] at compared
      cases compared
      obtain ⟨difference, _, gaveUp⟩ := List.exists_of_findSome?_eq_some failed
      rw [failure?_unlabelled gaveUp] at labelled
      cases labelled

theorem detect_data {data : List MismatchDataField} (found : data ≠ []) :
    detectContentMismatch (data.map MismatchDataField.label) = true := by
  obtain ⟨field, rest, rfl⟩ := List.exists_cons_of_ne_nil found
  refine List.any_eq_true.mpr ⟨field.label, List.mem_cons_self, ?_⟩
  cases field <;> rfl

theorem detect_meta (metadata : List MismatchMetaField) :
    detectContentMismatch (metadata.map MismatchMetaField.label) = true ↔ .mtime ∈ metadata := by
  rw [detectContentMismatch, List.any_map, List.any_eq_true]
  constructor
  · rintro ⟨field, member, content⟩
    cases field with
    | mtime => exact member
    | uid | gid | mode | hdfsOwner | hdfsGroup => cases content
  · exact fun member => ⟨.mtime, member, rfl⟩

end

/-! ### Differences of the metadata -/

/-- Both values are known, and they are not the same. -/
def Differ {Value : Type} (first second : Option Value) : Prop :=
  ∃ value other, first = some value ∧ second = some other ∧ value ≠ other

theorem noteIfDiffer_eq_nil {field : MismatchMetaField} {first second : Option UInt32} :
    noteIfDiffer field first second = [] ↔ ¬ Differ first second := by
  cases first with
  | none => simp [noteIfDiffer, Differ]
  | some value =>
      cases second with
      | none => simp [noteIfDiffer, Differ]
      | some other => simp [noteIfDiffer, Differ]

theorem mtime_not_noted (first second : Permissions) : MismatchMetaField.mtime ∉ notePermissions first second := by
  have other : ∀ {field : MismatchMetaField} {value value' : Option UInt32}, field ≠ .mtime →
      .mtime ∉ noteIfDiffer field value value' := by
    intro field value value' different member
    unfold noteIfDiffer at member
    split at member
    · split at member
      · exact different (List.mem_singleton.mp member).symm
      · exact absurd member List.not_mem_nil
    · exact absurd member List.not_mem_nil
  simp only [notePermissions, List.mem_append]
  rintro ((mode | uid) | gid)
  · exact other (by decide) mode
  · exact other (by decide) uid
  · exact other (by decide) gid

section

variable (source : SourceEntry) (state : DestMetadata)

def UidDiffers : Prop := Differ (view source).uid (numericId? state.permissions.owner)

def GidDiffers : Prop := Differ (view source).gid (numericId? state.permissions.group)

def ModeDiffers : Prop := Differ (view source).mode state.permissions.mode

/-- Both times are known and differ at the precision. -/
def TimeDiffers (precision : TimePrecision) : Prop :=
  ∃ time other, modified? source = some time ∧ state.modified = some other ∧
    time / precision.1 ≠ other / precision.1

end

/-- The comparison of the source with a destination whose metadata is given and whose content does
not change: exact, and for times up to the precision, which is the one of the destination. -/
structure ExactUpTo (precision : TimePrecision) (storage : Storage) (source : SourceEntry)
    (compare : DestMetadata → List IntegrityDifference) : Prop where
  stored : ∀ target, storage.copiedMetadataTarget = some target →
    ∀ other, target.timestamps = .stored other → other = precision
  modified : ∀ state, (∃ difference ∈ compare state, difference.isModified) ↔ TimeDiffers source state precision
  facts : ∀ state permissions permissions', .permissions permissions permissions' ∈ compare state →
    permissions.mode = (view source).mode ∧ numericId? permissions.owner = (view source).uid ∧
      numericId? permissions.group = (view source).gid ∧ permissions' = state.permissions
  permissions : ∀ state, UidDiffers source state ∨ GidDiffers source state ∨ ModeDiffers source state →
    ∃ permissions permissions', .permissions permissions permissions' ∈ compare state
  content : ∀ state state', (compare state).filter (fun difference => !difference.isMetadata) =
    (compare state').filter fun difference => !difference.isMetadata

section

open IntegrityDifference

variable {precision : TimePrecision} {storage : Storage} {source : SourceEntry}
  {compare : DestMetadata → List IntegrityDifference}

theorem flatMap_of_filter {Value : Type} {found : IntegrityDifference → List Value}
    (silent : ∀ difference : IntegrityDifference, difference.isMetadata → found difference = [])
    (differences : List IntegrityDifference) :
    (differences.filter fun difference => !difference.isMetadata).flatMap found = differences.flatMap found := by
  induction differences with
  | nil => rfl
  | cons difference rest ih =>
      cases kind : difference.isMetadata with
      | false => rw [List.filter_cons_of_pos (by simp [kind]), List.flatMap_cons, List.flatMap_cons, ih]
      | true => rw [List.filter_cons_of_neg (by simp [kind]), List.flatMap_cons, silent difference kind, ih,
          List.nil_append]

/-- No mutation changes what is found of the content. -/
theorem ExactUpTo.data (exact : ExactUpTo precision storage source compare) (state state' : DestMetadata) :
    (compare state).flatMap (dataFields source) = (compare state').flatMap (dataFields source) := by
  have silent : ∀ difference : IntegrityDifference, difference.isMetadata → difference.dataFields source = [] := by
    intro difference kind
    cases difference <;> first | rfl | cases kind
  rw [← flatMap_of_filter silent, exact.content state state', flatMap_of_filter silent]

theorem ExactUpTo.complete (exact : ExactUpTo precision storage source compare) {state : DestMetadata}
    (complete : (compare state).findSome? (failure? source) = none) (state' : DestMetadata) :
    (compare state').findSome? (failure? source) = none := by
  refine List.findSome?_eq_none_iff.mpr fun difference member => ?_
  cases kind : difference.isMetadata with
  | true => cases difference <;> first | rfl | cases kind
  | false =>
      have kept : difference ∈ (compare state').filter fun difference => !difference.isMetadata :=
        List.mem_filter.mpr ⟨member, by rw [kind]; rfl⟩
      rw [exact.content state' state] at kept
      exact List.findSome?_eq_none_iff.mp complete difference (List.mem_filter.mp kept).1

theorem ExactUpTo.mtime_iff (exact : ExactUpTo precision storage source compare) (state : DestMetadata) :
    .mtime ∈ (compare state).flatMap metaFields ↔ TimeDiffers source state precision := by
  rw [← exact.modified state, List.mem_flatMap]
  refine exists_congr fun difference => and_congr_right fun _ => ?_
  cases difference with
  | modified => simp [metaFields, isModified]
  | permissions first second => simp [metaFields, isModified, mtime_not_noted]
  | missing | size | content | kind | unsupported => simp [metaFields, isModified]

/-- Nothing is noted of the metadata exactly when nothing differs. -/
theorem ExactUpTo.clean_iff (exact : ExactUpTo precision storage source compare) (state : DestMetadata) :
    (compare state).flatMap metaFields = [] ↔ ¬ (TimeDiffers source state precision ∨ UidDiffers source state ∨
      GidDiffers source state ∨ ModeDiffers source state) := by
  have permissions : ∀ first second, .permissions first second ∈ compare state →
      (notePermissions first second = [] ↔
        ¬ (UidDiffers source state ∨ GidDiffers source state ∨ ModeDiffers source state)) := by
    intro first second member
    obtain ⟨mode, uid, gid, rfl⟩ := exact.facts state first second member
    simp only [notePermissions, List.append_eq_nil_iff, noteIfDiffer_eq_nil, mode, uid, gid, UidDiffers,
      GidDiffers, ModeDiffers]
    tauto
  constructor
  · intro clean differs
    have silent := List.flatMap_eq_nil_iff.mp clean
    obtain time | owner := differs
    · have noted := (exact.mtime_iff state).mpr time
      rw [clean] at noted
      exact absurd noted List.not_mem_nil
    · obtain ⟨first, second, member⟩ := exact.permissions state owner
      exact (permissions first second member).mp (silent _ member) owner
  · intro same
    refine List.flatMap_eq_nil_iff.mpr fun difference member => ?_
    cases difference with
    | modified first second =>
        exact absurd (.inl ((exact.modified state).mp ⟨_, member, rfl⟩)) same
    | permissions first second => exact (permissions first second member).mpr fun owner => same (.inr owner)
    | missing | size | content | kind | unsupported => rfl

end

/-! ### What a repair leaves -/

section

variable {metadata : MetadataMutation → Bool} {state after : DestMetadata}

theorem foldlM_applyMutation (mutations : List MetadataMutation) (state : DestMetadata) :
    (∀ mutation ∈ mutations, metadata mutation = true) ∧
        mutations.foldlM (applyMutation metadata) state = .ok (mutations.foldl MetadataMutation.set state) ∨
      ∃ mutation ∈ mutations, metadata mutation = false ∧
        mutations.foldlM (applyMutation metadata) state = .error (.mutation mutation) := by
  induction mutations generalizing state with
  | nil => exact .inl ⟨fun _ member => absurd member List.not_mem_nil, rfl⟩
  | cons mutation rest ih =>
      cases succeeds : metadata mutation with
      | false =>
          refine .inr ⟨mutation, List.mem_cons_self, succeeds, ?_⟩
          rw [List.foldlM_cons, applyMutation, succeeds]
          rfl
      | true =>
          have continues : (mutation :: rest).foldlM (applyMutation metadata) state =
              rest.foldlM (applyMutation metadata) (mutation.set state) := by
            rw [List.foldlM_cons, applyMutation, succeeds]
            rfl
          rw [continues]
          obtain ⟨all, done⟩ | ⟨failing, member, fails, stopped⟩ := ih (mutation.set state)
          · exact .inl ⟨List.forall_mem_cons.mpr ⟨succeeds, all⟩, done⟩
          · exact .inr ⟨failing, List.mem_cons_of_mem _ member, fails, stopped⟩

end

/-- The mutations that a repair issues. -/
def issued (target : CopiedMetadataTarget) (maySetOwner : UInt32 → UInt32 → Bool) (source : SourceEntry) :
    List MetadataMutation :=
  (ownershipMutation target maySetOwner (view source).uid (view source).gid
      ((fixValues source).2.2.map permissionBits)).toList ++
    (timestampMutation target (fixValues source).1 (fixValues source).2.1).toList

/-- The roles and capabilities without which `set_metadata` fails before it issues anything. -/
structure Advertised (storage : Storage) (target : CopiedMetadataTarget) (metadata : MetadataMutation → Bool) :
    Prop where
  staged : storage.stagedDestination = true
  target : storage.copiedMetadataTarget = some target
  metadata : storage.metadata = some metadata

theorem repair_advertised {storage : Storage} {target : CopiedMetadataTarget} {metadata : MetadataMutation → Bool}
    (advertised : Advertised storage target metadata) (source : SourceEntry) (state : DestMetadata) :
    repair storage source state =
      (issued target storage.maySetOwner source).foldlM (applyMutation metadata) state := by
  simp only [repair, setMetadata, advertised.staged, advertised.target, advertised.metadata, Bool.true_eq_false,
    if_false]
  rfl

/-- A repair that fails without a failed mutation issued none. -/
theorem repair_unadvertised {storage : Storage} {source : SourceEntry} {state : DestMetadata}
    (missing : ¬ ∃ target metadata, Advertised storage target metadata) :
    ∃ error, repair storage source state = .error error ∧ ∀ mutation, error ≠ .mutation mutation := by
  unfold repair setMetadata
  dsimp only
  split
  · exact ⟨_, rfl, nofun⟩
  · rename_i staged
    split
    · exact ⟨_, rfl, nofun⟩
    · rename_i target found
      split
      · exact ⟨_, rfl, nofun⟩
      · rename_i metadata role
        exact absurd ⟨target, metadata, Bool.not_eq_false _ |>.mp staged, found, role⟩ missing

section

variable (target : CopiedMetadataTarget) (maySetOwner : UInt32 → UInt32 → Bool) (source : SourceEntry)

/-- The repair sets owner, group and mode. -/
def OwnerSet : Prop :=
  sourceType source ≠ .symlink ∧ target.ownership = .numeric ∧ ∃ uid gid, (view source).uid = some uid ∧
    (view source).gid = some gid ∧ (view source).mode.isSome ∧ maySetOwner uid gid = true

/-- The repair sets the mode, with or without the owner. -/
def ModeSet : Prop :=
  sourceType source ≠ .symlink ∧ target.ownership ≠ .unsupported ∧ (view source).mode.isSome

/-- The repair sets the times. -/
def TimesSet : Prop := sourceType source ≠ .file ∧ target.timestamps ≠ .unsupported

/-- The destination when every mutation succeeded. -/
def repaired (state : DestMetadata) : DestMetadata := (issued target maySetOwner source).foldl MetadataMutation.set state

end

section

variable {target : CopiedMetadataTarget} {maySetOwner : UInt32 → UInt32 → Bool} {source : SourceEntry}
  {state : DestMetadata}

theorem ownershipMutation_set (uid gid mode : Option UInt32) :
    let after := (ownershipMutation target maySetOwner uid gid mode).toList.foldl MetadataMutation.set state
    after.modified = state.modified ∧
      ((target.ownership = .numeric ∧ ∃ owner group, uid = some owner ∧ gid = some group ∧ mode.isSome ∧
            maySetOwner owner group = true) →
          after.permissions.owner = uid.map .numeric ∧ after.permissions.group = gid.map .numeric) ∧
      (¬ (target.ownership = .numeric ∧ ∃ owner group, uid = some owner ∧ gid = some group ∧ mode.isSome ∧
            maySetOwner owner group = true) →
          after.permissions.owner = state.permissions.owner ∧ after.permissions.group = state.permissions.group) ∧
      after.permissions.mode =
        if target.ownership ≠ .unsupported ∧ mode.isSome then mode else state.permissions.mode := by
  cases mode with
  | none => cases uid <;> cases gid <;> simp [ownershipMutation]
  | some mode =>
      by_cases numeric : target.ownership = .numeric
      · cases uid with
        | none => simp [ownershipMutation, numeric, MetadataMutation.set]
        | some owner =>
            cases gid with
            | none => simp [ownershipMutation, numeric, MetadataMutation.set]
            | some group =>
                cases permitted : maySetOwner owner group <;>
                  simp [ownershipMutation, numeric, permitted, MetadataMutation.set]
      · have only : ownershipMutation target maySetOwner uid gid (some mode) =
            if target.ownership ≠ .unsupported then some (.mode mode) else none := by
          cases uid <;> cases gid <;> simp [ownershipMutation, numeric]
        rw [only]
        by_cases unsupported : target.ownership = .unsupported <;>
          simp [unsupported, numeric, MetadataMutation.set]

theorem timestampMutation_set (atime mtime : Option Int) :
    let after := (timestampMutation target atime mtime).toList.foldl MetadataMutation.set state
    after.permissions = state.permissions ∧ after.modified =
      match target.timestamps with
      | .stored precision => (mtime.map (aligned precision)).or state.modified
      | .unsupported => state.modified := by
  cases stored : target.timestamps with
  | unsupported => simp [timestampMutation, stored]
  | stored precision => cases atime <;> cases mtime <;> simp [timestampMutation, stored, MetadataMutation.set]

theorem fixValues_mode (source : SourceEntry) :
    (fixValues source).2.2 = if sourceType source ≠ .symlink then (view source).mode else none := by
  unfold fixValues
  cases sourceType source <;> rfl

theorem fixValues_mtime (source : SourceEntry) :
    (fixValues source).2.1 = if sourceType source ≠ .file then some (view source).getMtime else none := by
  unfold fixValues
  cases sourceType source <;> rfl

theorem ownerSet_iff :
    OwnerSet target maySetOwner source ↔ target.ownership = .numeric ∧ ∃ owner group, (view source).uid = some owner ∧
      (view source).gid = some group ∧ ((fixValues source).2.2.map permissionBits).isSome ∧
        maySetOwner owner group = true := by
  rw [fixValues_mode]
  by_cases symlink : sourceType source = .symlink <;> simp [OwnerSet, symlink]

theorem repaired_owner_set (set : OwnerSet target maySetOwner source) :
    (repaired target maySetOwner source state).permissions.owner = (view source).uid.map .numeric ∧
      (repaired target maySetOwner source state).permissions.group = (view source).gid.map .numeric := by
  rw [repaired, issued, List.foldl_append, (timestampMutation_set _ _).1]
  exact (ownershipMutation_set _ _ _).2.1 (ownerSet_iff.mp set)

theorem repaired_owner_kept (kept : ¬ OwnerSet target maySetOwner source) :
    (repaired target maySetOwner source state).permissions.owner = state.permissions.owner ∧
      (repaired target maySetOwner source state).permissions.group = state.permissions.group := by
  rw [repaired, issued, List.foldl_append, (timestampMutation_set _ _).1]
  exact (ownershipMutation_set _ _ _).2.2.1 (mt ownerSet_iff.mpr kept)

theorem repaired_mode_set (set : ModeSet target source) :
    (repaired target maySetOwner source state).permissions.mode = (view source).mode.map permissionBits := by
  obtain ⟨type, supported, known⟩ := set
  rw [repaired, issued, List.foldl_append, (timestampMutation_set _ _).1, (ownershipMutation_set _ _ _).2.2.2,
    fixValues_mode, if_pos type, if_pos ⟨supported, by rw [Option.isSome_map]; exact known⟩]

theorem repaired_mode_kept (kept : ¬ ModeSet target source) :
    (repaired target maySetOwner source state).permissions.mode = state.permissions.mode := by
  rw [repaired, issued, List.foldl_append, (timestampMutation_set _ _).1, (ownershipMutation_set _ _ _).2.2.2,
    fixValues_mode]
  refine if_neg fun ⟨supported, known⟩ => kept ?_
  split at known
  · rename_i type
    exact ⟨type, supported, by rw [Option.isSome_map] at known; exact known⟩
  · cases known

theorem repaired_modified_set {precision : TimePrecision} (type : sourceType source ≠ .file)
    (stored : target.timestamps = .stored precision) :
    (repaired target maySetOwner source state).modified = some (aligned precision (view source).getMtime) := by
  rw [repaired, issued, List.foldl_append, (timestampMutation_set _ _).2, stored, fixValues_mtime, if_pos type]
  rfl

theorem repaired_modified_kept (kept : ¬ TimesSet target source) :
    (repaired target maySetOwner source state).modified = state.modified := by
  rw [repaired, issued, List.foldl_append, (timestampMutation_set _ _).2, fixValues_mtime]
  cases stored : target.timestamps with
  | unsupported => exact (ownershipMutation_set _ _ _).1
  | stored precision =>
      have type : ¬ sourceType source ≠ .file := fun type => kept ⟨type, by rw [stored]; nofun⟩
      rw [if_neg type]
      exact (ownershipMutation_set _ _ _).1

end

/-! ### What remains different -/

section

variable (target : CopiedMetadataTarget) (maySetOwner : UInt32 → UInt32 → Bool) (source : SourceEntry)
  (state : DestMetadata)

def OwnerRemains : Prop :=
  ¬ OwnerSet target maySetOwner source ∧ (UidDiffers source state ∨ GidDiffers source state)

/-- A mode that is set has lost the bits of the file type. -/
def ModeRemains : Prop :=
  (ModeSet target source ∧ ∃ mode, (view source).mode = some mode ∧ permissionBits mode ≠ mode) ∨
    (¬ ModeSet target source ∧ ModeDiffers source state)

/-- A time that is set was clamped to an `i64` of nanoseconds. -/
def TimeRemains (precision : TimePrecision) : Prop :=
  (TimesSet target source ∧ ∃ time, modified? source = some time ∧
      time / precision.1 ≠ timestampNanos (some time) / precision.1) ∨
    (¬ TimesSet target source ∧ TimeDiffers source state precision)

/-- Something differs that the repair does not set, or not to the value of the source. -/
def Remains (precision : TimePrecision) : Prop :=
  TimeRemains target source state precision ∨ OwnerRemains target maySetOwner source state ∨
    ModeRemains target source state

end

section

variable {target : CopiedMetadataTarget} {maySetOwner : UInt32 → UInt32 → Bool} {source : SourceEntry}
  {state : DestMetadata} {precision : TimePrecision}

theorem not_differ_numeric (id : Option UInt32) : ¬ Differ id (numericId? (id.map .numeric)) := by
  rintro ⟨value, other, rfl, same, different⟩
  cases same
  exact different rfl

theorem owner_remains_iff :
    (UidDiffers source (repaired target maySetOwner source state) ∨
        GidDiffers source (repaired target maySetOwner source state)) ↔
      OwnerRemains target maySetOwner source state := by
  by_cases set : OwnerSet target maySetOwner source
  · obtain ⟨owner, group⟩ := @repaired_owner_set target maySetOwner source state set
    simp only [UidDiffers, GidDiffers, owner, group, not_differ_numeric, OwnerRemains, set, not_true, false_and,
      or_self]
  · obtain ⟨owner, group⟩ := @repaired_owner_kept target maySetOwner source state set
    simp only [UidDiffers, GidDiffers, owner, group, OwnerRemains, set, not_false_eq_true, true_and]

theorem mode_remains_iff :
    ModeDiffers source (repaired target maySetOwner source state) ↔ ModeRemains target source state := by
  by_cases set : ModeSet target source
  · rw [ModeDiffers, repaired_mode_set set, ModeRemains]
    simp only [set, not_true, false_and, or_false, true_and]
    constructor
    · rintro ⟨mode, other, known, same, different⟩
      rw [known] at same
      cases same
      exact ⟨mode, known, different.symm⟩
    · rintro ⟨mode, known, different⟩
      exact ⟨mode, permissionBits mode, known, by rw [known]; rfl, different.symm⟩
  · rw [ModeDiffers, repaired_mode_kept set, ModeRemains]
    simp only [set, not_false_eq_true, true_and, false_and, false_or]
    rfl

theorem time_remains_iff (stored : ∀ other, target.timestamps = .stored other → other = precision) :
    TimeDiffers source (repaired target maySetOwner source state) precision ↔
      TimeRemains target source state precision := by
  by_cases set : TimesSet target source
  · have aligns : target.timestamps = .stored precision := by
      cases kind : target.timestamps with
      | unsupported => exact absurd kind set.2
      | stored other => rw [stored other kind]
    rw [TimeDiffers, repaired_modified_set set.1 aligns, TimeRemains]
    simp only [set, not_true, false_and, or_false, true_and]
    have exact_ : ∀ time, modified? source = some time →
        aligned precision (view source).getMtime / precision.1 = timestampNanos (some time) / precision.1 := by
      intro time known
      have clamped : (view source).getMtime = timestampNanos (modified? source) := rfl
      rw [aligned, Int.mul_ediv_cancel _ (Int.ne_of_gt precision.2), clamped, known]
    constructor
    · rintro ⟨time, other, known, same, different⟩
      cases same
      rw [exact_ time known] at different
      exact ⟨time, known, different⟩
    · rintro ⟨time, known, different⟩
      rw [← exact_ time known] at different
      exact ⟨time, _, known, rfl, different⟩
  · rw [TimeDiffers, repaired_modified_kept set, TimeRemains]
    simp only [set, not_false_eq_true, true_and, false_and, false_or]
    rfl

end

/-! ### The status -/

/-- What the three statuses promise, of the destination that the repair leaves. -/
structure Truthful (storage : Storage) (source : SourceEntry) (state : DestMetadata)
    (compare : DestMetadata → List IntegrityDifference) (status : FixStatus) : Prop where
  fixed : status = .fixed → ∃ after, repair storage source state = .ok after ∧
    compareEntry source (compare after) = .ok ()
  partiallyFixed : status = .partiallyFixed → ∃ after, repair storage source state = .ok after ∧
    ∃ error labels, compareEntry source (compare after) = .error error ∧
      structuredMismatchLabels error = some labels
  fixFailed : status = .fixFailed → ∃ mutation, repair storage source state = .error (.mutation mutation)

/-- The destination advertises what it can set; and when every mutation succeeds and the content
agrees, something remains different exactly if the times differed before. -/
structure StatusFits (precision : TimePrecision) (storage : Storage) (source : SourceEntry) (state : DestMetadata)
    (compare : DestMetadata → List IntegrityDifference) : Prop where
  advertised : ∃ target metadata, Advertised storage target metadata
  remains : ∀ target metadata, Advertised storage target metadata →
    (∀ mutation ∈ issued target storage.maySetOwner source, metadata mutation = true) →
    (compare state).flatMap (IntegrityDifference.dataFields source) = [] →
    (Remains target storage.maySetOwner source state precision ↔ TimeDiffers source state precision)

section

variable {precision : TimePrecision} {storage : Storage} {source : SourceEntry} {state : DestMetadata}
  {compare : DestMetadata → List IntegrityDifference}

theorem fixStatus_eq (labels : List MismatchLabel) :
    (buildIssue storage source state labels true).fixStatus =
      if (repair storage source state).isOk then
        if detectContentMismatch labels then .partiallyFixed else .fixed
      else .fixFailed := rfl

theorem truthful_fixed_iff :
    Truthful storage source state compare .fixed ↔
      ∃ after, repair storage source state = .ok after ∧ compareEntry source (compare after) = .ok () :=
  ⟨fun truthful => truthful.fixed rfl, fun holds => ⟨fun _ => holds, nofun, nofun⟩⟩

theorem truthful_partiallyFixed_iff :
    Truthful storage source state compare .partiallyFixed ↔
      ∃ after, repair storage source state = .ok after ∧ ∃ error labels,
        compareEntry source (compare after) = .error error ∧ structuredMismatchLabels error = some labels :=
  ⟨fun truthful => truthful.partiallyFixed rfl, fun holds => ⟨nofun, fun _ => holds, nofun⟩⟩

theorem truthful_fixFailed_iff :
    Truthful storage source state compare .fixFailed ↔
      ∃ mutation, repair storage source state = .error (.mutation mutation) :=
  ⟨fun truthful => truthful.fixFailed rfl, fun holds => ⟨nofun, nofun, fun _ => holds⟩⟩

theorem Advertised.unique {target other : CopiedMetadataTarget} {metadata role : MetadataMutation → Bool}
    (advertised : Advertised storage target metadata) (also : Advertised storage other role) :
    other = target ∧ role = metadata :=
  ⟨Option.some.inj (also.target.symm.trans advertised.target),
    Option.some.inj (also.metadata.symm.trans advertised.metadata)⟩

theorem statusFits_iff {target : CopiedMetadataTarget} {metadata : MetadataMutation → Bool}
    (advertised : Advertised storage target metadata) :
    StatusFits precision storage source state compare ↔
      ((∀ mutation ∈ issued target storage.maySetOwner source, metadata mutation = true) →
        (compare state).flatMap (IntegrityDifference.dataFields source) = [] →
        (Remains target storage.maySetOwner source state precision ↔ TimeDiffers source state precision)) := by
  refine ⟨fun fits => fits.remains target metadata advertised, fun remains => ⟨⟨target, metadata, advertised⟩, ?_⟩⟩
  intro other role also
  obtain ⟨rfl, rfl⟩ := advertised.unique also
  exact remains

/-- The comparison after a repair that succeeded. -/
theorem ExactUpTo.compare_repaired (exact : ExactUpTo precision storage source compare)
    {target : CopiedMetadataTarget} (advertised : storage.copiedMetadataTarget = some target)
    (complete : (compare state).findSome? (IntegrityDifference.failure? source) = none)
    (content : (compare state).flatMap (IntegrityDifference.dataFields source) = []) :
    let after := repaired target storage.maySetOwner source state
    (Remains target storage.maySetOwner source state precision → ∃ fields,
        compareEntry source (compare after) = .error (.mismatchMeta fields)) ∧
      (¬ Remains target storage.maySetOwner source state precision →
        compareEntry source (compare after) = .ok ()) := by
  intro after
  have remains : (compare after).flatMap IntegrityDifference.metaFields = [] ↔
      ¬ Remains target storage.maySetOwner source state precision := by
    rw [exact.clean_iff, Remains, ← time_remains_iff (exact.stored target advertised), ← owner_remains_iff,
      ← mode_remains_iff, or_assoc]
  have verdict_ : compareEntry source (compare after) =
      verdict [] ((compare after).flatMap IntegrityDifference.metaFields) := by
    rw [compareEntry_eq, exact.complete complete after, exact.data after state, content]
  rw [verdict_]
  refine ⟨fun left => ⟨(compare after).flatMap IntegrityDifference.metaFields, ?_⟩, fun clean => ?_⟩
  · have found := mt remains.mp (not_not.mpr left)
    rw [verdict, if_neg (not_not.mpr rfl), if_pos found]
  · rw [remains.mpr clean]
    rfl

theorem auto_fix_truthful_iff {error : CompareError} {labels : List MismatchLabel}
    (exact : ExactUpTo precision storage source compare)
    (compared : compareEntry source (compare state) = .error error)
    (labelled : structuredMismatchLabels error = some labels) :
    Truthful storage source state compare (buildIssue storage source state labels true).fixStatus ↔
      StatusFits precision storage source state compare := by
  rw [fixStatus_eq]
  by_cases advertised : ∃ target metadata, Advertised storage target metadata
  · obtain ⟨target, metadata, advertised⟩ := advertised
    rw [statusFits_iff advertised]
    have applied := repair_advertised advertised source state
    obtain ⟨all, done⟩ | ⟨mutation, member, fails, stopped⟩ :=
      @foldlM_applyMutation metadata (issued target storage.maySetOwner source) state
    · have repairs : repair storage source state = .ok (repaired target storage.maySetOwner source state) :=
        applied.trans done
      obtain ⟨complete, noted⟩ := labelled_complete compared labelled
      rw [if_pos (by rw [repairs]; rfl)]
      by_cases content : (compare state).flatMap (IntegrityDifference.dataFields source) = []
      · -- Only metadata differs: the status says whether the times were among it.
        have after := exact.compare_repaired advertised.target complete content
        have times : detectContentMismatch labels = true ↔ TimeDiffers source state precision := by
          rw [content, verdict, if_neg (not_not.mpr rfl)] at noted
          split at noted
          · cases noted
            cases labelled
            rw [detect_meta, exact.mtime_iff]
          · cases noted
        have fits : ((∀ mutation ∈ issued target storage.maySetOwner source, metadata mutation = true) →
            (compare state).flatMap (IntegrityDifference.dataFields source) = [] →
            (Remains target storage.maySetOwner source state precision ↔ TimeDiffers source state precision)) ↔
            (Remains target storage.maySetOwner source state precision ↔ TimeDiffers source state precision) :=
          ⟨fun holds => holds all content, fun holds _ _ => holds⟩
        rw [fits]
        by_cases differs : TimeDiffers source state precision
        · rw [if_pos (times.mpr differs), truthful_partiallyFixed_iff]
          refine ⟨fun ⟨left, same, error, _, still, _⟩ => ⟨fun _ => differs, fun _ => ?_⟩, fun remains => ?_⟩
          · by_contra clean
            rw [repairs] at same
            cases same
            rw [after.2 clean] at still
            cases still
          · obtain ⟨fields, still⟩ := after.1 (remains.mpr differs)
            exact ⟨_, repairs, _, _, still, rfl⟩
        · rw [if_neg (mt times.mp differs), truthful_fixed_iff]
          refine ⟨fun ⟨left, same, clean⟩ => ⟨fun remains => ?_, fun late => absurd late differs⟩, fun remains => ?_⟩
          · obtain ⟨fields, still⟩ := after.1 remains
            rw [repairs] at same
            cases same
            rw [still] at clean
            cases clean
          · exact ⟨_, repairs, after.2 (mt remains.mp differs)⟩
      · -- The content differs, before and after.
        rw [verdict, if_pos content] at noted
        cases noted
        cases labelled
        rw [if_pos (detect_data content), truthful_partiallyFixed_iff]
        have still : compareEntry source (compare (repaired target storage.maySetOwner source state)) =
            .error (.mismatchData ((compare state).flatMap (IntegrityDifference.dataFields source))) := by
          rw [compareEntry_eq, exact.complete complete, exact.data _ state]
          exact if_pos content
        exact ⟨fun _ _ empty => absurd empty content, fun _ => ⟨_, repairs, _, _, still, rfl⟩⟩
    · rw [applied, stopped]
      refine iff_of_true (truthful_fixFailed_iff.mpr ⟨mutation, applied.trans stopped⟩) fun all => ?_
      rw [all mutation member] at fails
      cases fails
  · obtain ⟨failure, stopped, issuedNone⟩ := @repair_unadvertised storage source state advertised
    rw [stopped]
    refine iff_of_false (fun truthful => ?_) fun fits => advertised fits.advertised
    obtain ⟨mutation, same⟩ := truthful_fixFailed_iff.mp truthful
    rw [stopped] at same
    cases same
    exact issuedNone mutation rfl

end

/-! ### Two entries -/

/-- The facts that a comparison of the source observes. -/
def sourceFacts (source : SourceEntry) : Permissions :=
  ⟨(view source).mode, (view source).uid.map .numeric, (view source).gid.map .numeric⟩

/-- A comparison of entries whose content agrees. -/
def metadataCompare (precision : TimePrecision) (source : SourceEntry) (state : DestMetadata) :
    List IntegrityDifference :=
  (match modified? source, state.modified with
    | some time, some other =>
        if time / precision.1 ≠ other / precision.1 then [.modified (some time) (some other)] else []
    | _, _ => []) ++
  if sourceFacts source ≠ state.permissions then [.permissions (sourceFacts source) state.permissions] else []

theorem mem_metadataCompare {precision : TimePrecision} {source : SourceEntry} {state : DestMetadata}
    {difference : IntegrityDifference} (member : difference ∈ metadataCompare precision source state) :
    (difference.isModified = true ∧ TimeDiffers source state precision) ∨
      difference = .permissions (sourceFacts source) state.permissions := by
  obtain time | owner := List.mem_append.mp member
  · split at time
    · rename_i known known'
      split at time
      · rename_i different
        cases List.mem_singleton.mp time
        exact .inl ⟨rfl, _, _, known, known', different⟩
      · exact absurd time List.not_mem_nil
    · exact absurd time List.not_mem_nil
  · split at owner
    · exact .inr (List.mem_singleton.mp owner)
    · exact absurd owner List.not_mem_nil

theorem numericId?_map (id : Option UInt32) : numericId? (id.map .numeric) = id := by
  cases id <;> rfl

theorem metadataCompare_exact {precision : TimePrecision} {storage : Storage} (source : SourceEntry)
    (stored : ∀ target, storage.copiedMetadataTarget = some target →
      ∀ other, target.timestamps = .stored other → other = precision) :
    ExactUpTo precision storage source (metadataCompare precision source) := by
  refine ⟨stored, fun state => ⟨?_, ?_⟩, fun state first second member => ?_, fun state differs => ?_,
    fun state state' => ?_⟩
  · rintro ⟨difference, member, modified⟩
    obtain ⟨_, differs⟩ | rfl := mem_metadataCompare member
    · exact differs
    · cases modified
  · rintro ⟨time, other, known, known', different⟩
    refine ⟨.modified (some time) (some other), List.mem_append_left _ ?_, rfl⟩
    simp only [known, known', if_pos different, List.mem_singleton]
  · obtain ⟨modified, _⟩ | same := mem_metadataCompare member
    · cases modified
    · cases same
      exact ⟨rfl, numericId?_map _, numericId?_map _, rfl⟩
  · have unequal : sourceFacts source ≠ state.permissions := by
      intro same
      simp only [UidDiffers, GidDiffers, ModeDiffers, ← same, sourceFacts, numericId?_map, Differ] at differs
      obtain ⟨_, _, known, known', different⟩ | ⟨_, _, known, known', different⟩ |
        ⟨_, _, known, known', different⟩ := differs <;>
      exact different (Option.some.inj (known.symm.trans known'))
    exact ⟨_, _, List.mem_append_right _ (by rw [if_pos unequal]; exact List.mem_singleton_self _)⟩
  · have silent : ∀ state, (metadataCompare precision source state).filter
        (fun difference => !difference.isMetadata) = [] := by
      intro state
      refine List.filter_eq_nil_iff.mpr fun difference member => ?_
      obtain ⟨modified, _⟩ | rfl := mem_metadataCompare member
      · cases difference <;> first | exact Bool.false_ne_true | cases modified
      · exact Bool.false_ne_true
    rw [silent, silent]

theorem unmarked {kind : EntryKind} :
    (none : Option MarkerObject).isSome = true → kind = .directory :=
  fun marked => absurd marked Bool.false_ne_true

def observedAs (kind : EntryKind) : SourceEntry where
  path := ['e']
  kind
  size := none
  modified := some 5
  metadata := .empty
  permissions := some ⟨some 0o755, some (.numeric 1000), some (.numeric 1000)⟩
  history := none
  directoryMarkerObject := none
  markerOfDirectory := unmarked

def nanoseconds : TimePrecision := ⟨1, by decide⟩

/-- Any owner may be set and no mutation fails. -/
def fullStorage : Storage := ⟨true, some ⟨.numeric, .stored nanoseconds⟩, fun _ _ => true, some fun _ => true⟩

theorem fullStorage_exact (source : SourceEntry) :
    ExactUpTo nanoseconds fullStorage source (metadataCompare nanoseconds source) := by
  refine metadataCompare_exact source fun target same other stored => ?_
  cases same
  cases stored
  rfl

def ownedByRoot : DestMetadata := ⟨⟨some 0o755, some (.numeric 0), some (.numeric 0)⟩, some 5, none⟩

/-- The owner of a file is repaired. -/
theorem auto_fix_truthful_iff_file :
    StatusFits nanoseconds fullStorage (observedAs .file) ownedByRoot
      (metadataCompare nanoseconds (observedAs .file)) :=
  (@auto_fix_truthful_iff nanoseconds fullStorage (observedAs .file) ownedByRoot
    (metadataCompare nanoseconds (observedAs .file)) (.mismatchMeta [.uid, .gid]) [.uid, .gid]
    (fullStorage_exact _) rfl rfl).mp (truthful_fixed_iff.mpr ⟨_, rfl, rfl⟩)

def olderDirectory : DestMetadata := ⟨⟨some 0o755, some (.numeric 1000), some (.numeric 1000)⟩, some 3, none⟩

/-- A symlink with another owner is reported as fixed and keeps that owner; a directory with another
time is reported as partially fixed and has no difference left. -/
theorem status_contradicts_comparison :
    ((buildIssue fullStorage (observedAs .symlink) ownedByRoot [.uid, .gid] true).fixStatus = .fixed ∧
      compareEntry (observedAs .symlink) (metadataCompare nanoseconds (observedAs .symlink) ownedByRoot) =
        .error (.mismatchMeta [.uid, .gid]) ∧
      ¬ Truthful fullStorage (observedAs .symlink) ownedByRoot
        (metadataCompare nanoseconds (observedAs .symlink)) .fixed) ∧
    (buildIssue fullStorage (observedAs .directory) olderDirectory [.mtime] true).fixStatus = .partiallyFixed ∧
      compareEntry (observedAs .directory) (metadataCompare nanoseconds (observedAs .directory) olderDirectory) =
        .error (.mismatchMeta [.mtime]) ∧
      ¬ Truthful fullStorage (observedAs .directory) olderDirectory
        (metadataCompare nanoseconds (observedAs .directory)) .partiallyFixed := by
  refine ⟨⟨rfl, rfl, fun truthful => ?_⟩, rfl, rfl, fun truthful => ?_⟩
  · obtain ⟨after, same, clean⟩ := truthful_fixed_iff.mp truthful
    cases same
    cases clean
  · obtain ⟨after, same, error, labels, still, _⟩ := truthful_partiallyFixed_iff.mp truthful
    cases same
    cases still

end Terrasync.App.AutoFix
