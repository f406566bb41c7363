import Mathlib.Data.List.Sort
import Terrasync.Catalogue.CopyGeneration

/-! What final reads show after rows are appended, deleted or relabelled, and which
paths the statuses of a deletion phase cover. -/

set_option autoImplicit false

namespace Terrasync.Catalogue

namespace BaseTable

theorem mem_of_mem_finalRows {table : BaseTable} {record : NativeScanRecord}
    (member : record ∈ finalRows table) : record ∈ table := by
  induction table with
  | nil => exact member
  | cons head rest ih =>
      simp only [finalRows] at member
      split at member
      · exact List.mem_cons_of_mem head (ih member)
      · cases List.mem_cons.mp member with
        | inl same => exact List.mem_cons.mpr (.inl same)
        | inr later => exact List.mem_cons_of_mem head (ih later)

theorem mem_finalRows_append {table later : BaseTable} {record : NativeScanRecord}
    (member : record ∈ finalRows (table ++ later)) :
    record ∈ finalRows table ∨ record ∈ finalRows later := by
  induction table with
  | nil => exact .inr member
  | cons head rest ih =>
      simp only [List.cons_append, finalRows, List.any_append, Bool.or_eq_true] at member ⊢
      split at member
      · rename_i superseded
        cases ih member with
        | inl earlier =>
            left
            split
            · exact earlier
            · exact List.mem_cons_of_mem head earlier
        | inr inserted => exact .inr inserted
      · rename_i notSuperseded
        rw [if_neg fun within => notSuperseded (.inl within)]
        cases List.mem_cons.mp member with
        | inl same => exact .inl (List.mem_cons.mpr (.inl same))
        | inr remaining =>
            cases ih remaining with
            | inl earlier => exact .inl (List.mem_cons_of_mem head earlier)
            | inr inserted => exact .inr inserted

/-- Deleting rows of other keys alone leaves what a final read shows of this key. -/
theorem mem_finalRows_filter {table : BaseTable} {kept : NativeScanRecord → Bool}
    {record : NativeScanRecord}
    (untouched : ∀ other ∈ table, other.key = record.key → kept other = true)
    (member : record ∈ finalRows (table.filter kept)) : record ∈ finalRows table := by
  induction table with
  | nil => exact member
  | cons head rest ih =>
      have restUntouched : ∀ other ∈ rest, other.key = record.key → kept other = true :=
        fun other within same => untouched other (List.mem_cons_of_mem head within) same
      rw [finalRows]
      by_cases keeps : kept head = true
      · rw [List.filter_cons_of_pos keeps, finalRows] at member
        by_cases superseded : (rest.any fun later => later.key = head.key) = true
        · rw [if_pos superseded]
          split at member
          · exact ih restUntouched member
          · rename_i shown
            cases List.mem_cons.mp member with
            | inr remaining => exact ih restUntouched remaining
            | inl same =>
                obtain ⟨later, within, sameKey⟩ := List.any_eq_true.mp superseded
                have laterKept : kept later = true := by
                  apply restUntouched later within
                  rw [same]
                  exact of_decide_eq_true sameKey
                exact absurd
                  (List.any_eq_true.mpr ⟨later, List.mem_filter.mpr ⟨within, laterKept⟩, sameKey⟩)
                  shown
        · rw [if_neg superseded]
          split at member
          · exact List.mem_cons_of_mem head (ih restUntouched member)
          · cases List.mem_cons.mp member with
            | inl same => exact List.mem_cons.mpr (.inl same)
            | inr remaining => exact List.mem_cons_of_mem head (ih restUntouched remaining)
      · rw [List.filter_cons_of_neg keeps] at member
        have shown := ih restUntouched member
        split
        · exact shown
        · exact List.mem_cons_of_mem head shown

theorem mem_finalRows_batchDelete {table : BaseTable} {deletedPaths : List RelativePath}
    {record : NativeScanRecord}
    (member : record ∈ finalRows (batchDeleteRecord table deletedPaths)) :
    record ∈ finalRows table ∧ record.relativePath ∉ deletedPaths := by
  have kept := of_decide_eq_true (List.mem_filter.mp (mem_of_mem_finalRows member)).2
  refine ⟨mem_finalRows_filter ?_ member, kept⟩
  intro other _ same
  have samePath : other.relativePath = record.relativePath := congrArg Prod.fst same
  rw [samePath]
  exact decide_eq_true kept

theorem currentState_of_relabel {previous : Nat} {table : BaseTable} {record : NativeScanRecord}
    (member : record ∈ relabel previous table) : record.currentState = previous := by
  obtain ⟨original, _, rfl⟩ := List.mem_map.mp member
  rfl

theorem view_of_insertViews {generation : Nat} {views : List ObservedItem}
    {record : NativeScanRecord} (member : record ∈ views.map fun view => ⟨view, generation⟩) :
    record.view ∈ views ∧ record.currentState = generation := by
  obtain ⟨view, within, rfl⟩ := List.mem_map.mp member
  exact ⟨within, rfl⟩

theorem mem_oldRows {table : BaseTable} {working : Nat} {record : NativeScanRecord} :
    record ∈ oldRows table working ↔
      record ∈ finalRows table ∧ record.currentState = 1 - working := by
  simp [oldRows, List.mem_mergeSort]

theorem exists_limitOneByKey {rows : List NativeScanRecord} {record : NativeScanRecord}
    (member : record ∈ rows) : ∃ kept ∈ limitOneByKey rows, kept.key = record.key := by
  induction rows with
  | nil => exact absurd member List.not_mem_nil
  | cons head rest ih =>
      by_cases same : head.key = record.key
      · exact ⟨head, List.mem_cons_self, same⟩
      · cases List.mem_cons.mp member with
        | inl isHead => exact absurd (congrArg NativeScanRecord.key isHead).symm same
        | inr within =>
            obtain ⟨kept, keptWithin, sameKey⟩ := ih within
            refine ⟨kept, List.mem_cons_of_mem head (List.mem_filter.mpr ⟨keptWithin, ?_⟩), sameKey⟩
            rw [sameKey]
            exact decide_eq_true fun equal => same equal.symm

/-- The group of a row's handle shows the row's own path and version. -/
theorem exists_handleGroup (ctime : ObservedItem → Int) {table : BaseTable}
    {record : NativeScanRecord} {handle : List Char} (member : record ∈ table)
    (handled : record.fileHandle = some handle) :
    ∃ kept ∈ handleGroup ctime table handle, kept.key = record.key := by
  apply exists_limitOneByKey
  rw [List.mem_mergeSort]
  exact List.mem_filter.mpr ⟨member, decide_eq_true handled⟩

end BaseTable

namespace NativeScanRecord

/-- A row that is not the directory object of a version has the path of its entry. -/
def DescribesPath (record : NativeScanRecord) : Prop :=
  record.relativePath = record.view.entry.path

instance (record : NativeScanRecord) : Decidable record.DescribesPath :=
  inferInstanceAs (Decidable (record.relativePath = record.view.entry.path))

theorem toObservation_path (record : NativeScanRecord) :
    record.toObservation.path = record.view.entry.path := by
  unfold toObservation
  split
  · rfl
  · rfl

end NativeScanRecord

/-- The rows of a handle name at most two paths, and those that share this row's path
have the path of their entry. -/
def HandleNamesPath (ctime : ObservedItem → Int) (table : BaseTable)
    (record : NativeScanRecord) : Prop :=
  ∀ handle ∈ record.fileHandle.toList,
    (table.handleGroup ctime handle).length ≤ 2 ∧
      ∀ member ∈ table.handleGroup ctime handle,
        member.relativePath = record.relativePath → member.DescribesPath

instance (ctime : ObservedItem → Int) (table : BaseTable) (record : NativeScanRecord) :
    Decidable (HandleNamesPath ctime table record) :=
  inferInstanceAs (Decidable (∀ handle ∈ record.fileHandle.toList, _ ∧ _))

/-- The rows of the previous generation whose path a deletion phase covers. -/
def DetectionCovers (ctime : ObservedItem → Int) (table : BaseTable)
    (lifecycle : ScanGenerationLifecycle) (record : NativeScanRecord) : Prop :=
  if lifecycle.copyRecovery then
    isReplayed table lifecycle.working record.relativePath = true ∨ record.DescribesPath
  else record.DescribesPath ∧ HandleNamesPath ctime table record

instance (ctime : ObservedItem → Int) (table : BaseTable) (lifecycle : ScanGenerationLifecycle)
    (record : NativeScanRecord) : Decidable (DetectionCovers ctime table lifecycle record) :=
  inferInstanceAs (Decidable (if lifecycle.copyRecovery then _ ∨ _ else _ ∧ _))

theorem classifyDeletion_covers {ctime : ObservedItem → Int} {table : BaseTable}
    {record : NativeScanRecord} (member : record ∈ table) (describes : record.DescribesPath)
    (names : HandleNamesPath ctime table record) :
    ∃ status, classifyDeletion ctime table record = some status ∧
      status.deletedPath = record.relativePath := by
  have deletes : (DeletionStatus.deleted record.toObservation).deletedPath = record.relativePath :=
    record.toObservation_path.trans describes.symm
  have moves : ∀ source target : NativeScanRecord, source.relativePath = record.relativePath →
      source.DescribesPath →
      (DeletionStatus.renamed source.toObservation target.toObservation).deletedPath =
        record.relativePath :=
    fun source _ same sourceDescribes =>
      source.toObservation_path.trans (sourceDescribes.symm.trans same)
  unfold classifyDeletion
  cases handled : record.fileHandle with
  | none => exact ⟨.deleted record.toObservation, by simp only, deletes⟩
  | some handle =>
      simp only
      have group := names handle (by rw [handled]; exact List.mem_singleton_self handle)
      obtain ⟨kept, keptWithin, sameKey⟩ :=
        BaseTable.exists_handleGroup ctime member handled
      have samePath : kept.relativePath = record.relativePath := congrArg Prod.fst sameKey
      revert group keptWithin
      cases table.handleGroup ctime handle with
      | nil => exact fun _ keptWithin => absurd keptWithin List.not_mem_nil
      | cons first rest =>
          cases rest with
          | nil => exact fun _ _ => ⟨.deleted record.toObservation, rfl, deletes⟩
          | cons second others =>
              cases others with
              | cons third more => exact fun group _ => absurd group.1 (by simp)
              | nil =>
                  intro group keptWithin
                  by_cases fromFirst : first.relativePath = record.relativePath
                  · simp only [if_pos fromFirst]
                    exact ⟨_, rfl, moves first second fromFirst
                      (group.2 first List.mem_cons_self fromFirst)⟩
                  · simp only [if_neg fromFirst]
                    have isSecond : kept = second := by
                      cases List.mem_cons.mp keptWithin with
                      | inl isFirst => exact absurd (isFirst ▸ samePath) fromFirst
                      | inr within => exact List.mem_singleton.mp within
                    have secondPath : second.relativePath = record.relativePath := isSecond ▸ samePath
                    exact ⟨_, rfl, moves second first secondPath
                      (group.2 second (by simp) secondPath)⟩

theorem classifyDeletedCandidates_covers {ctime : ObservedItem → Int} {table : BaseTable}
    {rows : List NativeScanRecord} {record : NativeScanRecord} {status : DeletionStatus}
    (member : record ∈ rows) (classified : classifyDeletion ctime table record = some status) :
    status ∈ classifyDeletedCandidates ctime table rows := by
  refine List.mem_append.mpr ?_
  cases handled : record.fileHandle with
  | none =>
      left
      exact List.mem_filterMap.mpr
        ⟨record, List.mem_filter.mpr ⟨member, by rw [handled]; rfl⟩, classified⟩
  | some handle =>
      right
      exact List.mem_filterMap.mpr
        ⟨record, List.mem_filter.mpr ⟨member, by rw [handled]; rfl⟩, classified⟩

theorem mem_of_mem_firstOfPath {rows : List NativeScanRecord} {record : NativeScanRecord}
    (member : record ∈ firstOfPath rows) : record ∈ rows := by
  induction rows with
  | nil => exact member
  | cons head rest ih =>
      cases List.mem_cons.mp member with
      | inl same => exact List.mem_cons.mpr (.inl same)
      | inr later => exact List.mem_cons_of_mem head (ih (List.mem_filter.mp later).1)

theorem exists_firstOfPath {rows : List NativeScanRecord} {record : NativeScanRecord}
    (member : record ∈ rows) :
    ∃ first ∈ firstOfPath rows, first.relativePath = record.relativePath := by
  induction rows with
  | nil => exact absurd member List.not_mem_nil
  | cons head rest ih =>
      by_cases same : head.relativePath = record.relativePath
      · exact ⟨head, List.mem_cons_self, same⟩
      · cases List.mem_cons.mp member with
        | inl isHead => exact absurd (congrArg NativeScanRecord.relativePath isHead).symm same
        | inr within =>
            obtain ⟨first, firstWithin, samePath⟩ := ih within
            refine ⟨first, List.mem_cons_of_mem head (List.mem_filter.mpr ⟨firstWithin, ?_⟩),
              samePath⟩
            rw [samePath]
            exact decide_eq_true fun equal => same equal.symm

/-- Retiring keys in rows of other generations removes no row of the working one and
shows a row of another generation only if a final read showed it before. -/
theorem mem_finalRows_retire {table : BaseTable} {working : Nat} {keys : List RowKey}
    {record : NativeScanRecord}
    (member : record ∈ BaseTable.finalRows (retireCopyVersions table working keys))
    (other : record.currentState ≠ working) :
    record ∈ table.finalRows ∧ record.key ∉ keys := by
  have kept := of_decide_eq_true
    (List.mem_filter.mp (BaseTable.mem_of_mem_finalRows member)).2
  have unretired : record.key ∉ keys := fun within => kept ⟨other, within⟩
  refine ⟨BaseTable.mem_finalRows_filter ?_ member, unretired⟩
  intro later _ same
  refine decide_eq_true fun retired => unretired ?_
  rw [← same]
  exact retired.2

/-- The statuses cover every row of the previous generation that is still shown. -/
theorem detectDeletedItems_covers {ctime : ObservedItem → Int} {table : BaseTable}
    {lifecycle : ScanGenerationLifecycle}
    (covers : ∀ record ∈ table.oldRows lifecycle.working,
      DetectionCovers ctime table lifecycle record)
    {record : NativeScanRecord}
    (shown : record ∈ (detectDeletedItems ctime table lifecycle).1.finalRows)
    (old : record.currentState ≠ lifecycle.working)
    (previous : record.currentState ≠ lifecycle.working →
      record.currentState = 1 - lifecycle.working) :
    ∃ status ∈ (detectDeletedItems ctime table lifecycle).2,
      status.deletedPath = record.relativePath := by
  unfold detectDeletedItems at shown ⊢
  by_cases recovery : lifecycle.copyRecovery = true
  · simp only [recovery, if_true] at shown ⊢
    obtain ⟨before, unretired⟩ := mem_finalRows_retire shown old
    have within : record ∈ table.oldRows lifecycle.working :=
      BaseTable.mem_oldRows.mpr ⟨before, previous old⟩
    have missing : isReplayed table lifecycle.working record.relativePath = false := by
      cases replayed : isReplayed table lifecycle.working record.relativePath with
      | false => rfl
      | true =>
          exact absurd (List.mem_map_of_mem (List.mem_filter.mpr ⟨within, replayed⟩)) unretired
    have remaining : record ∈ (table.oldRows lifecycle.working).filter fun row =>
        !isReplayed table lifecycle.working row.relativePath :=
      List.mem_filter.mpr ⟨within, by rw [missing]; rfl⟩
    obtain ⟨first, firstWithin, samePath⟩ := exists_firstOfPath remaining
    have firstOld := (List.mem_filter.mp (mem_of_mem_firstOfPath firstWithin)).1
    have firstCovered := covers first firstOld
    rw [DetectionCovers, if_pos recovery, samePath, missing] at firstCovered
    have describes : first.DescribesPath :=
      firstCovered.resolve_left Bool.false_ne_true
    exact ⟨.deleted first.toObservation, List.mem_map.mpr ⟨first, firstWithin, rfl⟩,
      first.toObservation_path.trans (describes.symm.trans samePath)⟩
  · simp only [recovery, if_false, Bool.false_eq_true] at shown ⊢
    have within : record ∈ table.oldRows lifecycle.working :=
      BaseTable.mem_oldRows.mpr ⟨shown, previous old⟩
    have covered := covers record within
    rw [DetectionCovers, if_neg recovery] at covered
    obtain ⟨status, classified, path⟩ := classifyDeletion_covers
      (BaseTable.mem_of_mem_finalRows shown) covered.1 covered.2
    exact ⟨status, classifyDeletedCandidates_covers within classified, path⟩

end Terrasync.Catalogue
