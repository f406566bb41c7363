import Mathlib.Algebra.Order.BigOperators.Group.List
import Terrasync.Scan.FinalStatistics

/-! What the statistics of both stores and the live figures have in common: the rows in scope
are the captured items of the round, each figure is a sum over them, and only the depths of
directories and the case of extensions are computed in two ways. -/

set_option autoImplicit false

namespace Terrasync.Scan.FinalStatistics

open Lib (CaseTables asciiLower toLowercase surviving newest newestRows latest table tally groups amounts)

/-! ### The rows in scope -/

theorem capture_key (generation : UInt8) (view : ObservedView) :
    (NativeScanRecord.capture generation view).key = itemKey view := rfl

theorem SingleStore.foldl_writeNative (generation : UInt8) (base : List NativeScanRecord)
    (calls : List (List EntryFacts)) :
    calls.foldl (SingleStore.writeNative generation) base =
      base ++ (calls.flatten.flatMap allViews).map (NativeScanRecord.capture generation) := by
  induction calls generalizing base with
  | nil => rw [List.foldl_nil, List.flatten_nil, List.flatMap_nil, List.map_nil, List.append_nil]
  | cons entries calls ih =>
      rw [List.foldl_cons, ih, SingleStore.writeNative, List.flatten_cons, List.flatMap_append, List.map_append,
        List.append_assoc]

theorem ClusterScanStore.foldl_writeNative (jobId : Text) (epoch : Nat) (generation : UInt8)
    (base : List ClusterNativeScanRecord) (calls : List (List EntryFacts)) :
    calls.foldl (ClusterScanStore.writeNative jobId epoch generation) base =
      base ++ (calls.flatten.flatMap allViews).map fun view => ⟨jobId, epoch, false, .capture generation view⟩ := by
  induction calls generalizing base with
  | nil => rw [List.foldl_nil, List.flatten_nil, List.flatMap_nil, List.map_nil, List.append_nil]
  | cons entries calls ih =>
      rw [List.foldl_cons, ih, ClusterScanStore.writeNative, List.flatten_cons, List.flatMap_append, List.map_append,
        List.append_assoc]

namespace Round

variable (round : Round)

/-- The rows that both stores read: the items of the round, captured. -/
def rows : List NativeScanRecord := round.observed.map (NativeScanRecord.capture round.generation)

theorem single_scope :
    SingleStore.scope round.generation
      (round.calls.foldl (SingleStore.writeNative round.generation) round.before) = round.rows := by
  rw [SingleStore.foldl_writeNative, SingleStore.scope, Lib.surviving_append, List.filter_append, List.filter_filter,
    Lib.surviving_map]
  have earlier : ((surviving NativeScanRecord.key round.before).filter fun row =>
      decide (row.currentState = round.generation) &&
        !((round.calls.flatten.flatMap allViews).map (NativeScanRecord.capture round.generation)).any fun other =>
          other.key = row.key) = [] := by
    refine List.filter_eq_nil_iff.mpr fun row member shown => ?_
    rw [Bool.and_eq_true] at shown
    exact round.unshown row member (of_decide_eq_true shown.1)
  rw [earlier, List.nil_append]
  refine List.filter_eq_self.mpr fun row member => ?_
  obtain ⟨view, -, rfl⟩ := List.mem_map.mp member
  exact decide_eq_true rfl

/-- The row of an item in the shared table. -/
def shared (view : ObservedView) : ClusterNativeScanRecord :=
  ⟨round.jobId, round.epoch, false, .capture round.generation view⟩

theorem surviving_shared (views : List ObservedView) :
    surviving ClusterNativeScanRecord.key (views.map round.shared) = (surviving itemKey views).map round.shared := by
  rw [Lib.surviving_map]
  congr 1
  refine Lib.surviving_congr fun first _ second _ => ?_
  simp only [ClusterNativeScanRecord.key, shared, capture_key, Prod.mk.injEq, true_and]

/-- The newest rows of the job and epoch are those of the round. -/
theorem newestRows_shared {base : List ClusterNativeScanRecord} (older : ∀ row ∈ base, row.epoch < round.epoch)
    (views : List ObservedView) :
    (newestRows ClusterNativeScanRecord.epoch ClusterNativeScanRecord.key (base ++ views.map round.shared)).filter
        (fun row => decide (row.epoch = round.epoch) && !row.isDeleted) =
      (surviving itemKey views).map round.shared := by
  have leveled : ∀ row ∈ views.map round.shared, row.epoch = round.epoch := by
    intro row member
    obtain ⟨view, -, rfl⟩ := List.mem_map.mp member
    rfl
  have found : ∀ key, newest ClusterNativeScanRecord.epoch ClusterNativeScanRecord.key
      (base ++ views.map round.shared) key =
      (latest ClusterNativeScanRecord.key (views.map round.shared) key).or
        (newest ClusterNativeScanRecord.epoch ClusterNativeScanRecord.key base key) :=
    fun key => Lib.newest_append _ base _ key leveled fun row member => (older row member).le
  rw [newestRows, Lib.surviving_append, List.filterMap_append, List.filter_append]
  have earlier : (((surviving ClusterNativeScanRecord.key base).filter fun row =>
      !(views.map round.shared).any fun other => other.key = row.key).filterMap fun row =>
        newest ClusterNativeScanRecord.epoch ClusterNativeScanRecord.key (base ++ views.map round.shared)
          row.key).filter (fun row => decide (row.epoch = round.epoch) && !row.isDeleted) = [] := by
    refine List.filter_eq_nil_iff.mpr fun row member shown => ?_
    obtain ⟨source, inside, picked⟩ := List.mem_filterMap.mp member
    obtain ⟨-, unwritten⟩ := List.mem_filter.mp inside
    have absent : latest ClusterNativeScanRecord.key (views.map round.shared) source.key = none := by
      refine Lib.latest_eq_none.mpr fun other written same => ?_
      rw [Bool.not_eq_true', List.any_eq_false] at unwritten
      exact unwritten other written (decide_eq_true same)
    rw [found, absent, Option.none_or] at picked
    rw [Bool.and_eq_true, decide_eq_true_eq] at shown
    exact (older row (Lib.mem_of_newest _ picked)).ne shown.1
  have later : ∀ row ∈ surviving ClusterNativeScanRecord.key (views.map round.shared),
      newest ClusterNativeScanRecord.epoch ClusterNativeScanRecord.key (base ++ views.map round.shared) row.key =
        some row := by
    intro row member
    rw [found, Lib.mem_surviving.mp member, Option.some_or]
  rw [earlier, List.nil_append, List.filterMap_congr later, List.filterMap_some, round.surviving_shared]
  refine List.filter_eq_self.mpr fun row member => ?_
  obtain ⟨view, -, rfl⟩ := List.mem_map.mp member
  simp only [shared, decide_true, Bool.not_false, Bool.and_self]

/-- The rows of the other jobs are not among the newest rows of the job. -/
theorem newestRows_own :
    (newestRows ClusterNativeScanRecord.epoch ClusterNativeScanRecord.key
        (round.clusterBefore ++ round.written.map round.shared)).filter (fun row => decide (row.jobId = round.jobId)) =
      newestRows ClusterNativeScanRecord.epoch ClusterNativeScanRecord.key
        (round.clusterBefore.filter (fun row => decide (row.jobId = round.jobId)) ++
          round.written.map round.shared) := by
  have written : (round.written.map round.shared).filter (fun row => decide (row.jobId = round.jobId)) =
      round.written.map round.shared := by
    refine List.filter_eq_self.mpr fun row member => ?_
    obtain ⟨view, -, rfl⟩ := List.mem_map.mp member
    exact decide_eq_true rfl
  refine (@Lib.newestRows_filter _ _ _ ClusterNativeScanRecord.key ClusterNativeScanRecord.epoch
    (fun key => decide (key.1 = round.jobId)) _).trans ?_
  rw [List.filter_append]
  exact congrArg (fun later => newestRows _ _ (_ ++ later)) written

theorem cluster_scope :
    ClusterScanStore.scope round.jobId round.epoch
      (round.calls.foldl (ClusterScanStore.writeNative round.jobId round.epoch round.generation)
        round.clusterBefore) = round.rows := by
  have older : ∀ row ∈ round.clusterBefore.filter (fun row => decide (row.jobId = round.jobId)),
      row.epoch < round.epoch := by
    intro row member
    obtain ⟨inside, own⟩ := List.mem_filter.mp member
    exact round.older row inside (of_decide_eq_true own)
  have shown := round.newestRows_shared older round.written
  rw [← newestRows_own, List.filter_filter] at shown
  have conditions : (fun row : ClusterNativeScanRecord =>
      decide (row.jobId = round.jobId) && decide (row.epoch = round.epoch) && !row.isDeleted) =
      fun row => (decide (row.epoch = round.epoch) && !row.isDeleted) && decide (row.jobId = round.jobId) := by
    funext row
    rw [Bool.and_assoc, Bool.and_comm]
  rw [ClusterScanStore.foldl_writeNative, ClusterScanStore.scope, conditions]
  refine (congrArg (List.map ClusterNativeScanRecord.record) shown).trans ?_
  rw [List.map_map]
  rfl

end Round

/-! ### Aggregates -/

section Aggregates

variable {Row Other : Type} (condition : Row → Bool) (value : Row → Nat)

theorem countIf_concat (rows : List Row) (row : Row) :
    countIf condition (rows ++ [row]) = countIf condition rows + if condition row then 1 else 0 := by
  rw [countIf, countIf, List.countP_append, List.countP_singleton]

theorem sumIf_concat (rows : List Row) (row : Row) :
    sumIf value condition (rows ++ [row]) = sumIf value condition rows + if condition row then value row else 0 := by
  rw [sumIf, sumIf, List.filter_append, List.map_append, List.sum_append]
  cases counted : condition row with
  | true => simp [counted]
  | false => simp [counted]

theorem maxIf_concat (rows : List Row) (row : Row) :
    maxIf value condition (rows ++ [row]) =
      if condition row then max (maxIf value condition rows) (value row) else maxIf value condition rows := by
  rw [maxIf, maxIf, List.filter_append, List.map_append, List.foldl_append]
  cases counted : condition row with
  | true => rw [List.filter_cons_of_pos counted, List.filter_nil]; rfl
  | false => rw [List.filter_cons_of_neg (by simp [counted]), List.filter_nil]; rfl

variable (project : Other → Row)

theorem countIf_map (rows : List Other) : countIf condition (rows.map project) = countIf (condition ∘ project) rows :=
  List.countP_map

theorem sumIf_map (rows : List Other) :
    sumIf value condition (rows.map project) = sumIf (value ∘ project) (condition ∘ project) rows := by
  rw [sumIf, sumIf, List.filter_map, List.map_map]

theorem maxIf_map (rows : List Other) :
    maxIf value condition (rows.map project) = maxIf (value ∘ project) (condition ∘ project) rows := by
  rw [maxIf, maxIf, List.filter_map, List.map_map]

variable {rows others : List Row} (perm : rows.Perm others)

include perm

theorem countIf_perm : countIf condition rows = countIf condition others := perm.countP_eq condition

theorem sumIf_perm : sumIf value condition rows = sumIf value condition others :=
  ((perm.filter condition).map value).sum_eq

theorem maxIf_perm : maxIf value condition rows = maxIf value condition others :=
  ((perm.filter condition).map value).foldl_eq 0

end Aggregates

theorem toInt64_add (first second : Nat) : toInt64 (first + second) = toInt64 first + toInt64 second :=
  Int64.ofNat_add first second

/-- Conversion keeps sums. -/
def toInt64Hom : Nat →+ Int64 where
  toFun := toInt64
  map_zero' := rfl
  map_add' := toInt64_add

/-! ### The live figures -/

/-- The sizes of the regular files by extension, in the case that is given. -/
def extensionEntries (lower : Text → Text) (items : List ObservedView) : List (Text × Int64) :=
  items.filterMap fun view =>
    if getIsRegularFile view then (getExtension view).map fun ext => (lower ext, toInt64 (getSize view)) else none

/-- The sizes of the regular files by range. -/
def rangeEntries (items : List ObservedView) : List (FileSizeRange × Int64) :=
  (items.filter getIsRegularFile).map fun view => (calculateFileSizeRange (getSize view), toInt64 (getSize view))

/-- Neither a directory, nor a link, nor a regular file. -/
def isOther (view : ObservedView) : Bool :=
  !view.getIsDir && !getIsSymlink view && !getIsRegularFile view

/-- The figures of the items, where the depth of a directory and the case of an extension are given. -/
def figures (lower : Text → Text) (depth : ObservedView → Nat) (items : List ObservedView) : FullStats where
  dirCount := countIf ObservedView.getIsDir items
  dirSize := toInt64 (sumIf getSize ObservedView.getIsDir items)
  regularFileCount := countIf getIsRegularFile items
  regularFileSize := toInt64 (sumIf getSize getIsRegularFile items)
  symlinkCount := countIf getIsSymlink items
  symlinkSize := toInt64 (sumIf getSize getIsSymlink items)
  otherEntryCount := countIf isOther items
  otherEntrySize := toInt64 (sumIf getSize isOther items)
  totalDirDepth := toInt64 (sumIf depth ObservedView.getIsDir items)
  maxDirDepth := maxIf depth ObservedView.getIsDir items
  totalNameLength := toInt64 (sumIf (fun view => byteLength (getName view)) (fun _ => true) items)
  maxNameLength := maxIf (fun view => byteLength (getName view)) (fun _ => true) items
  extensionStats := tally (extensionEntries lower items)
  fileSizeRangeStats := tally (rangeEntries items)

def liveDepth (view : ObservedView) : Nat := calculateDepth view.entry.path

def keyDepth (view : ObservedView) : Nat := slashes view.pathKey + 1

theorem extensionEntries_concat (lower : Text → Text) (items : List ObservedView) (view : ObservedView) :
    extensionEntries lower (items ++ [view]) = extensionEntries lower items ++
      if getIsRegularFile view then
        ((getExtension view).map fun ext => (lower ext, toInt64 (getSize view))).toList
      else [] := by
  rw [extensionEntries, extensionEntries, List.filterMap_append]
  congr 1
  cases regular : getIsRegularFile view with
  | true => cases found : getExtension view with
    | some ext => simp [regular, found]
    | none => simp [regular, found]
  | false => simp [regular]

theorem rangeEntries_concat (items : List ObservedView) (view : ObservedView) :
    rangeEntries (items ++ [view]) = rangeEntries items ++
      if getIsRegularFile view then [(calculateFileSizeRange (getSize view), toInt64 (getSize view))] else [] := by
  rw [rangeEntries, rangeEntries, List.filter_append, List.map_append]
  cases regular : getIsRegularFile view with
  | true => simp [regular]
  | false => simp [regular]

/-- One update adds one item to the figures. -/
theorem update_figures (tables : CaseTables) (items : List ObservedView) (view : ObservedView) :
    FullStats.update tables (figures (toLowercase tables) liveDepth items) view =
      figures (toLowercase tables) liveDepth (items ++ [view]) := by
  have ranges := (Lib.tally_concat (rangeEntries items) (calculateFileSizeRange (getSize view), toInt64 (getSize view))).symm
  cases kind : view.entry.kind <;>
    simp [FullStats.update, FullStats.updateDistributions, figures, countIf_concat, sumIf_concat, maxIf_concat,
      toInt64_add, extensionEntries_concat, rangeEntries_concat, isOther, ObservedView.getIsDir, getIsSymlink,
      getIsRegularFile, kind, ranges, liveDepth]
  -- only a regular file has an extension to count
  cases getExtension view with
  | some ext => exact (Lib.tally_concat _ _).symm
  | none => rw [Option.map_none, Option.toList_none, List.append_nil]

/-- Folding the items leaves their figures. -/
theorem fold_eq_figures (tables : CaseTables) (items : List ObservedView) :
    FullStats.fold tables items = figures (toLowercase tables) liveDepth items := by
  rw [FullStats.fold]
  induction items using List.reverseRecOn with
  | nil => rfl
  | append_singleton items view ih =>
      rw [List.foldl_append, List.foldl_cons, List.foldl_nil, ih, update_figures]

/-! ### The figures of the stores -/

theorem buckets_columns {Name : Type} (rows : List (Name × Int64 × Nat)) :
    buckets (rows.map Prod.fst, rows.map (·.2.1), rows.map (·.2.2)) = rows.filter fun row => decide (row.2.2 > 0) := by
  rw [buckets]
  simp only [List.zip_map', List.filter_map, List.map_map]
  exact List.map_id _

/-- The rows of a grouped sum all count something. -/
theorem counted_of_mem_groups {Name : Type} [DecidableEq Name] {entries : List (Name × Int64)}
    {row : Name × Int64 × Nat} (member : row ∈ groups entries) : row.2.2 > 0 := by
  obtain ⟨present, total⟩ := Lib.tally_eq_some.mp (Lib.mem_groups.mp member)
  rw [total]
  refine List.length_pos_iff.mpr fun empty => ?_
  exact Lib.amounts_eq_nil.mp empty present

/-- A sum is converted once it is grouped. -/
theorem groups_toInt64 {Name : Type} [DecidableEq Name] (name : NativeScanRecord → Name)
    (rows : List NativeScanRecord) :
    ((groups (rows.map fun row => (name row, row.size.toNat))).map fun row => (row.1, toInt64 row.2.1, row.2.2)) =
      groups (rows.map fun row => (name row, toInt64 row.size.toNat)) := by
  have converted := Lib.groups_hom toInt64Hom (rows.map fun row => (name row, row.size.toNat))
  rw [List.map_map] at converted
  exact converted.symm

theorem buckets_sumMap (entries : List (Text × Int64)) : buckets (sumMap entries) = groups entries := by
  have kept : (groups entries).filter (fun row => decide (row.2.1 ≠ 0) || decide (row.2.2 ≠ 0)) = groups entries := by
    refine List.filter_eq_self.mpr fun row member => ?_
    rw [Bool.or_eq_true, decide_eq_true_eq, decide_eq_true_eq]
    exact .inr (counted_of_mem_groups member).ne'
  rw [sumMap, kept, buckets_columns]
  exact List.filter_eq_self.mpr fun row member => decide_eq_true (counted_of_mem_groups member)

/-- The regular rows with an extension carry the entries of the items. -/
theorem extensionEntries_capture (generation : UInt8) (items : List ObservedView) :
    (((items.map (NativeScanRecord.capture generation)).filter fun row =>
      row.isRegularFile && row.ext.isSome).map fun row => (lowerExt row, toInt64 row.size.toNat)) =
      extensionEntries asciiLower items := by
  induction items with
  | nil => rfl
  | cons view items ih =>
      rw [List.map_cons, List.filter_cons, extensionEntries, List.filterMap_cons, ← extensionEntries, ← ih]
      cases regular : getIsRegularFile view with
      | false => 
          have row : (NativeScanRecord.capture generation view).isRegularFile = false := regular
          simp [row]
      | true => 
          have row : (NativeScanRecord.capture generation view).isRegularFile = true := regular
          cases found : getExtension view with
          | none =>
              have column : (NativeScanRecord.capture generation view).ext = none := found
              simp [row, column]
          | some ext =>
              have column : (NativeScanRecord.capture generation view).ext = some ext := found
              simp [row, column, lowerExt]
              rfl

/-! ### Sizes -/

def FileSizeRange.bucket : FileSizeRange → Nat
  | lessThan4K => 0
  | between4KAnd64K => 1
  | between64KAnd128K => 2
  | between128KAnd256K => 3
  | between256KAnd512K => 4
  | between512KAnd1M => 5
  | between1MAnd2M => 6
  | between2MAnd16M => 7
  | between16MAnd64M => 8
  | between64MAnd128M => 9
  | between128MAnd512M => 10
  | over512M => 11

theorem sizeBucket_eq (size : Nat) : sizeBucket size = (calculateFileSizeRange size).bucket := by
  rw [sizeBucket, calculateFileSizeRange]
  simp only [Nat.reduceMul, apply_ite FileSizeRange.bucket]
  simp only [FileSizeRange.bucket]

theorem bucket_lt (range : FileSizeRange) : range.bucket < 12 := by cases range <;> decide

theorem bucket_injective : Function.Injective FileSizeRange.bucket := by
  intro first second same
  cases first <;> cases second <;> first | rfl | cases same

theorem fileSizeRanges_bucket (range : FileSizeRange) : fileSizeRanges[range.bucket]? = some range := by
  cases range <;> rfl

/-- The ranges are listed in the order of their buckets. -/
theorem fileSizeRanges_eq_some {bucket : Nat} {range : FileSizeRange} :
    fileSizeRanges[bucket]? = some range ↔ bucket = range.bucket := by
  constructor
  · intro found
    obtain ⟨inside, -⟩ := List.getElem?_eq_some_iff.mp found
    have distinct : fileSizeRanges.Nodup := by decide
    exact (List.getElem?_inj inside distinct).mp (found.trans (fileSizeRanges_bucket range).symm)
  · rintro rfl
    exact fileSizeRanges_bucket range

/-- The sizes of the regular files by bucket. -/
def sizeEntries (items : List ObservedView) : List (Nat × Int64) :=
  (items.filter getIsRegularFile).map fun view => (sizeBucket (getSize view), toInt64 (getSize view))

theorem sizeEntries_eq (items : List ObservedView) :
    sizeEntries items = (rangeEntries items).map fun entry => (entry.1.bucket, entry.2) := by
  rw [sizeEntries, rangeEntries, List.map_map]
  refine List.map_congr_left fun view _ => ?_
  rw [sizeBucket_eq]
  rfl

/-- Totals by bucket, decoded, are the totals by range. -/
theorem table_decoded {rows : List (Nat × Int64 × Nat)} {items : List ObservedView}
    (totals : table rows =
      tally (sizeEntries items)) :
    table (rows.filterMap fun row => (fileSizeRanges[row.1]?).map fun range => (range, row.2)) =
      tally (rangeEntries items) := by
  funext range
  rw [Lib.table_decode (fun _ => fileSizeRanges_eq_some), totals, sizeEntries_eq]
  exact Lib.tally_rename FileSizeRange.bucket _ fun _ _ => bucket_injective.eq_iff

theorem filter_regular_capture (generation : UInt8) (items : List ObservedView) :
    (items.map (NativeScanRecord.capture generation)).filter (·.isRegularFile) =
      (items.filter getIsRegularFile).map (NativeScanRecord.capture generation) := by
  rw [List.filter_map]
  rfl

/-- Rows that are not regular files add nothing to the sums of their bucket. -/
theorem sums_capture (generation : UInt8) (index : Nat) (items : List ObservedView) :
    let rows := (items.map (NativeScanRecord.capture generation)).filter fun row => sizeBucket row.size.toNat = index
    (rows.map fun row => if row.isRegularFile then toInt64 row.size.toNat else 0).sum =
        (amounts (sizeEntries items) index).sum ∧
      (rows.map fun row => row.isRegularFile.toNat).sum = (amounts (sizeEntries items) index).length := by
  induction items with
  | nil => exact ⟨rfl, rfl⟩
  | cons view items ih =>
      obtain ⟨bytes, counts⟩ := ih
      have size : (NativeScanRecord.capture generation view).size.toNat = getSize view := rfl
      have kind : (NativeScanRecord.capture generation view).isRegularFile = getIsRegularFile view := rfl
      by_cases here : sizeBucket (getSize view) = index
      · rw [List.map_cons, List.filter_cons_of_pos (by rw [size]; exact decide_eq_true here)]
        dsimp only
        rw [List.map_cons, List.map_cons, List.sum_cons, List.sum_cons, bytes, counts, kind, size]
        cases regular : getIsRegularFile view with
        | true =>
            have entries : amounts (sizeEntries (view :: items)) index =
                toInt64 (getSize view) :: amounts (sizeEntries items) index := by
              simp [sizeEntries, amounts, regular, here]
            rw [entries, List.sum_cons, List.length_cons]
            exact ⟨rfl, Nat.add_comm _ _⟩
        | false =>
            have entries : amounts (sizeEntries (view :: items)) index = amounts (sizeEntries items) index := by
              simp [sizeEntries, regular]
            rw [entries]
            exact ⟨zero_add _, Nat.zero_add _⟩
      · have entries : amounts (sizeEntries (view :: items)) index = amounts (sizeEntries items) index := by
          cases regular : getIsRegularFile view with
          | true => simp [sizeEntries, amounts, regular, here]
          | false => simp [sizeEntries, regular]
        rw [List.map_cons, List.filter_cons_of_neg (by rw [size, decide_eq_true_eq]; exact here), entries]
        exact ⟨bytes, counts⟩

/-- One sum for each bucket, those that count nothing left out, gives the totals by bucket. -/
theorem table_sumResample (generation : UInt8) (items : List ObservedView) :
    table (buckets (selectAggregate (items.map (NativeScanRecord.capture generation))).sizes) =
      tally (sizeEntries items) := by
  let rows := (List.range 12).map fun index =>
    (index, (amounts (sizeEntries items) index).sum, (amounts (sizeEntries items) index).length)
  have keys : rows.map Prod.fst = List.range 12 := by
    rw [List.map_map]
    exact List.map_id _
  have columns : (selectAggregate (items.map (NativeScanRecord.capture generation))).sizes =
      (rows.map Prod.fst, rows.map (·.2.1), rows.map (·.2.2)) := by
    rw [keys, List.map_map, List.map_map]
    refine Prod.ext rfl (Prod.ext ?_ ?_)
    · exact List.map_congr_left fun index _ => (sums_capture generation index items).1
    · exact List.map_congr_left fun index _ => (sums_capture generation index items).2
  have distinct : ((rows.filter fun row => decide (row.2.2 > 0)).map Prod.fst).Nodup := by
    refine List.Nodup.sublist (List.filter_sublist.map _) ?_
    rw [keys]
    exact List.nodup_range
  rw [columns, buckets_columns]
  funext bucket
  refine Option.ext fun total => ?_
  rw [Lib.table_eq_some distinct, Lib.tally_eq_some, List.mem_filter, List.mem_map, decide_eq_true_eq]
  constructor
  · rintro ⟨⟨index, -, same⟩, counted⟩
    cases same
    exact ⟨not_not.mp (mt Lib.amounts_eq_nil.mpr (List.length_pos_iff.mp counted)), rfl⟩
  · rintro ⟨present, rfl⟩
    refine ⟨⟨bucket, List.mem_range.mpr ?_, rfl⟩, List.length_pos_iff.mpr (mt Lib.amounts_eq_nil.mp (not_not.mpr present))⟩
    obtain ⟨entry, member, rfl⟩ := List.mem_map.mp present
    rw [sizeEntries_eq] at member
    obtain ⟨source, -, rfl⟩ := List.mem_map.mp member
    exact bucket_lt source.1

/-! ### Reconciliation -/

theorem figures_perm (lower : Text → Text) (depth : ObservedView → Nat) {items others : List ObservedView}
    (perm : items.Perm others) : figures lower depth items = figures lower depth others := by
  have extensions : (extensionEntries lower items).Perm (extensionEntries lower others) := perm.filterMap _
  have ranges : (rangeEntries items).Perm (rangeEntries others) := (perm.filter _).map _
  simp only [figures, countIf_perm _ perm, sumIf_perm _ _ perm, maxIf_perm _ _ perm, Lib.tally_perm extensions,
    Lib.tally_perm ranges]

/-- The figures of a store: those of the items by the depths of their keys and by the ASCII case of
their extensions, with the other entries that are not selected. -/
def storeFigures (full : FullStats) (items : List ObservedView) : FullStats :=
  { figures asciiLower keyDepth items with
    otherEntryCount := full.otherEntryCount
    otherEntrySize := full.otherEntrySize }

/-- What is selected over the captured items, put in the place of the live figures. -/
theorem reconcile_eq (full : FullStats) (generation : UInt8) {items : List ObservedView}
    {values : ScanResumeStatistics}
    (summary : values.summary = selectSummary (items.map (NativeScanRecord.capture generation)))
    (extensions : table values.extensions = tally (extensionEntries asciiLower items))
    (sizes : table values.sizes = tally (sizeEntries items)) :
    full.reconcile values = storeFigures full items := by
  have links : (fun row : NativeScanRecord => !row.isDir && row.isSymlink) ∘ NativeScanRecord.capture generation =
      getIsSymlink := by
    funext view
    simp only [Function.comp_apply, NativeScanRecord.capture, ObservedView.getIsDir, getIsSymlink]
    cases view.entry.kind <;> rfl
  rw [FullStats.reconcile, summary, extensions, table_decoded sizes]
  simp only [selectSummary, countIf_map, sumIf_map, maxIf_map, links]
  rfl

namespace Round

variable (round : Round)

theorem reconcile_single (full : FullStats) : full.reconcile round.single = storeFigures full round.observed := by
  have scope := round.single_scope
  rw [rows] at scope
  refine reconcile_eq full round.generation ?_ ?_ ?_
  · rw [single, SingleStore.resumeStatistics, scope]
  · rw [single, SingleStore.resumeStatistics, scope, ← Lib.table_groups,
      ← extensionEntries_capture round.generation, groups_toInt64, List.filter_filter]
    simp only [Bool.and_comm]
  · rw [single, SingleStore.resumeStatistics, scope]
    dsimp only
    rw [groups_toInt64, Lib.table_groups, filter_regular_capture, List.map_map]
    rfl

theorem reconcile_cluster (full : FullStats) : full.reconcile round.cluster = storeFigures full round.observed := by
  have scope := round.cluster_scope
  rw [rows] at scope
  refine reconcile_eq full round.generation ?_ ?_ ?_
  · rw [cluster, ClusterScanStore.resumeStatistics, scope]
    rfl
  · rw [cluster, ClusterScanStore.resumeStatistics, scope, ← Lib.table_groups,
      ← extensionEntries_capture round.generation, ← buckets_sumMap]
    rfl
  · rw [cluster, ClusterScanStore.resumeStatistics, scope]
    exact table_sumResample round.generation round.observed

end Round

/-! ### Depths -/

theorem length_splitOn (path : RelativePath) : (path.splitOn '/').length = slashes path + 1 := by
  induction path with
  | nil => rfl
  | cons character path ih =>
      rw [List.splitOn_cons_eq_if_modifyHead, slashes, List.count_cons]
      cases separator : character == '/' with
      | true => rw [if_pos rfl, List.length_cons, ih, slashes, if_pos rfl]
      | false => rw [if_neg Bool.false_ne_true, List.length_modifyHead, ih, slashes, if_neg Bool.false_ne_true]

theorem component?_isSome (part : Text) : (component? part).isSome ↔ part ≠ [] ∧ part ≠ ['.'] := by
  rw [component?]
  split
  · next dropped => simpa [or_iff_not_imp_left] using dropped
  · next kept =>
      rw [not_or] at kept
      split <;> simpa using kept

/-- The first part counts one, even where it is no component. -/
theorem calculateDepth_eq (path : RelativePath) :
    calculateDepth path = ((path.splitOn '/').tail.filterMap component?).length + 1 := by
  rw [calculateDepth, pathComponents]
  cases parts : path.splitOn '/' with
  | nil => rfl
  | cons first rest =>
      dsimp only
      rw [List.length_append, List.tail_cons]
      split
      · next empty =>
          split
          · next alone => rw [alone]; rfl
          · rw [List.length_singleton]; omega
      · next filled =>
          split
          · rw [List.length_singleton]; omega
          · next other =>
              obtain ⟨component, found⟩ := Option.isSome_iff_exists.mp ((component?_isSome first).mpr ⟨filled, other⟩)
              rw [found, Option.toList_some, List.length_singleton]
              omega

theorem keyDepth_eq (view : ObservedView) :
    keyDepth view = (view.entry.path.splitOn '/').tail.length + 1 +
      if view.version.isSome ∧ view.entry.kind = .directory then 1 else 0 := by
  rw [keyDepth, ObservedView.pathKey, List.length_tail, length_splitOn]
  split
  · rw [slashes, List.count_append, slashes, List.count_singleton_self]
    omega
  · omega

theorem liveDepth_le (view : ObservedView) : liveDepth view ≤ keyDepth view := by
  have kept := List.length_filterMap_le component? (view.entry.path.splitOn '/').tail
  rw [liveDepth, calculateDepth_eq, keyDepth_eq]
  omega

/-- A directory that is no object version, with a path that has neither an empty part nor a single dot
behind its first part. -/
def PlainDirectory (view : ObservedView) : Prop :=
  view.version = none ∧ ∀ part ∈ (view.entry.path.splitOn '/').tail, part ≠ [] ∧ part ≠ ['.']

theorem liveDepth_eq_iff {view : ObservedView} (directory : view.getIsDir) :
    liveDepth view = keyDepth view ↔ PlainDirectory view := by
  have kind : view.entry.kind = .directory := of_decide_eq_true directory
  have kept := List.length_filterMap_le component? (view.entry.path.splitOn '/').tail
  have all : ((view.entry.path.splitOn '/').tail.filterMap component?).length =
      (view.entry.path.splitOn '/').tail.length ↔
        ∀ part ∈ (view.entry.path.splitOn '/').tail, part ≠ [] ∧ part ≠ ['.'] := by
    rw [List.filterMap_length_eq_length]
    exact forall₂_congr fun part _ => component?_isSome part
  rw [liveDepth, calculateDepth_eq, keyDepth_eq, PlainDirectory, ← all]
  cases version : view.version with
  | none => simp
  | some record => 
      rw [if_pos ⟨rfl, kind⟩]
      constructor
      · omega
      · exact fun impossible => absurd impossible.1 (Option.some_ne_none _)

section Bounds

variable {Row : Type} {first second : Row → Nat} (below : ∀ row, first row ≤ second row)

include below

theorem sumIf_le (condition : Row → Bool) (rows : List Row) :
    sumIf first condition rows ≤ sumIf second condition rows :=
  List.sum_le_sum fun row _ => below row

/-- Equal totals, where one value is never above the other, are totals of equal values. -/
theorem eq_of_sumIf_eq {condition : Row → Bool} {rows : List Row}
    (same : sumIf first condition rows = sumIf second condition rows) :
    ∀ row ∈ rows, condition row → first row = second row := by
  intro row member counted
  by_contra different
  have strict : sumIf first condition rows < sumIf second condition rows :=
    List.sum_lt_sum first second (fun row _ => below row)
      ⟨row, List.mem_filter.mpr ⟨member, counted⟩, Nat.lt_of_le_of_ne (below row) different⟩
  exact strict.ne same

end Bounds

theorem toInt64_injective {first second : Nat} (firstFits : first < 2 ^ 63) (secondFits : second < 2 ^ 63)
    (same : toInt64 first = toInt64 second) : first = second := by
  have integers := congrArg Int64.toInt same
  rw [toInt64, toInt64, Int64.toInt_ofNat_of_lt firstFits, Int64.toInt_ofNat_of_lt secondFits] at integers
  exact Int.ofNat_inj.mp integers

/-! ### Agreement -/

section Agreement

variable {tables : CaseTables} (documented : tables.Documented) {items : List ObservedView}

/-- Lower case of the extension of a regular file changes ASCII letters only. -/
def AsciiCased (tables : CaseTables) (view : ObservedView) : Prop :=
  ∀ ext, getExtension view = some ext → toLowercase tables ext = asciiLower ext

theorem extensionEntries_congr {first second : Text → Text}
    (same : ∀ view ∈ items, getIsRegularFile view → ∀ ext, getExtension view = some ext → first ext = second ext) :
    extensionEntries first items = extensionEntries second items := by
  refine List.filterMap_congr fun view member => ?_
  split
  · next regular =>
      cases found : getExtension view with
      | none => rfl
      | some ext => rw [Option.map_some, Option.map_some, same view member regular ext found]
  · rfl

include documented in
theorem asciiCased_of_tally_eq
    (same : tally (extensionEntries asciiLower items) = tally (extensionEntries (toLowercase tables) items)) :
    ∀ view ∈ items, getIsRegularFile view → AsciiCased tables view := by
  intro view member regular ext found
  have entry : (asciiLower ext, toInt64 (getSize view)) ∈ extensionEntries asciiLower items :=
    List.mem_filterMap.mpr ⟨view, member, by rw [if_pos regular, found]; rfl⟩
  have key : (tally (extensionEntries (toLowercase tables) items) (asciiLower ext)).isSome := by
    rw [← same, Lib.tally_isSome]
    exact List.mem_map_of_mem entry
  obtain ⟨other, inside, lowered⟩ := List.mem_map.mp (Lib.tally_isSome.mp key)
  obtain ⟨source, -, picked⟩ := List.mem_filterMap.mp inside
  split at picked
  · obtain ⟨sourceExt, -, rfl⟩ := Option.map_eq_some_iff.mp picked
    exact Lib.toLowercase_eq_of_asciiLower_eq documented lowered
  · cases picked

include documented in
/-- The figures of a store are those of the live statistics exactly where depths and cases agree. -/
theorem storeFigures_eq_iff (bounded : sumIf keyDepth ObservedView.getIsDir items < 2 ^ 63) :
    storeFigures (FullStats.fold tables items) items = FullStats.fold tables items ↔
      (∀ view ∈ items, getIsRegularFile view → AsciiCased tables view) ∧
        ∀ view ∈ items, view.getIsDir → PlainDirectory view := by
  rw [fold_eq_figures]
  have total := sumIf_le liveDepth_le ObservedView.getIsDir items
  constructor
  · intro same
    have extensions := congrArg FullStats.extensionStats same
    have depths := toInt64_injective bounded (total.trans_lt bounded) (congrArg FullStats.totalDirDepth same)
    refine ⟨asciiCased_of_tally_eq documented extensions, fun view member directory => ?_⟩
    exact (liveDepth_eq_iff directory).mp (eq_of_sumIf_eq liveDepth_le depths.symm view member directory)
  · rintro ⟨cased, plain⟩
    have entries : extensionEntries (toLowercase tables) items = extensionEntries asciiLower items :=
      extensionEntries_congr cased
    have depths : (items.filter ObservedView.getIsDir).map liveDepth =
        (items.filter ObservedView.getIsDir).map keyDepth := by
      refine List.map_congr_left fun view counted => ?_
      obtain ⟨member, directory⟩ := List.mem_filter.mp counted
      exact (liveDepth_eq_iff directory).mpr (plain view member directory)
    simp only [storeFigures, figures, entries, sumIf, maxIf, depths]

end Agreement

/-- For every round of writes, and the observed items in any order: both stores put the same figures in
the place of any others, and they leave the live figures as they are exactly when lower case changes
only ASCII letters of the extensions of regular files and every directory is a plain one. -/
theorem final_statistics_agree (tables : CaseTables) (documented : tables.Documented) (round : Round)
    (items : List ObservedView) (observed : items.Perm round.observed)
    (bounded : sumIf keyDepth ObservedView.getIsDir items < 2 ^ 63) :
    (∀ full : FullStats, full.reconcile round.single = full.reconcile round.cluster) ∧
      ((FullStats.fold tables items).reconcile round.single = FullStats.fold tables items ∧
          (FullStats.fold tables items).reconcile round.cluster = FullStats.fold tables items ↔
        (∀ view ∈ items, getIsRegularFile view → AsciiCased tables view) ∧
          ∀ view ∈ items, view.getIsDir → PlainDirectory view) := by
  have single : ∀ full : FullStats, full.reconcile round.single = storeFigures full items := by
    intro full
    rw [round.reconcile_single, storeFigures, storeFigures, figures_perm _ _ observed]
  have cluster : ∀ full : FullStats, full.reconcile round.cluster = storeFigures full items := by
    intro full
    rw [round.reconcile_cluster, storeFigures, storeFigures, figures_perm _ _ observed]
  refine ⟨fun full => (single full).trans (cluster full).symm, ?_⟩
  rw [single, cluster, and_self]
  exact storeFigures_eq_iff documented bounded

/-- A directory, and a file in it at a size. -/
def plainDirectory : EntryFacts := .new ['d'] .directory none none

def plainFile (size : UInt64) : EntryFacts := .new ['d', '/', 'a', '.', 'T', 'X', 'T'] .file (some size) none

/-- The rows of an earlier round: the same file when it was smaller, and one that is gone. -/
def earlierRows : List NativeScanRecord :=
  [plainFile 3, .new ['b'] .file (some 1) none].map fun entry => .capture 0 entry.whole

/-- A second round, whose last call writes the file again; another job shares the table. -/
def secondRound : Round where
  generation := 1
  jobId := ['j']
  epoch := 2
  before := earlierRows
  clusterBefore := earlierRows.map (⟨['j'], 1, false, ·⟩) ++ earlierRows.map (⟨['k'], 9, false, ·⟩)
  calls := [[plainDirectory, plainFile 5], [plainFile 9]]
  unshown := by decide
  older := by decide

theorem final_statistics_agree_second_round :
    secondRound.written.length = 3 ∧ secondRound.observed.length = 2 ∧
      (FullStats.fold .asciiOnly secondRound.observed.reverse).reconcile secondRound.single =
        FullStats.fold .asciiOnly secondRound.observed.reverse ∧
      (FullStats.fold .asciiOnly secondRound.observed.reverse).reconcile secondRound.cluster =
        FullStats.fold .asciiOnly secondRound.observed.reverse := by
  have items : secondRound.observed.reverse = [(plainFile 9).whole, plainDirectory.whole] := by decide
  refine ⟨by decide, by decide, (final_statistics_agree .asciiOnly CaseTables.asciiOnly_documented secondRound
    secondRound.observed.reverse (List.reverse_perm _) (by decide)).2.mpr ?_⟩
  rw [items]
  have extension : getExtension (plainFile 9).whole = some ['T', 'X', 'T'] := by decide
  constructor
  · intro view member regular ext found
    simp only [List.mem_cons, List.not_mem_nil, or_false] at member
    rcases member with rfl | rfl
    · rw [extension] at found
      cases found
      decide
    · cases regular
  · intro view member directory
    simp only [List.mem_cons, List.not_mem_nil, or_false] at member
    rcases member with rfl | rfl
    · cases directory
    · exact ⟨rfl, by decide⟩

/-- A round over an empty table. -/
def Round.first (entries : List EntryFacts) : Round where
  generation := 0
  jobId := ['j']
  epoch := 1
  before := []
  clusterBefore := []
  calls := [entries]
  unshown := fun _ member => absurd member List.not_mem_nil
  older := fun _ member => absurd member List.not_mem_nil

/-- The directory `folder` with one object version. -/
def versionedDirectory : EntryFacts :=
  { EntryFacts.new ['f', 'o', 'l', 'd', 'e', 'r'] .directory none none with
    history := some [⟨some ['v', '1'], true, false, some 0, none, none⟩] }

/-- The live depth of a versioned directory is one, that of its key two. -/
theorem versioned_directory_depth :
    sumIf keyDepth ObservedView.getIsDir (Round.first [versionedDirectory]).observed < 2 ^ 63 ∧
      (FullStats.fold .asciiOnly (Round.first [versionedDirectory]).observed).reconcile
          (Round.first [versionedDirectory]).single ≠
        FullStats.fold .asciiOnly (Round.first [versionedDirectory]).observed := by
  refine ⟨by decide, fun same => ?_⟩
  rw [Round.reconcile_single] at same
  have depths := congrArg FullStats.totalDirDepth same
  revert depths
  decide

end Terrasync.Scan.FinalStatistics
