import Mathlib.Data.List.Nodup
import Terrasync.App.RemoteInventory

/-! Session indices of the directory pages. The counter saturates, so indices are
distinct exactly as long as only the last advertised item can reach `i32::MAX`. -/

set_option autoImplicit false

namespace Terrasync.App

open Transport

def NdxEvent.dirPage : NdxEvent → Option DirPageResult
  | .page result => some result
  | .error .. | .done => none

def pages (events : List NdxEvent) : List DirPageResult := events.filterMap NdxEvent.dirPage

/-- Everything advertised under an index, in the order of the pages. -/
def advertised (events : List NdxEvent) : List NdxEntry :=
  (pages events).flatMap fun page => page.files ++ page.subdirs

/-- The table either side builds from the pages. -/
def tableOf (events : List NdxEvent) : NdxTable :=
  (pages events).foldl NdxTable.ingestPage .new

/-- Every index names one advertised item, and the table returns that item. -/
structure Unambiguous (events : List NdxEvent) : Prop where
  distinct : ((advertised events).map NdxEntry.ndx).Nodup
  resolved : ∀ numbered ∈ advertised events, (tableOf events).get numbered.ndx = some numbered.entry

/-- Items an entry contributes to its page. -/
def itemCount (entry : ObservedEntry) : Nat :=
  match entry.history with
  | some records => records.length
  | none => 1

/-- Items of each listed directory, given those collected before. -/
def listedSizes (collected : Nat) : List (Except String TraversalItem) → List Nat
  | [] => []
  | .error _ :: _ => []
  | .ok (.entry entry) :: rest => listedSizes (collected + itemCount entry) rest
  | .ok (.directoryListed _) :: rest => collected :: listedSizes 0 rest
  | .ok (.failure ..) :: rest => listedSizes collected rest
  | .ok (.observationFailure ..) :: rest => listedSizes collected rest
  | .ok .other :: rest => listedSizes collected rest

/-- Positions of all items when pages of the given sizes are counted from `start`,
each followed by one gap. -/
def positions (start : Nat) : List Nat → List Nat
  | [] => []
  | size :: rest => List.range' start size ++ positions (start + size + 1) rest

/-- The counter at an unbounded position. -/
def saturate (position : Nat) : Ndx := min (position : Int) i32Max

theorem saturatingSucc_saturate (position : Nat) :
    saturatingSucc (saturate position) = saturate (position + 1) := by
  change min (min (position : Int) (2 ^ 31 - 1) + 1) (2 ^ 31 - 1) =
    min ((position + 1 : Nat) : Int) (2 ^ 31 - 1)
  omega

/-- Two increasing positions share an index iff the first has reached the limit. -/
theorem saturate_eq_iff {early late : Nat} (before : early < late) :
    saturate early = saturate late ↔ ¬(early : Int) < i32Max := by
  change min (early : Int) i32Max = min (late : Int) i32Max ↔ _
  omega

theorem indexed_saturate (position : Nat) (items : List ObservedItem) :
    ((Inventory.indexed (saturate position) items).1.map NdxEntry.ndx =
        (List.range' position items.length).map saturate) ∧
      (Inventory.indexed (saturate position) items).2 = saturate (position + items.length) := by
  induction items generalizing position with
  | nil => exact ⟨rfl, rfl⟩
  | cons item rest ih =>
      obtain ⟨numbers, last⟩ := ih (position + 1)
      rw [Inventory.indexed, saturatingSucc_saturate]
      constructor
      · rw [List.map_cons, numbers, List.length_cons, List.range'_succ, List.map_cons]
      · rw [last, List.length_cons]
        congr 1
        omega

theorem listed_saturate {inventory : Inventory} {position : Nat}
    (counted : inventory.next = saturate position) (path : RelativePath) :
    let size := inventory.files.length + inventory.subdirs.length
    ((inventory.listed path).2.files ++ (inventory.listed path).2.subdirs).map NdxEntry.ndx =
        (List.range' position size).map saturate ∧
      (inventory.listed path).1 = ⟨[], [], saturate (position + size + 1)⟩ := by
  have files := indexed_saturate position (Inventory.sortByName inventory.files)
  have subdirs := indexed_saturate (position + (Inventory.sortByName inventory.files).length)
    (Inventory.sortByName inventory.subdirs)
  have fileCount : (Inventory.sortByName inventory.files).length = inventory.files.length :=
    List.length_mergeSort _
  have subdirCount : (Inventory.sortByName inventory.subdirs).length = inventory.subdirs.length :=
    List.length_mergeSort _
  rw [← files.2] at subdirs
  simp only [Inventory.listed, counted, List.map_append, files.1, subdirs.1, subdirs.2,
    saturatingSucc_saturate, fileCount, subdirCount]
  constructor
  · rw [← List.map_append, List.range'_append_1]
  · rw [Nat.add_assoc position]

theorem collect_length (inventory : Inventory) (entry : ObservedEntry) :
    (inventory.collect entry).files.length + (inventory.collect entry).subdirs.length =
        inventory.files.length + inventory.subdirs.length + itemCount entry ∧
      (inventory.collect entry).next = inventory.next := by
  cases history : entry.history with
  | some records =>
      simp [Inventory.collect, history, itemCount, ObservedItem.all]
      omega
  | none =>
      by_cases directory : entry.getIsDir <;>
        simp [Inventory.collect, history, itemCount, directory] <;> omega

/-- The advertised indices are the saturated positions. -/
theorem events_indices {inventory : Inventory} {position : Nat}
    (counted : inventory.next = saturate position) (outcome : Except String Unit)
    (items : List (Except String TraversalItem)) :
    (advertised (inventory.events outcome items)).map NdxEntry.ndx =
      (positions position
        (listedSizes (inventory.files.length + inventory.subdirs.length) items)).map saturate := by
  induction items generalizing inventory position with
  | nil => cases outcome <;> rfl
  | cons head rest ih =>
      cases head with
      | error reason => rfl
      | ok item =>
          cases item with
          | entry entry =>
              obtain ⟨count, next⟩ := collect_length inventory entry
              have remaining := @ih (inventory.collect entry) position (next.trans counted)
              rw [count] at remaining
              exact remaining
          | directoryListed path =>
              obtain ⟨numbers, after⟩ := listed_saturate counted path
              have remaining := @ih (inventory.listed path).1 _ (congrArg Inventory.next after)
              rw [after] at remaining
              rw [listedSizes, positions, List.map_append, ← numbers]
              have split : advertised (inventory.events outcome (.ok (.directoryListed path) :: rest)) =
                  ((inventory.listed path).2.files ++ (inventory.listed path).2.subdirs) ++
                    advertised ((inventory.listed path).1.events outcome rest) := rfl
              rw [split, List.map_append, after, remaining]
              rfl
          | failure path reason => exact ih counted
          | observationFailure path reason => exact ih counted
          | other => exact ih counted

theorem positions_pairwise (start : Nat) (sizes : List Nat) :
    (positions start sizes).Pairwise (· < ·) ∧ ∀ position ∈ positions start sizes, start ≤ position := by
  induction sizes generalizing start with
  | nil => exact ⟨.nil, by simp [positions]⟩
  | cons size rest ih =>
      obtain ⟨increasing, bounded⟩ := ih (start + size + 1)
      constructor
      · refine List.pairwise_append.mpr ⟨List.pairwise_lt_range', increasing, ?_⟩
        intro early inPage late after
        have before := (List.mem_range'_1.mp inPage).2
        have beyond := bounded late after
        omega
      · intro position member
        rcases List.mem_append.mp member with inPage | after
        · exact (List.mem_range'_1.mp inPage).1
        · have beyond := bounded position after
          omega

theorem pairwise_iff_forall_dropLast {α : Type} (property : α → Prop) (values : List α) :
    values.Pairwise (fun value _ => property value) ↔ ∀ value ∈ values.dropLast, property value := by
  induction values with
  | nil => simp
  | cons head tail ih =>
      cases tail with
      | nil => simp
      | cons second rest =>
          rw [List.pairwise_cons, ih, List.dropLast_cons_cons]
          constructor
          · rintro ⟨all, later⟩
            exact List.forall_mem_cons.mpr ⟨all second (by simp), later⟩
          · intro below
            obtain ⟨first, later⟩ := List.forall_mem_cons.mp below
            exact ⟨fun _ _ => first, later⟩

/-- Saturated positions are distinct iff all but the last are below the limit. -/
theorem nodup_saturate_iff {values : List Nat} (increasing : values.Pairwise (· < ·)) :
    (values.map saturate).Nodup ↔ ∀ value ∈ values.dropLast, (value : Int) < i32Max := by
  rw [← pairwise_iff_forall_dropLast (fun value : Nat => (value : Int) < i32Max), List.Nodup,
    List.pairwise_map]
  constructor
  · intro distinct
    refine (distinct.and increasing).imp ?_
    rintro early late ⟨different, before⟩
    by_contra saturated
    exact different ((saturate_eq_iff before).mpr saturated)
  · intro below
    refine (below.and increasing).imp ?_
    rintro early late ⟨unsaturated, before⟩ same
    exact (saturate_eq_iff before).mp same unsaturated

theorem foldl_insert_get_of_not_mem {numbered : List NdxEntry} {table : NdxTable} {ndx : Ndx}
    (absent : ndx ∉ numbered.map NdxEntry.ndx) : (numbered.foldl NdxTable.insert table).get ndx = table.get ndx := by
  induction numbered generalizing table with
  | nil => rfl
  | cons head rest ih =>
      rw [List.map_cons, List.mem_cons, not_or] at absent
      rw [List.foldl_cons, ih absent.2, NdxTable.get_insert, if_neg absent.1]

/-- Insertions under distinct indices are all kept. -/
theorem foldl_insert_get {numbered : List NdxEntry} (distinct : (numbered.map NdxEntry.ndx).Nodup)
    (table : NdxTable) {entry : NdxEntry} (member : entry ∈ numbered) :
    (numbered.foldl NdxTable.insert table).get entry.ndx = some entry.entry := by
  induction numbered generalizing table with
  | nil => cases member
  | cons head rest ih =>
      rw [List.map_cons, List.nodup_cons] at distinct
      rw [List.foldl_cons]
      rcases List.mem_cons.mp member with rfl | later
      · rw [foldl_insert_get_of_not_mem distinct.1, NdxTable.get_insert, if_pos rfl]
      · exact ih distinct.2 _ later

theorem tableOf_eq (events : List NdxEvent) :
    tableOf events = (advertised events).foldl NdxTable.insert .new := by
  unfold tableOf advertised
  rw [List.foldl_flatMap]
  congr 1
  funext table page
  exact NdxTable.ingestPage_eq table page

theorem unambiguous_of_distinct {events : List NdxEvent}
    (distinct : ((advertised events).map NdxEntry.ndx).Nodup) : Unambiguous events := by
  refine ⟨distinct, fun numbered member => ?_⟩
  rw [tableOf_eq]
  exact foldl_insert_get distinct .new member

theorem directoryPages_indices (items : List (Except String TraversalItem))
    (outcome : Except String Unit) :
    (advertised (directoryPages items outcome)).map NdxEntry.ndx =
      (positions 0 (listedSizes 0 items)).map saturate := by
  have start : Inventory.start.next = saturate 0 := by decide
  exact events_indices start outcome items

/-- Indices identify items iff every advertised item but the last has fewer than
`i32::MAX` items and page gaps before it. -/
theorem directoryPages_unambiguous_iff (items : List (Except String TraversalItem))
    (outcome : Except String Unit) :
    Unambiguous (directoryPages items outcome) ↔
      ∀ position ∈ (positions 0 (listedSizes 0 items)).dropLast, (position : Int) < i32Max := by
  rw [← nodup_saturate_iff (positions_pairwise 0 _).1, ← directoryPages_indices items outcome]
  exact ⟨Unambiguous.distinct, unambiguous_of_distinct⟩

/-- A plain file named by its number. -/
def numberedFile (number : Nat) : ObservedEntry :=
  .new (Nat.toDigits 10 number) .file (some 0) none .nfs none

theorem itemCount_numberedFile (number : Nat) : itemCount (numberedFile number) = 1 := rfl

theorem listedSizes_numberedFiles (collected : Nat) (numbers : List Nat) :
    listedSizes collected
        (numbers.map (fun number => .ok (.entry (numberedFile number))) ++ [.ok (.directoryListed [])]) =
      [collected + numbers.length] := by
  induction numbers generalizing collected with
  | nil => rfl
  | cons number rest ih =>
      rw [List.map_cons, List.cons_append, listedSizes, ih, List.length_cons]
      rw [itemCount_numberedFile, Nat.add_assoc, Nat.add_comm 1]

/-- One directory of `2^31 + 1` files: the last two share the index `i32::MAX`. -/
theorem large_directory_ambiguous :
    ¬Unambiguous (directoryPages
      ((List.range (2 ^ 31 + 1)).map (fun number => .ok (.entry (numberedFile number))) ++
        [.ok (.directoryListed [])]) (.ok ())) := by
  intro unambiguous
  have distinct := unambiguous.distinct
  rw [directoryPages_indices, listedSizes_numberedFiles, List.length_range,
    nodup_saturate_iff (positions_pairwise 0 _).1] at distinct
  have member : 2 ^ 31 - 1 ∈ (positions 0 [0 + (2 ^ 31 + 1)]).dropLast := by
    rw [positions, positions, List.append_nil, Nat.zero_add, List.range'_1_concat, List.dropLast_concat]
    exact List.mem_range'_1.mpr (by omega)
  have below := distinct _ member
  unfold i32Max at below
  omega

end Terrasync.App
