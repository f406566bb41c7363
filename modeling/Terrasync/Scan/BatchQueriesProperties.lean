import Terrasync.Scan.BatchQueries

/-! What a batch comparison decides for each item. Every query that can be asked for an
item answers with the live base row of its key, so the decision depends on that row, on
the item and on whether handles are typed, and on nothing else of the batch. -/

set_option autoImplicit false

namespace Terrasync.Scan.BatchQueries

open Lib (surviving latest latest_append latest_filter latest_filter_surviving latest_map latest_surviving
  mem_surviving)
open SyncDelta (Bytes)

/-- The live base row of a key. -/
def Tables.liveRow (tables : Tables) (key : Key) : Option StoredRow :=
  (latest StoredRow.key tables.base key).filter StoredRow.live

/-- The query answers rows in some order. -/
structure Answers.Faithful (answers : Answers) (tables : Tables) : Prop where
  rows : ∀ ask query, (answers.rows ask query).Perm (tables.rows query)
  displaced : ∀ first last, (answers.displaced first last).Perm (tables.displaced first last)

section Rows

variable {tables : Tables} {answers : Answers}

theorem key_baseline (byHandle : Bool) (row : StoredRow) : (tables.baseline byHandle row).key = row.key :=
  rfl

theorem latest_rows_sparse (keys : List Key) (byHandle : Bool) (key : Key) :
    latest Baseline.key (tables.rows (.sparse keys byHandle)) key =
      if key ∈ keys then (tables.liveRow key).map (tables.baseline byHandle) else none := by
  rw [Tables.rows, latest_map]
  simp only [key_baseline]
  rw [latest_filter_surviving, @latest_filter _ _ _ StoredRow.key (fun key => decide (key ∈ keys))]
  by_cases asked : key ∈ keys
  · rw [if_pos asked, if_pos (decide_eq_true asked)]
    rfl
  · rw [if_neg asked, if_neg (by simpa using asked)]
    rfl

theorem latest_rows_range {first last : RelativePath} {key : Key} (above : first ≤ key.1)
    (below : key.1 ≤ last) (staged : tables.staged key = true) (byHandle : Bool) :
    latest Baseline.key (tables.rows (.range first last byHandle)) key =
      (tables.liveRow key).map (tables.baseline byHandle) := by
  rw [Tables.rows, latest_map]
  simp only [key_baseline]
  rw [latest_filter_surviving, Tables.liveRow]
  congr 1
  cases found : latest StoredRow.key tables.base key with
  | none => rfl
  | some row =>
      obtain rfl := Lib.key_of_latest found
      simp only [Option.filter_some, staged, Bool.and_true]
      have inside : first ≤ row.fields.relativePath ∧ row.fields.relativePath ≤ last := ⟨above, below⟩
      rw [decide_eq_true inside, Bool.and_true]

theorem unique_projected (byHandle : Bool) (keeps : StoredRow → Bool) {base : List StoredRow}
    {first second : Baseline}
    (here : first ∈ ((surviving StoredRow.key base).filter keeps).map (tables.baseline byHandle))
    (there : second ∈ ((surviving StoredRow.key base).filter keeps).map (tables.baseline byHandle))
    (same : first.key = second.key) : first = second := by
  obtain ⟨left, kept, rfl⟩ := List.mem_map.1 here
  obtain ⟨right, keptRight, rfl⟩ := List.mem_map.1 there
  have found := mem_surviving.1 (List.mem_filter.1 kept).1
  have foundRight := mem_surviving.1 (List.mem_filter.1 keptRight).1
  rw [← show left.key = right.key from same, found] at foundRight
  rw [Option.some.inj foundRight]

/-- No two answered rows have one key. -/
theorem unique_rows (query : Query) (first : Baseline) (here : first ∈ tables.rows query)
    (second : Baseline) (there : second ∈ tables.rows query) (same : first.key = second.key) :
    first = second := by
  cases query with
  | range => exact unique_projected _ _ here there same
  | sparse => exact unique_projected _ _ here there same

theorem Answers.Faithful.index (faithful : answers.Faithful tables) (ask : Ask) (query : Query) (key : Key) :
    baselineIndex (answers.rows ask query) key = latest Baseline.key (tables.rows query) key :=
  Lib.latest_of_perm (faithful.rows ask query) (unique_rows query)

end Rows

/-! ### Confirmation -/

section Confirmation

variable {encodedBytes : Key → Nat} {tables : Tables} {answers : Answers}

/-- Rows that answer for `asked` keys as the base does, and for no other. -/
def Covers (tables : Tables) (byHandle : Bool) (rows : List Baseline) (asked : List Key) : Prop :=
  ∀ key, baselineIndex rows key =
    if key ∈ asked then (tables.liveRow key).map (tables.baseline byHandle) else none

theorem Covers.append {byHandle : Bool} {rows later : List Baseline} {asked others : List Key}
    (first : Covers tables byHandle rows asked) (second : Covers tables byHandle later others) :
    Covers tables byHandle (rows ++ later) (asked ++ others) := by
  intro key
  have here := first key
  have there := second key
  unfold baselineIndex at here there ⊢
  rw [latest_append, here, there]
  by_cases known : key ∈ asked
  · by_cases again : key ∈ others
    · simp [known, again]
    · simp [known, again]
  · simp [known]

theorem Answers.Faithful.covers (faithful : answers.Faithful tables) (ask : Ask) (keys : List Key)
    (byHandle : Bool) : Covers tables byHandle (answers.rows ask (.sparse keys byHandle)) keys :=
  fun key => (faithful.index ask _ key).trans (latest_rows_sparse keys byHandle key)

/-- The keys that the range of a batch answers for. -/
def Ranged (tables : Tables) (first last : RelativePath) (key : Key) : Prop :=
  first ≤ key.1 ∧ key.1 ≤ last ∧ tables.staged key = true

theorem Answers.Faithful.range (faithful : answers.Faithful tables) (ask : Ask) {first last : RelativePath}
    {key : Key} (ranged : Ranged tables first last key) (byHandle : Bool) :
    baselineIndex (answers.rows ask (.range first last byHandle)) key =
      (tables.liveRow key).map (tables.baseline byHandle) :=
  (faithful.index ask _ key).trans (latest_rows_range ranged.1 ranged.2.1 ranged.2.2 byHandle)

theorem confirmGroups_index (faithful : answers.Faithful tables) (asks : Nat → Ask)
    {first last : RelativePath} (byHandle : Bool) (position : Nat) (keys : List Key) (rows : List Baseline)
    (asked : List Key) (covered : Covers tables byHandle rows asked)
    (ranged : ∀ key ∈ asked ++ keys, Ranged tables first last key) (key : Key)
    (member : key ∈ asked ++ keys) :
    baselineIndex (confirmGroups encodedBytes (fun position => answers.rows (asks position))
      (.range first last byHandle) byHandle position keys rows) key =
        (tables.liveRow key).map (tables.baseline byHandle) := by
  induction position, keys, rows using confirmGroups.induct encodedBytes
    (fun position => answers.rows (asks position)) byHandle generalizing asked with
  | case1 position rows =>
      rw [confirmGroups, covered key, if_pos (by simpa using member)]
  | case2 position rows head rest size positive ih =>
      rw [confirmGroups, if_pos positive]
      have regrouped : asked ++ (head :: rest).take size ++ (head :: rest).drop size =
          asked ++ head :: rest := by
        rw [List.append_assoc, List.take_append_drop]
      exact ih _ (covered.append (faithful.covers (asks position) _ byHandle))
        (by rw [regrouped]; exact ranged) (by rw [regrouped]; exact member)
  | case3 position rows head rest size stuck =>
      rw [confirmGroups, if_neg stuck]
      exact faithful.range _ (ranged key member) byHandle

/-- Whichever queries `confirm_paths` asks, a missing item finds the live row of its key. -/
theorem confirmPaths_index (faithful : answers.Faithful tables) (asks : Nat → Ask)
    {first last : RelativePath} (byHandle : Bool) {missing : List ObservedItem}
    (ranged : ∀ item ∈ missing, Ranged tables first last item.key) {item : ObservedItem}
    (member : item ∈ missing) :
    baselineIndex (confirmPaths encodedBytes (fun position => answers.rows (asks position)) missing
      first last byHandle) item.key = (tables.liveRow item.key).map (tables.baseline byHandle) := by
  unfold confirmPaths
  split
  · exact faithful.range _ (ranged item member) byHandle
  · have empty : Covers tables byHandle [] [] := fun _ => rfl
    have keysRanged : ∀ key ∈ missing.map ObservedItem.key, Ranged tables first last key := by
      intro key known
      obtain ⟨other, here, rfl⟩ := List.mem_map.1 known
      exact ranged other here
    exact confirmGroups_index faithful asks byHandle 0 _ [] [] empty keysRanged item.key
      (List.mem_map.2 ⟨item, member, rfl⟩)

end Confirmation

/-! ### One pass over the items -/

section Loop

variable (blake3Hex : Bytes → List Char) (byPath : Key → Option Baseline) (byHandle : Bool)

/-- The event that the first loop gives at once. -/
def directEvent (item : ObservedItem) : Option ObservedScanEvent :=
  match byPath item.key with
  | some old => if byHandle && old.identityChanged then none else old.event blake3Hex item
  | none => none

def toAbsent (item : ObservedItem) : Bool :=
  byHandle && hasCrossScanIdentity item.entry && (byPath item.key).all Baseline.identityChanged

def toPathOnly (item : ObservedItem) : Bool :=
  (byPath item.key).isNone && !(byHandle && hasCrossScanIdentity item.entry)

/-- One item goes to one of the three lists, or to none. -/
theorem item_lists (work : Work) (item : ObservedItem) :
    let next := work.item blake3Hex byPath byHandle item
    next.events = work.events ++ (directEvent blake3Hex byPath byHandle item).toList ∧
      next.absent = work.absent ++ (if toAbsent byPath byHandle item then [item] else []) ∧
      next.pathOnly = work.pathOnly ++ (if toPathOnly byPath byHandle item then [item] else []) := by
  unfold Work.item directEvent toAbsent toPathOnly
  cases found : byPath item.key with
  | none => cases byHandle <;> cases hasCrossScanIdentity item.entry <;> simp
  | some old =>
      cases changed : old.identityChanged <;> cases byHandle <;>
        cases hasCrossScanIdentity item.entry <;> simp [changed]

theorem foldl_item (items : List ObservedItem) (work : Work) :
    let final := items.foldl (Work.item blake3Hex byPath byHandle) work
    final.events = work.events ++ items.filterMap (directEvent blake3Hex byPath byHandle) ∧
      final.absent = work.absent ++ items.filter (toAbsent byPath byHandle) ∧
      final.pathOnly = work.pathOnly ++ items.filter (toPathOnly byPath byHandle) := by
  induction items generalizing work with
  | nil => simp
  | cons item rest ih =>
      obtain ⟨events, absent, pathOnly⟩ := ih (work.item blake3Hex byPath byHandle item)
      obtain ⟨eventsHere, absentHere, pathOnlyHere⟩ := item_lists blake3Hex byPath byHandle work item
      refine ⟨?_, ?_, ?_⟩
      · rw [List.foldl_cons, events, eventsHere, List.filterMap_cons]
        cases directEvent blake3Hex byPath byHandle item <;> simp
      · rw [List.foldl_cons, absent, absentHere, List.filter_cons]
        cases toAbsent byPath byHandle item <;> simp
      · rw [List.foldl_cons, pathOnly, pathOnlyHere, List.filter_cons]
        cases toPathOnly byPath byHandle item <;> simp

end Loop

/-- Three lists of answers, when each item is answered in one of them, hold its answer each. -/
theorem filterMap_routes_perm {Item Event : Type} {items : List Item}
    {first second third whole : Item → Option Event}
    (routed : ∀ item ∈ items,
      first item = whole item ∧ second item = none ∧ third item = none ∨
      first item = none ∧ second item = whole item ∧ third item = none ∨
      first item = none ∧ second item = none ∧ third item = whole item) :
    (items.filterMap first ++ items.filterMap second ++ items.filterMap third).Perm
      (items.filterMap whole) := by
  induction items with
  | nil => exact .refl _
  | cons item rest ih =>
      have remaining := ih fun other member => routed other (List.mem_cons_of_mem _ member)
      have here := routed item List.mem_cons_self
      simp only [List.filterMap_cons]
      cases answer : whole item with
      | none =>
          rw [answer] at here
          obtain ⟨silent, silentSecond, silentThird⟩ :
              first item = none ∧ second item = none ∧ third item = none := by
            rcases here with here | here | here <;> exact here
          simpa only [silent, silentSecond, silentThird] using remaining
      | some event =>
          rw [answer] at here
          rcases here with ⟨now, silent, silentToo⟩ | ⟨silent, now, silentToo⟩ |
            ⟨silent, silentToo, now⟩ <;>
            simp only [now, silent, silentToo, List.cons_append]
          · exact remaining.cons event
          · rw [List.append_assoc, List.cons_append] at *
            exact List.perm_middle.trans (by simpa only [List.append_assoc] using remaining.cons event)
          · exact List.perm_middle.trans (remaining.cons event)

/-! ### The decision -/

/-- The handles of a stored row and an item show two identities: both are typed, and differ. -/
def differs (old : StoredRow) (item : ObservedItem) : Bool :=
  old.typed && hasCrossScanIdentity item.entry && decide (old.fileHandle ≠ encodedFileHandle item.entry)

/-- What a comparison makes of an item, given the live row of its key. -/
def decision (blake3Hex : Bytes → List Char) (typedHandles : Bool) (row : Option StoredRow)
    (item : ObservedItem) : Option ObservedScanEvent :=
  match row with
  | some old =>
      if typedHandles && differs old item then some (.candidate item)
      else (ChangeDetection.Baseline.change blake3Hex old.fields item.view).map (.changed item)
  | none => if typedHandles && hasCrossScanIdentity item.entry then some (.candidate item) else some (.new item)

section Staged

variable {tables : Tables} {items : List ObservedItem}
  (stagedItems : tables.stage = items.map NativeScanKey.capture)
  (distinct : (items.map ObservedItem.key).Nodup)

include stagedItems distinct

/-- Of the staged rows only the item's own has its key. -/
theorem any_staged {item : ObservedItem} (member : item ∈ items) (holds : Option (List Char) → Bool) :
    (tables.stage.any fun staged => decide (staged.key = item.key) && holds staged.fileHandle) =
      holds (encodedFileHandle item.entry) := by
  rw [Bool.eq_iff_iff, List.any_eq_true, stagedItems]
  constructor
  · rintro ⟨_, known, found⟩
    obtain ⟨other, otherMember, rfl⟩ := List.mem_map.1 known
    rw [Bool.and_eq_true, decide_eq_true_eq] at found
    rw [← List.inj_on_of_nodup_map distinct otherMember member found.1]
    exact found.2
  · intro answer
    refine ⟨_, List.mem_map.2 ⟨item, member, rfl⟩, ?_⟩
    rw [Bool.and_eq_true, decide_eq_true_eq]
    exact ⟨rfl, answer⟩

theorem identityChanged_eq {item : ObservedItem} (member : item ∈ items) {old : StoredRow}
    (here : old.key = item.key) (byHandle : Bool) :
    identityChanged tables.stage byHandle old = (byHandle && differs old item) := by
  have handled := any_staged stagedItems distinct member Option.isSome
  have matched := any_staged stagedItems distinct member
    fun handle => decide (handle = old.fileHandle) && handle.isSome
  unfold identityChanged differs
  simp only [Bool.decide_and, Bool.and_assoc, here]
  rw [handled, matched]
  cases identified : hasCrossScanIdentity item.entry with
  | false => simp [encodedFileHandle, identified]
  | true =>
      have typed : (encodedFileHandle item.entry).isSome = true := by simp [encodedFileHandle, identified]
      rw [typed, Bool.and_true, Bool.true_and, Bool.true_and]
      by_cases same : old.fileHandle = encodedFileHandle item.entry
      · simp [same]
      · simp [same, Ne.symm same]

end Staged

/-! ### The whole comparison -/

section Compare

variable {blake3Hex : Bytes → List Char} {encodedBytes : Key → Nat} {tables : Tables} {answers : Answers}
  {typedHandles byHandle : Bool} {items : List ObservedItem}

theorem head_le_of_sorted {paths : List RelativePath} (sorted : paths.Pairwise (· ≤ ·))
    {first : RelativePath} (head : paths.head? = some first) {path : RelativePath}
    (member : path ∈ paths) : first ≤ path := by
  obtain ⟨rest, rfl⟩ := List.head?_eq_some_iff.1 head
  rcases List.mem_cons.1 member with rfl | later
  · exact le_refl _
  · exact (List.pairwise_cons.1 sorted).1 path later

theorem le_getLast_of_sorted {paths : List RelativePath} (sorted : paths.Pairwise (· ≤ ·))
    {last : RelativePath} (final : paths.getLast? = some last) {path : RelativePath}
    (member : path ∈ paths) : path ≤ last := by
  obtain ⟨earlier, rfl⟩ := List.getLast?_eq_some_iff.1 final
  rcases List.mem_append.1 member with before | here
  · exact (List.pairwise_append.1 sorted).2.2 path before last (List.mem_singleton_self _)
  · exact le_of_eq (List.mem_singleton.1 here)

/-- Every item lies in the range of its batch. -/
theorem ranged_item (stagedItems : tables.stage = items.map NativeScanKey.capture)
    {first last : RelativePath}
    (head : ((items.map fun item => item.view.pathKey).insertionSort (· ≤ ·)).head? = some first)
    (final : ((items.map fun item => item.view.pathKey).insertionSort (· ≤ ·)).getLast? = some last)
    {item : ObservedItem} (member : item ∈ items) : Ranged tables first last item.key := by
  have sorted := List.pairwise_insertionSort (· ≤ · : RelativePath → RelativePath → Prop)
    (items.map fun item => item.view.pathKey)
  have listed : item.view.pathKey ∈ (items.map fun item => item.view.pathKey).insertionSort (· ≤ ·) :=
    (List.mem_insertionSort _).2 (List.mem_map.2 ⟨item, member, rfl⟩)
  refine ⟨head_le_of_sorted sorted head listed, le_getLast_of_sorted sorted final listed, ?_⟩
  unfold Tables.staged
  rw [stagedItems]
  exact List.any_eq_true.2 ⟨_, List.mem_map.2 ⟨item, member, rfl⟩, decide_eq_true rfl⟩

theorem key_liveRow {key : Key} {old : StoredRow} (live : tables.liveRow key = some old) : old.key = key :=
  Lib.key_of_latest (Option.filter_eq_some_iff.1 live).1

/-- An index that finds the live row of each item, as one of the queries reports it. -/
def Finds (tables : Tables) (items : List ObservedItem) (byHandle : Bool)
    (index : Key → Option Baseline) : Prop :=
  ∀ item ∈ items, index item.key = (tables.liveRow item.key).map (tables.baseline byHandle)

/-- Each item gets its decision from the one list it is sent to. -/
theorem events_perm (stagedItems : tables.stage = items.map NativeScanKey.capture)
    (distinct : (items.map ObservedItem.key).Nodup)
    (handles : ∀ item ∈ items, hasCrossScanIdentity item.entry = true → byHandle = typedHandles)
    {byPath checked rechecked : Key → Option Baseline} (found : Finds tables items byHandle byPath)
    (foundPaths : Finds tables (items.filter (toPathOnly byPath byHandle)) false checked)
    (foundAbsent : Finds tables (items.filter (toAbsent byPath byHandle)) true rechecked) :
    (items.filterMap (directEvent blake3Hex byPath byHandle) ++
      (items.filter (toPathOnly byPath byHandle)).filterMap (pathEvent blake3Hex checked) ++
      (items.filter (toAbsent byPath byHandle)).filterMap (absentEvent blake3Hex rechecked)).Perm
    (items.filterMap fun item => decision blake3Hex typedHandles (tables.liveRow item.key) item) := by
  rw [List.filterMap_filter, List.filterMap_filter]
  refine filterMap_routes_perm fun item member => ?_
  have here := found item member
  have onPath (sent : toPathOnly byPath byHandle item = true) :=
    foundPaths item (List.mem_filter.2 ⟨member, sent⟩)
  have onAbsent (sent : toAbsent byPath byHandle item = true) :=
    foundAbsent item (List.mem_filter.2 ⟨member, sent⟩)
  cases live : tables.liveRow item.key with
  | none =>
      rw [live, Option.map_none] at here
      cases looked : byHandle && hasCrossScanIdentity item.entry with
      | true =>
          have identified : hasCrossScanIdentity item.entry = true := (Bool.and_eq_true_iff.1 looked).2
          have sent : toAbsent byPath byHandle item = true := by simp [toAbsent, looked, here]
          refine .inr (.inr ⟨by simp [directEvent, here], by simp [toPathOnly, looked], ?_⟩)
          rw [if_pos sent, absentEvent, onAbsent sent, live, decision, ← handles item member identified,
            if_pos looked]
          rfl
      | false =>
          have sent : toPathOnly byPath byHandle item = true := by simp [toPathOnly, looked, here]
          have unlooked : (typedHandles && hasCrossScanIdentity item.entry) = false := by
            cases identified : hasCrossScanIdentity item.entry with
            | false => exact Bool.and_false _
            | true => rw [← handles item member identified, ← looked, identified]
          refine .inr (.inl ⟨by simp [directEvent, here], ?_, by simp [toAbsent, looked]⟩)
          rw [if_pos sent, pathEvent, onPath sent, live, decision, if_neg (by simp [unlooked])]
          rfl
  | some old =>
      have changed := identityChanged_eq stagedItems distinct member (key_liveRow live)
      rw [live, Option.map_some] at here
      have shown : (tables.baseline byHandle old).identityChanged = (byHandle && differs old item) :=
        changed byHandle
      have sameHandles (differing : differs old item = true) : byHandle = typedHandles :=
        handles item member (Bool.and_eq_true_iff.1 (Bool.and_eq_true_iff.1 differing).1).2
      cases looked : byHandle && differs old item with
      | true =>
          obtain ⟨byHandles, differing⟩ := Bool.and_eq_true_iff.1 looked
          have identified : hasCrossScanIdentity item.entry = true :=
            (Bool.and_eq_true_iff.1 (Bool.and_eq_true_iff.1 differing).1).2
          have again : (tables.baseline true old).identityChanged = true := by
            rw [show (tables.baseline true old).identityChanged = _ from changed true, differing]
            rfl
          have sent : toAbsent byPath byHandle item = true := by
            simp [toAbsent, here, byHandles, identified, again]
          refine .inr (.inr ⟨by simp [directEvent, here, byHandles, again], by simp [toPathOnly, here], ?_⟩)
          rw [if_pos sent, absentEvent, onAbsent sent, live, decision, ← sameHandles differing, if_pos looked]
          simp only [Option.map_some, again, if_true]
      | false =>
          have unlooked : (typedHandles && differs old item) = false := by
            cases differing : differs old item with
            | false => exact Bool.and_false _
            | true => rw [← sameHandles differing, ← looked, differing]
          refine .inl ⟨?_, by simp [toPathOnly, here], by simp [toAbsent, here, shown, looked]⟩
          rw [directEvent, here, decision, if_neg (by simp [unlooked])]
          simp only [shown, looked, Bool.and_false, Bool.false_eq_true, if_false]
          rfl

end Compare

section Exact

variable (blake3Hex : Bytes → List Char) (encodedBytes : Key → Nat)

/-- A batch as the stores compare it: its keys are staged, they are distinct, and there is
an item to compare unless there is no entry. -/
structure Compared (tables : Tables) (entries : List ObservedEntry) : Prop where
  staged : tables.stage = (entries.flatMap ObservedItem.all).map NativeScanKey.capture
  distinct : ((entries.flatMap ObservedItem.all).map ObservedItem.key).Nodup
  itemized : entries ≠ [] → entries.flatMap ObservedItem.all ≠ []

/-- The events of a batch are the decisions of its items. -/
theorem compare_decides (typedHandles : Bool) (tables : Tables) (answers : Answers)
    (entries : List ObservedEntry) (compared : Compared tables entries)
    (faithful : answers.Faithful tables) :
    ∃ batch, compare blake3Hex encodedBytes typedHandles answers entries = some batch ∧
      batch.events.Perm ((entries.flatMap ObservedItem.all).filterMap fun item =>
        decision blake3Hex typedHandles (tables.liveRow item.key) item) := by
  by_cases empty : entries = []
  · subst empty
    exact ⟨⟨[], []⟩, rfl, .refl _⟩
  obtain ⟨staged, distinct, itemized⟩ := compared
  have nonempty := itemized empty
  generalize everything : entries.flatMap ObservedItem.all = items at staged distinct nonempty ⊢
  generalize byHandles : (typedHandles && entries.any fun entry =>
    (ObservedItem.all entry).any fun item => hasCrossScanIdentity item.entry) = byHandle
  have handles : ∀ item ∈ items, hasCrossScanIdentity item.entry = true → byHandle = typedHandles := by
    intro item member identified
    rw [← everything] at member
    obtain ⟨owner, known, inside⟩ := List.mem_flatMap.1 member
    rw [← byHandles, List.any_eq_true.2 ⟨owner, known, List.any_eq_true.2 ⟨item, inside, identified⟩⟩,
      Bool.and_true]
  have listed : (items.map fun item => item.view.pathKey).insertionSort (· ≤ ·) ≠ [] := by
    intro nothing
    have measured := congrArg List.length nothing
    rw [List.length_insertionSort, List.length_map, List.length_nil] at measured
    exact nonempty (List.eq_nil_of_length_eq_zero measured)
  have head := List.head?_eq_some_head listed
  have final := List.getLast?_eq_some_getLast listed
  generalize List.head _ listed = first at head
  generalize List.getLast _ listed = last at final
  have ranged : ∀ item ∈ items, Ranged tables first last item.key := fun item member =>
    ranged_item staged head final member
  unfold compare
  rw [if_neg empty]
  simp only [everything, byHandles, head, final]
  refine ⟨_, rfl, ?_⟩
  obtain ⟨events, absent, pathOnly⟩ := foldl_item blake3Hex
    (baselineIndex (answers.rows .batch (.range first last byHandle))) byHandle items ⟨[], [], [], false⟩
  simp only [events, absent, pathOnly, List.nil_append]
  refine events_perm staged distinct handles (fun item member => ?_) (fun item member => ?_)
    (fun item member => ?_)
  · exact faithful.range .batch (ranged item member) byHandle
  · exact confirmPaths_index faithful Ask.paths false
      (fun other inside => ranged other (List.mem_filter.1 inside).1) member
  · exact confirmPaths_index faithful Ask.identities true
      (fun other inside => ranged other (List.mem_filter.1 inside).1) member

def ObservedScanEvent.item : ObservedScanEvent → ObservedItem
  | .changed item _ => item
  | .new item => item
  | .candidate item => item

theorem item_of_decision {blake3Hex : Bytes → List Char} {typedHandles : Bool} {row : Option StoredRow}
    {item : ObservedItem} {event : ObservedScanEvent}
    (decided : decision blake3Hex typedHandles row item = some event) : event.item = item := by
  unfold decision at decided
  split at decided
  · split at decided
    · cases decided
      rfl
    · obtain ⟨kind, -, rfl⟩ := Option.map_eq_some_iff.1 decided
      rfl
  · split at decided <;> cases decided <;> rfl

/-- The events that concern an item are its decision alone. -/
theorem filter_decisions {blake3Hex : Bytes → List Char} {typedHandles : Bool} {tables : Tables}
    {items : List ObservedItem} (distinct : items.Nodup) {item : ObservedItem} (member : item ∈ items) :
    (items.filterMap fun other => decision blake3Hex typedHandles (tables.liveRow other.key) other).filter
      (fun event => event.item = item) =
        (decision blake3Hex typedHandles (tables.liveRow item.key) item).toList := by
  have own : (fun other => (decision blake3Hex typedHandles (tables.liveRow other.key) other).filter
      fun event => event.item = item) = fun other =>
        if decide (other = item) then decision blake3Hex typedHandles (tables.liveRow other.key) other
        else none := by
    funext other
    cases decided : decision blake3Hex typedHandles (tables.liveRow other.key) other with
    | none => simp
    | some event =>
        rw [Option.filter_some, item_of_decision decided]
  rw [List.filter_filterMap, own, ← List.filterMap_filter]
  have single : items.filter (fun other => decide (other = item)) = [item] := by
    rw [List.filter_eq, List.count_eq_one_of_mem distinct member]
    rfl
  rw [single, List.filterMap_cons, List.filterMap_nil]
  cases decision blake3Hex typedHandles (tables.liveRow item.key) item <;> rfl

/-- Each item of a batch with distinct keys is classified once: by the change of the live
row of its key, unless handles are typed and the two show different identities; without
such a row as a candidate if handles are typed and it has an identity, else as new. -/
theorem batch_comparison_exact (typedHandles : Bool) (tables : Tables) (answers : Answers)
    (entries : List ObservedEntry) (compared : Compared tables entries)
    (faithful : answers.Faithful tables) :
    ∃ batch, compare blake3Hex encodedBytes typedHandles answers entries = some batch ∧
      (∀ event ∈ batch.events, event.item ∈ entries.flatMap ObservedItem.all) ∧
      ∀ item ∈ entries.flatMap ObservedItem.all,
        batch.events.filter (fun event => event.item = item) =
          (decision blake3Hex typedHandles (tables.liveRow item.key) item).toList := by
  obtain ⟨batch, returned, perm⟩ :=
    compare_decides blake3Hex encodedBytes typedHandles tables answers entries compared faithful
  refine ⟨batch, returned, fun event member => ?_, fun item member => ?_⟩
  · obtain ⟨item, known, decided⟩ := List.mem_filterMap.1 (perm.mem_iff.1 member)
    rw [item_of_decision decided]
    exact known
  · have same := perm.filter fun event => decide (event.item = item)
    rw [filter_decisions (List.Nodup.of_map _ compared.distinct) member] at same
    cases decided : decision blake3Hex typedHandles (tables.liveRow item.key) item with
    | none =>
        rw [decided] at same
        exact same.eq_nil
    | some event =>
        rw [decided] at same
        exact same.eq_singleton

section OtherHandles

/-- The decision if a typed row always had to show the handle of the item. -/
def strictDecision (typedHandles : Bool) (row : Option StoredRow) (item : ObservedItem) :
    Option ObservedScanEvent :=
  let unmatched := if typedHandles && hasCrossScanIdentity item.entry then some (.candidate item)
    else some (.new item)
  match row with
  | some old =>
      if !old.typed || decide (old.fileHandle = encodedFileHandle item.entry) then
        (ChangeDetection.Baseline.change blake3Hex old.fields item.view).map (.changed item)
      else unmatched
  | none => unmatched

/-- A file on a backend, with or without a stable identity. -/
def fileOn (backendKind : BackendKind) (stableBytes : Option Bytes) : ObservedEntry where
  observed := .new ['f'] .file (some 1) none
  backendKind
  stableBytes
  identityKey := [2]

/-- The row of the same file with a typed handle. -/
def handledRow : StoredRow where
  fields := ⟨['f'], [], 1, 0, none, none, none, false, none⟩
  fileHandle := some (persistedIdentityPrefix ++ ['0', '1'])
  live := true
  active := false

def handledTables (entry : ObservedEntry) : Tables :=
  ⟨[handledRow], (ObservedItem.all entry).map .capture⟩

/-- The comparison of one file with its handled row, answered in the order of the base. -/
def comparedFile (typedHandles : Bool) (entry : ObservedEntry) : Option ComparedBatch :=
  compare (fun _ => []) (fun _ => 0) typedHandles
    ⟨fun _ => (handledTables entry).rows, (handledTables entry).displaced⟩ [entry]

/-- Neither a typed handle against an item without identity nor, where handles are not
typed, one against another identity makes an item new. -/
theorem typed_row_of_other_handle_not_new :
    (¬∃ batch, comparedFile true (fileOn .local none) = some batch ∧
      ∀ item ∈ ObservedItem.all (fileOn .local none),
        batch.events.filter (fun event => event.item = item) =
          (strictDecision (fun _ => []) true ((handledTables (fileOn .local none)).liveRow item.key)
            item).toList) ∧
    ¬∃ batch, comparedFile false (fileOn .nfs (some [1])) = some batch ∧
      ∀ item ∈ ObservedItem.all (fileOn .nfs (some [1])),
        batch.events.filter (fun event => event.item = item) =
          (strictDecision (fun _ => []) false ((handledTables (fileOn .nfs (some [1]))).liveRow item.key)
            item).toList := by
  refine ⟨?_, ?_⟩
  · rintro ⟨batch, returned, classified⟩
    have silent : comparedFile true (fileOn .local none) = some ⟨[], []⟩ := by decide
    obtain rfl := Option.some.inj (silent.symm.trans returned)
    exact absurd (classified ⟨fileOn .local none, none⟩ (by decide)) (by decide)
  · rintro ⟨batch, returned, classified⟩
    have silent : comparedFile false (fileOn .nfs (some [1])) = some ⟨[], []⟩ := by decide
    obtain rfl := Option.some.inj (silent.symm.trans returned)
    exact absurd (classified ⟨fileOn .nfs (some [1]), none⟩ (by decide)) (by decide)

/-- A file that replaced the one of the handled row, one that has grown since its row was written, and
one without a row or an identity. -/
def replacedFile : ObservedItem := ⟨fileOn .nfs (some [1]), none⟩

def grownFile : ObservedItem := ⟨{ fileOn .nfs (some [1]) with observed := .new ['g'] .file (some 2) none }, none⟩

def newFile : ObservedItem := ⟨{ fileOn .nfs none with observed := .new ['h'] .file (some 1) none }, none⟩

def grownRow : StoredRow where
  fields := ⟨['g'], [], 1, 0, none, none, none, false, none⟩
  fileHandle := some (persistedIdentityPrefix ++ ['0', '2'])
  live := true
  active := false

/-- The rows come in the order opposite to that of the batch. -/
def mixedTables : Tables :=
  ⟨[grownRow, handledRow], [replacedFile, grownFile, newFile].map .capture⟩

theorem batch_comparison_exact_mixed_batch :
    ∃ batch, compare (fun _ => []) (fun _ => 0) true ⟨fun _ => mixedTables.rows, mixedTables.displaced⟩
        [replacedFile.entry, grownFile.entry, newFile.entry] = some batch ∧
      batch.events.filter (fun event => event.item = replacedFile) = [.candidate replacedFile] ∧
      batch.events.filter (fun event => event.item = grownFile) = [.changed grownFile .dataOnly] ∧
      batch.events.filter (fun event => event.item = newFile) = [.new newFile] := by
  obtain ⟨batch, returned, -, classified⟩ := batch_comparison_exact (fun _ => []) (fun _ => 0) true
    mixedTables ⟨fun _ => mixedTables.rows, mixedTables.displaced⟩
    [replacedFile.entry, grownFile.entry, newFile.entry]
    ⟨rfl, by decide, by decide⟩ ⟨fun _ _ => .refl _, fun _ _ => .refl _⟩
  exact ⟨batch, returned, (classified replacedFile (by decide)).trans (by decide),
    (classified grownFile (by decide)).trans (by decide), (classified newFile (by decide)).trans (by decide)⟩

end OtherHandles

end Exact

end Terrasync.Scan.BatchQueries
