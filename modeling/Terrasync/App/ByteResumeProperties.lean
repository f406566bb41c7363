import Terrasync.App.ByteResume
import Terrasync.Lib.Intervals
import Mathlib.Tactic.Common

/-! The stored ranges are the canonical list of the offsets that were inserted, and what is
missing is the canonical list of the others. -/

set_option autoImplicit false

namespace Terrasync.App

open Lib.Intervals

namespace IntervalSet

section Merge

variable {start stop x : Nat} {ranges : List ByteRange}

/-- Once the merged range is written, later ranges are kept. -/
theorem merge_placed (canonical : Canonical ranges) (beyond : ∀ range ∈ ranges, stop < range.1)
    (proper : start < stop) : merge start stop true ranges = ranges := by
  induction ranges with
  | nil => rfl
  | cons range rest ih =>
      obtain ⟨first, last⟩ := range
      have after : stop < first := beyond _ List.mem_cons_self
      have wide := (canonical_cons.1 canonical).1
      have later := ih canonical.tail fun range member => beyond range (List.mem_cons_of_mem _ member)
      rw [merge, if_neg (by omega), if_pos after, if_pos rfl, later]

/-- The new offsets join the covered ones. -/
theorem covered_merge (canonical : Canonical ranges) (proper : start < stop) :
    Covered (merge start stop false ranges) x ↔ (start ≤ x ∧ x < stop) ∨ Covered ranges x := by
  induction ranges generalizing start stop with
  | nil => simp [merge]
  | cons range rest ih =>
      obtain ⟨first, last⟩ := range
      obtain ⟨wide, after, later⟩ := canonical_cons.1 canonical
      rw [merge]
      split
      · rw [covered_cons, covered_cons, ih later proper]
        exact or_left_comm
      · split
        · next right =>
            have kept := merge_placed later (fun range member => lt_trans (lt_trans right wide) (after range member)) proper
            rw [if_neg Bool.false_ne_true, kept, covered_cons]
        · next left right =>
            rw [ih later (by omega), covered_cons, ← or_assoc]
            refine or_congr_left ?_
            omega

/-- The pass keeps the list canonical, and starts no range before the new and the old ones. -/
theorem canonical_merge (canonical : Canonical ranges) (proper : start < stop) :
    Canonical (merge start stop false ranges) ∧
      ∀ bound, bound < start → (∀ range ∈ ranges, bound < range.1) →
        ∀ range ∈ merge start stop false ranges, bound < range.1 := by
  induction ranges generalizing start stop with
  | nil =>
      refine ⟨canonical_cons.2 ⟨proper, List.forall_mem_nil _, canonical_nil⟩, fun bound below _ range member => ?_⟩
      obtain rfl := List.mem_singleton.1 member
      exact below
  | cons range rest ih =>
      obtain ⟨first, last⟩ := range
      obtain ⟨wide, after, later⟩ := canonical_cons.1 canonical
      rw [merge]
      split
      · next left =>
          obtain ⟨merged, bounded⟩ := ih later proper
          refine ⟨canonical_cons.2 ⟨wide, bounded last left after, merged⟩, fun bound below each => ?_⟩
          obtain ⟨head, tail⟩ := List.forall_mem_cons.1 each
          exact List.forall_mem_cons.2 ⟨head, bounded bound below tail⟩
      · split
        · next right =>
            have kept := merge_placed later (fun range member => lt_trans (lt_trans right wide) (after range member)) proper
            rw [if_neg Bool.false_ne_true, kept]
            refine ⟨canonical_cons.2 ⟨proper, ?_, canonical⟩, fun bound below each => ?_⟩
            · exact List.forall_mem_cons.2 ⟨right, fun range member => lt_trans (lt_trans right wide) (after range member)⟩
            · exact List.forall_mem_cons.2 ⟨below, each⟩
        · obtain ⟨merged, bounded⟩ := @ih (min start first) (max stop last) later (by omega)
          refine ⟨merged, fun bound below each => ?_⟩
          obtain ⟨head, tail⟩ := List.forall_mem_cons.1 each
          exact bounded bound (lt_min below head) tail

end Merge

theorem canonical_insert {set : IntervalSet} (canonical : Canonical set.intervals) (start stop : Nat) :
    Canonical (set.insert start stop).intervals := by
  rw [insert]
  split
  · exact canonical
  · exact (canonical_merge canonical (by omega)).1

theorem covered_insert {set : IntervalSet} (canonical : Canonical set.intervals) (start stop x : Nat) :
    Covered (set.insert start stop).intervals x ↔ (start ≤ x ∧ x < stop) ∨ Covered set.intervals x := by
  rw [insert]
  split
  · next empty =>
      refine ⟨Or.inr, fun covered => covered.resolve_left ?_⟩
      omega
  · exact covered_merge canonical (by omega)

theorem canonical_insertAll (calls : List ByteRange) {set : IntervalSet} (canonical : Canonical set.intervals) :
    Canonical (set.insertAll calls).intervals := by
  induction calls generalizing set with
  | nil => exact canonical
  | cons call rest ih => exact ih (canonical_insert canonical call.1 call.2)

theorem covered_insertAll (calls : List ByteRange) {set : IntervalSet} (canonical : Canonical set.intervals) (x : Nat) :
    Covered (set.insertAll calls).intervals x ↔ Covered calls x ∨ Covered set.intervals x := by
  induction calls generalizing set with
  | nil => simp [insertAll]
  | cons call rest ih =>
      have stepped : set.insertAll (call :: rest) = (set.insert call.1 call.2).insertAll rest := rfl
      rw [stepped, ih (canonical_insert canonical call.1 call.2), covered_insert canonical, covered_cons, or_assoc]
      exact or_left_comm

section Missing

variable {total current x : Nat} {ranges : List ByteRange}

/-- From an offset on, the gaps are the offsets below the total that no range covers. -/
theorem covered_gaps (canonical : Canonical ranges) :
    Covered (gaps total current ranges) x ↔ current ≤ x ∧ x < total ∧ ¬Covered ranges x := by
  induction ranges generalizing current with
  | nil =>
      rw [gaps]
      split
      · simp
      · simp only [not_covered_nil, false_iff, not_false_eq_true, and_true]
        omega
  | cons range rest ih =>
      obtain ⟨start, stop⟩ := range
      obtain ⟨wide, after, later⟩ := canonical_cons.1 canonical
      have beyond : Covered rest x → stop < x := canonical.lt_of_covered
      rw [gaps, covered_cons]
      split
      · simp only [not_covered_nil, false_iff]
        omega
      · split
        · next open_ =>
            rw [covered_cons, ih later]
            by_cases covered : Covered rest x
            · have past := beyond covered
              simp only [covered, not_true_eq_false, and_false, or_false, or_true, iff_false]
              omega
            · simp only [covered, not_false_eq_true, and_true, or_false]
              omega
        · rw [ih later]
          by_cases covered : Covered rest x
          · simp [covered]
          · simp only [covered, not_false_eq_true, and_true, or_false]
            omega

theorem gaps_above (ranges : List ByteRange) : ∀ range ∈ gaps total current ranges, current ≤ range.1 := by
  induction ranges generalizing current with
  | nil =>
      rw [gaps]
      split
      · simp
      · exact List.forall_mem_nil _
  | cons range rest ih =>
      obtain ⟨start, stop⟩ := range
      have later : ∀ range ∈ gaps total (max current stop) rest, current ≤ range.1 :=
        fun range member => le_trans (le_max_left _ _) (ih range member)
      rw [gaps]
      split
      · exact List.forall_mem_nil _
      · split
        · exact List.forall_mem_cons.2 ⟨le_refl _, later⟩
        · exact later

theorem canonical_gaps (canonical : Canonical ranges) : Canonical (gaps total current ranges) := by
  induction ranges generalizing current with
  | nil =>
      rw [gaps]
      split
      · next short => exact canonical_cons.2 ⟨short, List.forall_mem_nil _, canonical_nil⟩
      · exact canonical_nil
  | cons range rest ih =>
      obtain ⟨start, stop⟩ := range
      obtain ⟨wide, -, later⟩ := canonical_cons.1 canonical
      rw [gaps]
      split
      · exact canonical_nil
      · split
        · next open_ =>
            refine canonical_cons.2 ⟨open_.2, fun range member => ?_, ih later⟩
            have above := gaps_above rest range member
            omega
        · exact ih later

end Missing

theorem canonical_fromVec (calls : List ByteRange) : Canonical (fromVec calls).intervals :=
  canonical_insertAll calls canonical_nil

theorem covered_fromVec (calls : List ByteRange) (x : Nat) :
    Covered (fromVec calls).intervals x ↔ Covered calls x := by
  have started : Canonical empty.intervals := canonical_nil
  rw [fromVec, covered_insertAll calls started]
  exact or_iff_left (not_covered_nil x)

theorem covered_missing (calls : List ByteRange) (total x : Nat) :
    Covered ((fromVec calls).missing total) x ↔ x < total ∧ ¬Covered calls x := by
  rw [missing, covered_gaps (canonical_fromVec calls), covered_fromVec]
  exact and_iff_right (Nat.zero_le x)

theorem covers_iff (calls : List ByteRange) (total : Nat) :
    (fromVec calls).covers total = true ↔ ∀ x < total, Covered calls x := by
  rw [covers, List.isEmpty_iff]
  constructor
  · intro nothing x below
    by_contra uncovered
    have gap := (covered_missing calls total x).2 ⟨below, uncovered⟩
    rw [nothing] at gap
    exact not_covered_nil x gap
  · intro each
    refine (canonical_gaps (canonical_fromVec calls)).unique canonical_nil fun x => ?_
    refine iff_of_false (fun gap => ?_) (not_covered_nil x)
    obtain ⟨below, uncovered⟩ := (covered_missing calls total x).1 gap
    exact uncovered (each x below)

/-- After any calls the stored ranges are the maximal runs of the inserted offsets, whatever
the order of the calls; the missing ranges are the maximal runs of the others below the
total, and nothing is missing exactly if every offset below it was inserted. -/
theorem completed_ranges_exact (calls : List ByteRange) :
    Canonical (fromVec calls).intervals ∧
      (∀ x, Covered (fromVec calls).intervals x ↔ ∃ call ∈ calls, call.1 ≤ x ∧ x < call.2) ∧
      (∀ total, Canonical ((fromVec calls).missing total) ∧
        (∀ x, Covered ((fromVec calls).missing total) x ↔
          x < total ∧ ¬∃ call ∈ calls, call.1 ≤ x ∧ x < call.2) ∧
        (∀ range ∈ (fromVec calls).missing total, ∀ start stop, start ≤ range.1 → range.2 ≤ stop →
          (∀ x, start ≤ x → x < stop → Covered ((fromVec calls).missing total) x) → (start, stop) = range) ∧
        ((fromVec calls).covers total = true ↔ ∀ x < total, ∃ call ∈ calls, call.1 ≤ x ∧ x < call.2)) ∧
      ∀ others, calls.Perm others → fromVec others = fromVec calls := by
  refine ⟨canonical_fromVec calls, covered_fromVec calls, fun total => ?_, fun others order => ?_⟩
  · have gaps : Canonical ((fromVec calls).missing total) := canonical_gaps (canonical_fromVec calls)
    exact ⟨gaps, covered_missing calls total, fun range member start stop => gaps.maximal member,
      covers_iff calls total⟩
  · have same : (fromVec others).intervals = (fromVec calls).intervals := by
      refine (canonical_fromVec others).unique (canonical_fromVec calls) fun x => ?_
      rw [covered_fromVec, covered_fromVec]
      exact exists_congr fun call => and_congr_left fun _ => order.mem_iff.symm
    exact congrArg IntervalSet.mk same

/-- Out of order, touching and overlapping. -/
example : (fromVec [(8, 12), (0, 4), (4, 8), (20, 30), (11, 15)]).missing 25 = [(15, 20)] := by decide

end IntervalSet

namespace ByteResumeStore

/-- The chunks that were confirmed, one after the other. -/
def markAll (store : ByteResumeStore) (chunks : List ByteRange) : ByteResumeStore :=
  chunks.foldl (fun store chunk => store.markCommitted chunk.1 chunk.2) store

theorem completed_markAll (items chunks : List ByteRange) (srcSize : Nat)
    (bounded : ∀ chunk ∈ chunks, chunk.1 + chunk.2 < 2 ^ 64) :
    markAll ⟨srcSize, .fromVec items⟩ chunks =
      ⟨srcSize, .fromVec (items ++ chunks.map fun chunk => (chunk.1, chunk.1 + chunk.2))⟩ := by
  induction chunks generalizing items with
  | nil => rw [List.map_nil, List.append_nil, markAll, List.foldl_nil]
  | cons chunk rest ih =>
      obtain ⟨here, later⟩ := List.forall_mem_cons.1 bounded
      have marked : markCommitted ⟨srcSize, .fromVec items⟩ chunk.1 chunk.2 =
          ⟨srcSize, .fromVec (items ++ [(chunk.1, chunk.1 + chunk.2)])⟩ := by
        simp only [markCommitted, Nat.mod_eq_of_lt here, IntervalSet.fromVec, IntervalSet.insertAll,
          List.foldl_append, List.foldl_cons, List.foldl_nil]
      rw [markAll, List.foldl_cons, marked, ← markAll, ih _ later, List.map_cons, List.append_assoc]
      rfl

/-- The file is complete once every offset was loaded or confirmed. -/
theorem isComplete_markAll (srcSize : Nat) (loaded : Option (List ByteRange)) (chunks : List ByteRange)
    (bounded : ∀ chunk ∈ chunks, chunk.1 + chunk.2 < 2 ^ 64) :
    (markAll (open_ srcSize loaded) chunks).isComplete = true ↔
      ∀ x < srcSize, Covered (loaded.getD []) x ∨ ∃ chunk ∈ chunks, chunk.1 ≤ x ∧ x < chunk.1 + chunk.2 := by
  have opened : open_ srcSize loaded = ⟨srcSize, .fromVec (loaded.getD [])⟩ := by
    cases loaded with
    | none => rfl
    | some items => rfl
  rw [opened, completed_markAll _ _ _ bounded, isComplete, IntervalSet.covers_iff]
  simp only [covered_append]
  refine forall₂_congr fun x _ => or_congr_right ?_
  simp only [Covered, List.mem_map, exists_exists_and_eq_and]

end ByteResumeStore

end Terrasync.App
