import Mathlib.Algebra.Order.BigOperators.Group.List
import Mathlib.Algebra.Order.Ring.Nat
import Terrasync.Scan.BatchQueries

/-! The groups of `confirm_paths`. The keys are cut greedily from the left; a key that does
not fit into a group of its own ends the loop with one query for the whole range. -/

set_option autoImplicit false

namespace Terrasync.Scan.BatchQueries

variable (encodedBytes : Key → Nat)

/-- A key array as the client writes it: two brackets, and a comma between two keys. -/
def groupBytes (group : List Key) : Nat := 2 + (group.map encodedBytes).sum + (group.length - 1)

/-- No group could have taken the key that follows it. -/
def Maximal (groups : List (List Key)) (left : List Key) : Prop :=
  ∀ before group after, groups = before ++ group :: after →
    ∀ next ∈ (after.flatten ++ left).head?, sparseKeyBytes < groupBytes encodedBytes (group ++ [next])

/-- `confirmGroups` with the queries it has asked. -/
def confirmGroupsAsking (ask : Nat → Query → List Baseline) (range : Query) (byHandle : Bool)
    (keys : List Key) (asked : List Query) (rows : List Baseline) : List Query × List Baseline :=
  match keys with
  | [] => (asked, rows)
  | key :: rest =>
      let size := sparseKeyGroup encodedBytes (key :: rest)
      if 0 < size then
        let query := Query.sparse ((key :: rest).take size) byHandle
        confirmGroupsAsking ask range byHandle ((key :: rest).drop size) (asked ++ [query])
          (rows ++ ask asked.length query)
      else (asked ++ [range], ask asked.length range)
termination_by keys.length

variable {encodedBytes : Key → Nat}

theorem confirmGroupsAsking_rows (ask : Nat → Query → List Baseline) (range : Query) (byHandle : Bool)
    (keys : List Key) (asked : List Query) (rows : List Baseline) :
    (confirmGroupsAsking encodedBytes ask range byHandle keys asked rows).2 =
      confirmGroups encodedBytes ask range byHandle asked.length keys rows := by
  induction keys, asked, rows using confirmGroupsAsking.induct encodedBytes ask byHandle with
  | case1 asked rows => rw [confirmGroupsAsking, confirmGroups]
  | case2 asked rows key rest size positive query ih =>
      rw [confirmGroupsAsking, confirmGroups, if_pos positive, if_pos positive, ih, List.length_append,
        List.length_singleton]
  | case3 asked rows key rest size stuck =>
      rw [confirmGroupsAsking, confirmGroups, if_neg stuck, if_neg stuck]

theorem groupBytes_snoc (group : List Key) (key : Key) :
    groupBytes encodedBytes (group ++ [key]) =
      groupBytes encodedBytes group + (encodedBytes key + if 0 < group.length then 1 else 0) := by
  simp only [groupBytes, List.map_append, List.map_cons, List.map_nil, List.sum_append, List.sum_cons,
    List.sum_nil, List.length_append, List.length_singleton]
  split <;> omega

theorem groupBytes_singleton_le {group : List Key} {key : Key} (member : key ∈ group) :
    groupBytes encodedBytes [key] ≤ groupBytes encodedBytes group := by
  have counted : encodedBytes key ≤ (group.map encodedBytes).sum :=
    List.single_le_sum (fun _ _ => Nat.zero_le _) _ (List.mem_map_of_mem member)
  simp only [groupBytes, List.map_cons, List.map_nil, List.sum_cons, List.sum_nil, List.length_singleton]
  omega

/-- Saturation never decides the comparison with the limit. -/
theorem exceeds_iff {bytes key comma : Nat} :
    sparseKeyBytes < saturatingAdd bytes (saturatingAdd key comma) ↔ sparseKeyBytes < bytes + (key + comma) := by
  simp only [saturatingAdd, sparseKeyBytes]
  omega

theorem fits_add {bytes key comma : Nat} (fits : ¬ sparseKeyBytes < bytes + (key + comma)) :
    bytes + saturatingAdd key comma = bytes + (key + comma) := by
  simp only [saturatingAdd, sparseKeyBytes] at fits ⊢
  omega

/-- The inner loop takes keys while the group stays within the limit. -/
theorem groupLength_spec (group keys : List Key) (fits : groupBytes encodedBytes group ≤ sparseKeyBytes) :
    ∃ taken left, keys = taken ++ left ∧
      groupLength encodedBytes group.length (groupBytes encodedBytes group) keys = (group ++ taken).length ∧
      groupBytes encodedBytes (group ++ taken) ≤ sparseKeyBytes ∧
      ∀ next ∈ left.head?, sparseKeyBytes < groupBytes encodedBytes (group ++ taken ++ [next]) := by
  induction keys generalizing group with
  | nil => exact ⟨[], [], rfl, by simp [groupLength], by simpa using fits, by simp⟩
  | cons key rest ih =>
      simp only [groupLength, exceeds_iff]
      by_cases exceeded : sparseKeyBytes <
          groupBytes encodedBytes group + (encodedBytes key + if 0 < group.length then 1 else 0)
      · rw [if_pos exceeded]
        refine ⟨[], key :: rest, rfl, by simp, by simpa using fits, fun next head => ?_⟩
        cases Option.mem_some_iff.mp head
        rw [List.append_nil, groupBytes_snoc]
        exact exceeded
      · rw [if_neg exceeded, fits_add exceeded, ← groupBytes_snoc]
        have larger : groupBytes encodedBytes (group ++ [key]) ≤ sparseKeyBytes := by
          rw [groupBytes_snoc]
          exact Nat.le_of_not_lt exceeded
        obtain ⟨taken, left, split, length, bounded, maximal⟩ := ih (group ++ [key]) larger
        have regrouped : group ++ [key] ++ taken = group ++ key :: taken := by
          rw [List.append_assoc, List.singleton_append]
        rw [List.length_append, List.length_singleton] at length
        rw [regrouped] at length bounded maximal
        exact ⟨key :: taken, left, by rw [split, List.cons_append], length, bounded, maximal⟩

/-- The next group: the longest prefix of the keys within the limit. -/
theorem sparseKeyGroup_spec (keys : List Key) :
    groupBytes encodedBytes (keys.take (sparseKeyGroup encodedBytes keys)) ≤ sparseKeyBytes ∧
      ∀ next ∈ (keys.drop (sparseKeyGroup encodedBytes keys)).head?, sparseKeyBytes <
        groupBytes encodedBytes (keys.take (sparseKeyGroup encodedBytes keys) ++ [next]) := by
  obtain ⟨taken, left, split, length, bounded, maximal⟩ :=
    @groupLength_spec encodedBytes [] keys (by simp [groupBytes, sparseKeyBytes])
  have size : sparseKeyGroup encodedBytes keys = taken.length := length
  rw [size, split, List.take_left, List.drop_left]
  exact ⟨bounded, maximal⟩

theorem Maximal.cons {group : List Key} {groups : List (List Key)} {left : List Key}
    (first : ∀ next ∈ (groups.flatten ++ left).head?,
      sparseKeyBytes < groupBytes encodedBytes (group ++ [next]))
    (later : Maximal encodedBytes groups left) : Maximal encodedBytes (group :: groups) left := by
  intro before other after split
  cases before with
  | nil =>
      obtain ⟨rfl, rfl⟩ := List.cons.inj split
      exact first
  | cons head before =>
      exact later before other after (List.cons.inj split).2

/-- What the loop asks and returns, from any point of its run. -/
theorem confirmGroupsAsking_spec (ask : Nat → Query → List Baseline) (range : Query) (byHandle : Bool)
    (keys : List Key) (asked : List Query) (rows : List Baseline) :
    ∃ (groups : List (List Key)) (left : List Key), groups.flatten ++ left = keys ∧
      (∀ group ∈ groups, group ≠ [] ∧ groupBytes encodedBytes group ≤ sparseKeyBytes) ∧
      Maximal encodedBytes groups left ∧
      (∀ next ∈ left.head?, sparseKeyBytes < groupBytes encodedBytes [next]) ∧
      confirmGroupsAsking encodedBytes ask range byHandle keys asked rows =
        if left = [] then
          (asked ++ groups.map (Query.sparse · byHandle),
            rows ++ (groups.zipIdx asked.length).flatMap fun group => ask group.2 (.sparse group.1 byHandle))
        else
          (asked ++ groups.map (Query.sparse · byHandle) ++ [range],
            ask (asked.length + groups.length) range) := by
  induction keys, asked, rows using confirmGroupsAsking.induct encodedBytes ask byHandle with
  | case1 asked rows =>
      refine ⟨[], [], rfl, fun _ member => absurd member List.not_mem_nil, ?_, by simp, ?_⟩
      · intro before group after split
        exact absurd split (by simp)
      · rw [confirmGroupsAsking]
        simp
  | case2 asked rows key rest size positive query ih =>
      obtain ⟨groups, left, split, bounded, maximal, oversized, outcome⟩ := ih
      obtain ⟨fits, full⟩ := @sparseKeyGroup_spec encodedBytes (key :: rest)
      refine ⟨(key :: rest).take size :: groups, left, ?_, ?_, ?_, oversized, ?_⟩
      · rw [List.flatten_cons, List.append_assoc, split, List.take_append_drop]
      · refine List.forall_mem_cons.mpr ⟨⟨?_, fits⟩, bounded⟩
        rw [ne_eq, List.take_eq_nil_iff]
        rintro (zero | empty)
        · exact absurd zero (Nat.ne_of_gt positive)
        · exact absurd empty (List.cons_ne_nil _ _)
      · exact Maximal.cons (by rw [split]; exact full) maximal
      · rw [confirmGroupsAsking, if_pos positive]
        refine outcome.trans ?_
        rw [List.length_append, List.length_singleton]
        split
        · rw [List.map_cons, List.zipIdx_cons, List.flatMap_cons, List.append_assoc, List.append_assoc]
          rfl
        · rw [List.map_cons, List.length_cons, List.append_assoc asked, Nat.add_assoc,
            Nat.add_comm 1 groups.length]
          rfl
  | case3 asked rows key rest size stuck =>
      obtain ⟨-, full⟩ := @sparseKeyGroup_spec encodedBytes (key :: rest)
      have zero : sparseKeyGroup encodedBytes (key :: rest) = 0 := Nat.eq_zero_of_not_pos stuck
      simp only [zero, List.take_zero, List.drop_zero, List.nil_append] at full
      refine ⟨[], key :: rest, rfl, fun _ member => absurd member List.not_mem_nil, ?_, full, ?_⟩
      · intro before group after split
        exact absurd split (by simp)
      · rw [confirmGroupsAsking, if_neg stuck, if_neg (List.cons_ne_nil _ _)]
        simp

/-- The loop of `confirm_paths` ends. Either it asks for consecutive, non-empty, maximal
groups within the limit that make up the keys in order, and returns their rows; or, exactly
when some key alone exceeds the limit, it asks for the range at last and returns its rows. -/
theorem sparse_groups_partition (encodedBytes : Key → Nat) (ask : Nat → Query → List Baseline) (range : Query)
    (byHandle : Bool) (keys : List Key) :
    ∃ (groups : List (List Key)) (left : List Key), groups.flatten ++ left = keys ∧
      (∀ group ∈ groups, group ≠ [] ∧ groupBytes encodedBytes group ≤ 16384) ∧
      Maximal encodedBytes groups left ∧
      (left ≠ [] ↔ ∃ key ∈ keys, 16384 < groupBytes encodedBytes [key]) ∧
      (left = [] →
        confirmGroupsAsking encodedBytes ask range byHandle keys [] [] =
          (groups.map (Query.sparse · byHandle),
            groups.zipIdx.flatMap fun group => ask group.2 (.sparse group.1 byHandle))) ∧
      (left ≠ [] →
        confirmGroupsAsking encodedBytes ask range byHandle keys [] [] =
          (groups.map (Query.sparse · byHandle) ++ [range], ask groups.length range)) ∧
      confirmGroups encodedBytes ask range byHandle 0 keys [] =
        (confirmGroupsAsking encodedBytes ask range byHandle keys [] []).2 := by
  obtain ⟨groups, left, split, bounded, maximal, oversized, outcome⟩ :=
    @confirmGroupsAsking_spec encodedBytes ask range byHandle keys [] []
  refine ⟨groups, left, split, bounded, maximal, ⟨fun rest => ?_, ?_⟩, fun done => ?_, fun rest => ?_,
    (confirmGroupsAsking_rows ask range byHandle keys [] []).symm⟩
  · obtain ⟨next, others, rfl⟩ := List.exists_cons_of_ne_nil rest
    refine ⟨next, ?_, oversized next rfl⟩
    rw [← split]
    exact List.mem_append_right _ List.mem_cons_self
  · rintro ⟨key, member, exceeds⟩ rfl
    rw [List.append_nil] at split
    rw [← split] at member
    obtain ⟨group, listed, inside⟩ := List.mem_flatten.mp member
    exact absurd exceeds (Nat.not_lt.mpr ((groupBytes_singleton_le inside).trans (bounded group listed).2))
  · rw [outcome, if_pos done]
    rfl
  · rw [outcome, if_neg rest, List.nil_append, List.length_nil, Nat.zero_add]

end Terrasync.Scan.BatchQueries
