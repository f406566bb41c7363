import Mathlib.Data.List.Basic

/-! Cutting a list into consecutive blocks of one size, the last of which may
be shorter. The cut is the one of a slice-chunking iterator: blocks are read by
position, and their concatenation is the list. -/

set_option autoImplicit false

namespace Terrasync.Lib

variable {α : Type}

/-- Consecutive blocks of `size` elements; only the last may be shorter. The
size is meant to be positive, and `0` behaves as `1`. -/
def blocks (size : Nat) : List α → List (List α)
  | [] => []
  | head :: tail => (head :: tail.take (size - 1)) :: blocks size (tail.drop (size - 1))
termination_by items => items.length
decreasing_by
  simp only [List.length_drop, List.length_cons]
  omega

@[simp] theorem blocks_nil (size : Nat) : blocks size ([] : List α) = [] := by
  simp [blocks]

theorem blocks_of_ne_nil {size : Nat} (positive : 0 < size) {items : List α} (nonempty : items ≠ []) :
    blocks size items = items.take size :: blocks size (items.drop size) := by
  obtain ⟨previous, rfl⟩ : ∃ previous, size = previous + 1 := ⟨size - 1, by omega⟩
  cases items with
  | nil => exact absurd rfl nonempty
  | cons head tail => simp [blocks]

/-- A full block in front is cut off unchanged. -/
theorem blocks_append {size : Nat} (positive : 0 < size) {block : List α} (rest : List α)
    (full : block.length = size) : blocks size (block ++ rest) = block :: blocks size rest := by
  have nonempty : block ++ rest ≠ [] := by
    intro empty
    have none_left := congrArg List.length empty
    simp only [List.length_append, List.length_nil] at none_left
    omega
  rw [blocks_of_ne_nil positive nonempty, ← full, List.take_left' rfl, List.drop_left' rfl]

/-- What does not exceed one block is one block. -/
theorem blocks_of_length_le {size : Nat} (positive : 0 < size) {items : List α}
    (nonempty : items ≠ []) (short : items.length ≤ size) : blocks size items = [items] := by
  rw [blocks_of_ne_nil positive nonempty, List.take_of_length_le short, List.drop_of_length_le short,
    blocks_nil]

@[simp] theorem flatten_blocks {size : Nat} (positive : 0 < size) (items : List α) :
    (blocks size items).flatten = items := by
  induction items using blocks.induct size with
  | case1 => simp
  | case2 head tail ih =>
      rw [blocks_of_ne_nil positive (by simp), List.flatten_cons]
      obtain ⟨previous, rfl⟩ : ∃ previous, size = previous + 1 := ⟨size - 1, by omega⟩
      simp only [Nat.add_sub_cancel] at ih
      simp only [List.take_succ_cons, List.drop_succ_cons, ih, List.cons_append, List.take_append_drop]

theorem mem_blocks {size : Nat} (positive : 0 < size) {items block : List α}
    (member : block ∈ blocks size items) : block ≠ [] ∧ block.length ≤ size := by
  induction items using blocks.induct size with
  | case1 => simp at member
  | case2 head tail ih =>
      rw [blocks] at member
      rcases List.mem_cons.mp member with rfl | later
      · refine ⟨by simp, ?_⟩
        simp only [List.length_cons, List.length_take]
        omega
      · exact ih later

/-- The block at an index, read off by position. -/
theorem getElem?_blocks {size : Nat} (positive : 0 < size) (items : List α) (index : Nat) :
    (blocks size items)[index]? =
      if index * size < items.length then some ((items.drop (index * size)).take size) else none := by
  induction index generalizing items with
  | zero =>
      cases items with
      | nil => simp
      | cons head tail => rw [blocks_of_ne_nil positive (by simp)]; simp
  | succ index ih =>
      by_cases empty : items = []
      · subst empty; simp
      · rw [blocks_of_ne_nil positive empty, List.getElem?_cons_succ, ih, List.drop_drop,
          List.length_drop]
        have position : size + index * size = (index + 1) * size := by
          rw [Nat.add_mul, Nat.one_mul, Nat.add_comm]
        rw [position]
        by_cases inside : (index + 1) * size < items.length
        · rw [if_pos inside, if_pos (by omega)]
        · rw [if_neg inside, if_neg (by omega)]

end Terrasync.Lib
