import Mathlib.Algebra.BigOperators.Group.List.Basic
import Mathlib.Algebra.Order.Group.Multiset

/-! Amounts that a pool of workers holds together, and how one worker's move changes them. -/

set_option autoImplicit false

namespace Terrasync.Lib

variable {Worker Amount : Type}

/-- The amounts of all workers. -/
def held [AddCommMonoid Amount] (amount : Worker → Amount) (workers : List Worker) : Amount :=
  (workers.map amount).sum

theorem held_set [AddCommMonoid Amount] {amount : Worker → Amount} {workers : List Worker}
    {index : Nat} {before : Worker} (after : Worker) (current : workers[index]? = some before) :
    held amount (workers.set index after) + amount before = held amount workers + amount after := by
  induction workers generalizing index with
  | nil => exact absurd current (Option.some_ne_none _).symm
  | cons first rest ih =>
      cases index with
      | zero =>
          obtain rfl : first = before := Option.some.inj current
          simp only [List.set_cons_zero, held, List.map_cons, List.sum_cons]
          ac_rfl
      | succ index =>
          have moved := ih current
          simp only [held] at moved
          simp only [List.set_cons_succ, held, List.map_cons, List.sum_cons, add_assoc, moved]

/-- A move that neither takes nor gives. -/
theorem held_keep [AddCancelCommMonoid Amount] {amount : Worker → Amount} {workers : List Worker}
    {index : Nat} {before after : Worker} (current : workers[index]? = some before)
    (same : amount after = amount before) :
    held amount (workers.set index after) = held amount workers := by
  have moved : held amount (workers.set index after) + amount before = _ := held_set after current
  rw [same] at moved
  exact add_right_cancel moved

theorem held_zero [AddCommMonoid Amount] {amount : Worker → Amount} {workers : List Worker}
    (none : ∀ worker ∈ workers, amount worker = 0) : held amount workers = 0 :=
  List.sum_eq_zero fun value member => by
    obtain ⟨worker, known, rfl⟩ := List.mem_map.1 member
    exact none worker known

end Terrasync.Lib
