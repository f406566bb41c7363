import Mathlib.Data.List.Perm.Basic

/-! Items at places, where only the order at one place matters: two lists that agree at
every place are one history, told in different orders. -/

set_option autoImplicit false

namespace Terrasync.Lib

variable {Item Place : Type} [DecidableEq Place]

/-- The items of a list at one place, in order. -/
def atPlace (place : Item → Place) (here : Place) (items : List Item) : List Item :=
  items.filter fun item => place item = here

/-- The same items at every place, in the same order. -/
def SameOrder (place : Item → Place) (left right : List Item) : Prop :=
  ∀ here, atPlace place here left = atPlace place here right

section Laws

variable {place : Item → Place} {here : Place}

@[simp] theorem atPlace_nil : atPlace place here [] = [] := rfl

@[simp] theorem atPlace_append (left right : List Item) :
    atPlace place here (left ++ right) = atPlace place here left ++ atPlace place here right :=
  List.filter_append ..

theorem atPlace_eq_nil {items : List Item} (elsewhere : ∀ item ∈ items, place item ≠ here) :
    atPlace place here items = [] := by
  apply List.filter_eq_nil_iff.2
  intro item member found
  exact elsewhere item member (of_decide_eq_true found)

theorem SameOrder.perm [DecidableEq Item] {left right : List Item} (same : SameOrder place left right) :
    left.Perm right := by
  apply List.perm_iff_count.2
  intro item
  have counted (items : List Item) : items.count item = (atPlace place (place item) items).count item := by
    rw [atPlace, List.count_filter (by simp)]
  rw [counted left, counted right, same (place item)]

end Laws

end Terrasync.Lib
