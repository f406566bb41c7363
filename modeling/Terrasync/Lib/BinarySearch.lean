import Mathlib.Data.List.Basic

/-! Binary search in a slice, by a comparison with the wanted element. Of several equal
elements any may be found. -/

set_option autoImplicit false

namespace Terrasync.Lib

section BinarySearch

variable {Item : Type}

/-- How the element at an index compares; there is nothing behind the end. -/
def probe (compare : Item → Ordering) (items : List Item) (index : Nat) : Ordering :=
  (items[index]?.map compare).getD .gt

/-- Halve the `size` positions from `base` until one is left. -/
def narrow (compare : Item → Ordering) (items : List Item) : Nat → Nat → Nat → Nat
  | 0, base, _ => base
  | fuel + 1, base, size =>
      if size ≤ 1 then base
      else
        let half := size / 2
        narrow compare items fuel (if probe compare items (base + half) = .gt then base else base + half)
          (size - half)

/-- `binary_search_by`. -/
def binarySearchBy (compare : Item → Ordering) (items : List Item) : Option Nat :=
  let base := narrow compare items items.length 0 items.length
  if probe compare items base = .eq then some base else none

/-- What a comparison needs of a sorted slice: no element behind a greater one is not
greater, and none behind an equal one is smaller. -/
def Ordered (compare : Item → Ordering) (items : List Item) : Prop :=
  items.Pairwise fun first second =>
    (compare first = .gt → compare second = .gt) ∧ (compare first = .eq → compare second ≠ .lt)

variable {compare : Item → Ordering} {items : List Item}

theorem probe_of_getElem? {index : Nat} {item : Item} (found : items[index]? = some item) :
    probe compare items index = compare item := by
  rw [probe, found]
  rfl

theorem probe_eq {index : Nat} (equal : probe compare items index = .eq) :
    ∃ item, items[index]? = some item ∧ compare item = .eq := by
  cases found : items[index]? with
  | none =>
      rw [probe, found] at equal
      cases equal
  | some item => exact ⟨item, rfl, (probe_of_getElem? found).symm.trans equal⟩

theorem Ordered.gt_later (ordered : Ordered compare items) {first second : Nat} (before : first ≤ second)
    (greater : probe compare items first = .gt) : probe compare items second = .gt := by
  cases later : items[second]? with
  | none =>
      rw [probe, later]
      rfl
  | some item =>
      rcases Nat.lt_or_eq_of_le before with earlier | rfl
      · obtain ⟨within, rfl⟩ := List.getElem?_eq_some_iff.mp later
        have inside : items[first]? = some items[first] := List.getElem?_eq_getElem (by omega)
        rw [probe_of_getElem? inside] at greater
        rw [probe_of_getElem? later]
        exact (List.pairwise_iff_getElem.mp ordered first second (by omega) within earlier).1 greater
      · exact greater

theorem Ordered.not_lt_later (ordered : Ordered compare items) {first second : Nat} (before : first ≤ second)
    (equal : probe compare items first = .eq) : probe compare items second ≠ .lt := by
  cases later : items[second]? with
  | none =>
      rw [probe, later]
      exact nofun
  | some item =>
      rcases Nat.lt_or_eq_of_le before with earlier | rfl
      · obtain ⟨within, rfl⟩ := List.getElem?_eq_some_iff.mp later
        have inside : items[first]? = some items[first] := List.getElem?_eq_getElem (by omega)
        rw [probe_of_getElem? inside] at equal
        rw [probe_of_getElem? later]
        exact (List.pairwise_iff_getElem.mp ordered first second (by omega) within earlier).2 equal
      · rw [equal]
        exact nofun

/-- Nothing wanted is cut off: what lies behind the positions left is greater, and the
first of them is not, unless it is the first of all. -/
theorem narrow_spec (ordered : Ordered compare items) {fuel base size : Nat} (enough : size ≤ fuel + 1)
    (behind : ∀ index, base + size ≤ index → probe compare items index = .gt)
    (front : base = 0 ∨ probe compare items base ≠ .gt) :
    (narrow compare items fuel base size = 0 ∨ probe compare items (narrow compare items fuel base size) ≠ .gt) ∧
      ∀ index, narrow compare items fuel base size < index → probe compare items index = .gt := by
  induction fuel generalizing base size with
  | zero => exact ⟨front, fun index after => behind index (by simp only [narrow] at after; omega)⟩
  | succ fuel ih =>
      rw [narrow]
      split
      · next small => exact ⟨front, fun index after => behind index (by omega)⟩
      · next large =>
          by_cases greater : probe compare items (base + size / 2) = .gt
          · simp only [if_pos greater]
            exact ih (by omega) (fun index after => ordered.gt_later (by omega) greater) front
          · simp only [if_neg greater]
            exact ih (by omega) (fun index after => behind index (by omega)) (.inr greater)

theorem binarySearchBy_some {index : Nat} (found : binarySearchBy compare items = some index) :
    ∃ item, items[index]? = some item ∧ compare item = .eq := by
  rw [binarySearchBy] at found
  split at found
  · next equal =>
      cases found
      exact probe_eq equal
  · cases found

theorem binarySearchBy_none (ordered : Ordered compare items) (missing : binarySearchBy compare items = none) :
    ∀ item ∈ items, compare item ≠ .eq := by
  intro item member equal
  obtain ⟨index, within, here⟩ := List.mem_iff_getElem.mp member
  have wanted : probe compare items index = .eq := by
    rw [probe_of_getElem? (List.getElem?_eq_some_iff.mpr ⟨within, here⟩), equal]
  have past (position : Nat) (after : 0 + items.length ≤ position) : probe compare items position = .gt := by
    rw [probe, List.getElem?_eq_none (by omega)]
    rfl
  obtain ⟨front, behind⟩ := narrow_spec ordered (Nat.le_succ items.length) past (.inl rfl)
  rw [binarySearchBy] at missing
  split at missing
  · cases missing
  · next different =>
      have reached : index ≤ narrow compare items items.length 0 items.length := by
        by_contra after
        rw [behind index (by omega)] at wanted
        cases wanted
      rcases front with first | least
      · obtain rfl : index = 0 := by omega
        rw [← first] at wanted
        exact different wanted
      · have atLeast := ordered.not_lt_later reached wanted
        cases outcome : probe compare items (narrow compare items items.length 0 items.length) with
        | lt => exact atLeast outcome
        | eq => exact different outcome
        | gt => exact least outcome

end BinarySearch

end Terrasync.Lib
