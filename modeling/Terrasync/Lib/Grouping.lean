import Mathlib.Algebra.BigOperators.Group.List.Basic
import Mathlib.Data.List.Dedup
import Mathlib.Data.List.Sort
import Mathlib.Order.Lattice

/-! Rows grouped by a key, and rows numbered by an order. -/

set_option autoImplicit false

namespace Terrasync.Lib

section Grouping

variable {Row Key Amount : Type} [DecidableEq Key] (key : Row → Key)

/-- `GROUP BY`: the keys in the order of their first row, each with its rows. -/
def groupBy (rows : List Row) : List (Key × List Row) :=
  (rows.map key).dedup.map fun wanted => (wanted, rows.filter fun row => key row = wanted)

theorem keys_groupBy (rows : List Row) : (groupBy key rows).map Prod.fst = (rows.map key).dedup := by
  rw [groupBy, List.map_map]
  exact List.map_id _

variable {key} {rows : List Row}

theorem mem_groupBy {group : Key × List Row} :
    group ∈ groupBy key rows ↔ group.1 ∈ rows.map key ∧ group.2 = rows.filter fun row => key row = group.1 := by
  rw [groupBy, List.mem_map]
  constructor
  · rintro ⟨wanted, member, rfl⟩
    exact ⟨List.mem_dedup.mp member, rfl⟩
  · exact fun ⟨member, rows⟩ => ⟨group.1, List.mem_dedup.mpr member, Prod.ext rfl rows.symm⟩

theorem sum_single [AddCommMonoid Amount] {keys : List Key} (distinct : keys.Nodup) (wanted : Key) (amount : Amount) :
    (keys.map fun key => if wanted = key then amount else 0).sum = if wanted ∈ keys then amount else 0 := by
  induction keys with
  | nil => rfl
  | cons first keys ih =>
      obtain ⟨absent, distinct⟩ := List.nodup_cons.mp distinct
      rw [List.map_cons, List.sum_cons, ih distinct]
      by_cases here : wanted = first
      · subst here
        rw [if_pos rfl, if_neg absent, if_pos List.mem_cons_self, add_zero]
      · rw [if_neg here, zero_add]
        simp only [List.mem_cons, here, false_or]

/-- The sums of the groups are the sum of the rows. -/
theorem sum_groupBy [AddCommMonoid Amount] (amount : Row → Amount) (rows : List Row) :
    ((groupBy key rows).map fun group => (group.2.map amount).sum).sum = (rows.map amount).sum := by
  have grouped : ∀ keys : List Key, keys.Nodup → (∀ row ∈ rows, key row ∈ keys) →
      (keys.map fun wanted => ((rows.filter fun row => key row = wanted).map amount).sum).sum =
        (rows.map amount).sum := by
    intro keys distinct
    induction rows with
    | nil =>
        refine fun _ => List.sum_eq_zero fun sum member => ?_
        obtain ⟨_, -, rfl⟩ := List.mem_map.mp member
        rfl
    | cons row rows ih =>
        intro all
        have split : ∀ wanted : Key, (((row :: rows).filter fun row => key row = wanted).map amount).sum =
            (if key row = wanted then amount row else 0) +
              ((rows.filter fun row => key row = wanted).map amount).sum := by
          intro wanted
          by_cases here : key row = wanted
          · simp [here]
          · simp [here]
        rw [List.map_congr_left fun wanted _ => split wanted, List.sum_map_add, sum_single distinct,
          if_pos (all row List.mem_cons_self), ih fun other member => all other (List.mem_cons_of_mem _ member)]
        rfl
  rw [groupBy, List.map_map]
  exact grouped _ (List.nodup_dedup _) fun row member => List.mem_dedup.mpr (List.mem_map_of_mem member)

end Grouping

section Numbering

variable {Row Order : Type} [LinearOrder Order] (order : Row → Order)

/-- `row_number() OVER (ORDER BY …)`: one more than the rows before it. -/
def rowNumber (rows : List Row) (row : Row) : Nat := (rows.countP fun other => order other < order row) + 1

variable {order} {rows : List Row}

theorem rowNumber_perm {others : List Row} (perm : rows.Perm others) (row : Row) :
    rowNumber order rows row = rowNumber order others row := by
  rw [rowNumber, rowNumber, perm.countP_eq]

/-- A row with the smaller number comes first in the order. -/
theorem lt_of_rowNumber_lt {first second : Row} (less : rowNumber order rows first < rowNumber order rows second) :
    order first < order second := by
  by_contra later
  refine absurd less (Nat.not_lt.mpr (Nat.succ_le_succ (List.countP_mono_left fun row _ before => ?_)))
  exact decide_eq_true ((of_decide_eq_true before).trans_le (not_lt.mp later))

theorem length_rowNumber_le_of_sorted (sorted : rows.Pairwise fun first second => order first < order second)
    (limit : Nat) : (rows.filter fun row => rowNumber order rows row ≤ limit).length ≤ limit := by
  induction rows generalizing limit with
  | nil => exact Nat.zero_le _
  | cons first rest ih =>
      obtain ⟨least, sorted⟩ := List.pairwise_cons.mp sorted
      have later : ∀ row ∈ rest, rowNumber order (first :: rest) row = rowNumber order rest row + 1 := by
        intro row member
        simp [rowNumber, least row member]
      cases limit with
      | zero => simp [rowNumber]
      | succ limit =>
          have kept : (rest.filter fun row => rowNumber order (first :: rest) row ≤ limit + 1) =
              rest.filter fun row => rowNumber order rest row ≤ limit := by
            refine List.filter_congr fun row member => ?_
            rw [later row member, decide_eq_decide]
            exact Nat.succ_le_succ_iff
          calc ((first :: rest).filter fun row => rowNumber order (first :: rest) row ≤ limit + 1).length
            _ ≤ (rest.filter fun row => rowNumber order (first :: rest) row ≤ limit + 1).length + 1 := by
                rw [List.filter_cons]
                split
                · exact Nat.le_refl _
                · exact Nat.le_succ _
            _ ≤ limit + 1 := by
                rw [kept]
                exact Nat.succ_le_succ (ih sorted limit)

/-- At most as many rows as numbers up to a limit. -/
theorem length_rowNumber_le (distinct : (rows.map order).Nodup) (limit : Nat) :
    (rows.filter fun row => rowNumber order rows row ≤ limit).length ≤ limit := by
  let sorted := rows.insertionSort fun first second => order first ≤ order second
  have perm : sorted.Perm rows := List.perm_insertionSort _ rows
  have increasing : sorted.Pairwise fun first second => order first < order second := by
    have ordered : sorted.Pairwise fun first second => order first ≤ order second :=
      List.pairwise_insertionSort _ rows
    have apart : sorted.Pairwise fun first second => order first ≠ order second :=
      List.pairwise_map.mp ((perm.map order).nodup_iff.mpr distinct)
    exact ordered.imp₂ (fun _ _ => lt_of_le_of_ne) apart
  have numbered : rows.filter (fun row => rowNumber order rows row ≤ limit) =
      rows.filter fun row => rowNumber order sorted row ≤ limit := by
    refine List.filter_congr fun row _ => ?_
    rw [rowNumber_perm perm]
  rw [numbered, ← (perm.filter _).length_eq]
  exact length_rowNumber_le_of_sorted increasing limit

end Numbering

end Terrasync.Lib
