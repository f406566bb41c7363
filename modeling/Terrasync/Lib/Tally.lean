import Mathlib.Algebra.BigOperators.Group.List.Basic
import Mathlib.Data.List.Dedup
import Terrasync.Lib.Replacing

/-! Totals by key: a map that is bumped for each entry, and the rows of a grouped sum. -/

set_option autoImplicit false

namespace Terrasync.Lib

section Table

variable {Key Value Name : Type} [DecidableEq Key] [DecidableEq Name]

/-- The map that is collected from rows of keys and values; a later row replaces an earlier one. -/
def table (rows : List (Key × Value)) (key : Key) : Option Value := (latest Prod.fst rows key).map Prod.snd

theorem table_eq_some {rows : List (Key × Value)} (distinct : (rows.map Prod.fst).Nodup) {key : Key} {value : Value} :
    table rows key = some value ↔ (key, value) ∈ rows := by
  have unique : ∀ first ∈ rows, ∀ second ∈ rows, first.1 = second.1 → first = second :=
    fun first here second there same => List.inj_on_of_nodup_map distinct here there same
  rw [table, Option.map_eq_some_iff]
  constructor
  · rintro ⟨row, found, rfl⟩
    obtain ⟨member, rfl⟩ := (latest_iff_of_unique unique).mp found
    exact member
  · exact fun member => ⟨(key, value), (latest_iff_of_unique unique).mpr ⟨member, rfl⟩, rfl⟩

/-- A map whose keys are decoded, where only one key has the name that is looked up. -/
theorem table_decode {decode : Key → Option Name} {name : Name} {key : Key}
    (only : ∀ other, decode other = some name ↔ other = key) (rows : List (Key × Value)) :
    table (rows.filterMap fun row => (decode row.1).map fun found => (found, row.2)) name = table rows key := by
  induction rows using List.reverseRecOn with
  | nil => rfl
  | append_singleton rows row ih =>
      rw [table, table, List.filterMap_append, latest_append, latest_append, Option.map_or, Option.map_or]
      rw [table, table] at ih
      rw [ih]
      congr 1
      by_cases here : row.1 = key
      · have named := (only row.1).mpr here
        simp [latest, here, (only key).mpr rfl]
      · have other : decode row.1 ≠ some name := fun named => here ((only row.1).mp named)
        cases found : decode row.1 with
        | none => simp [latest, here, found]
        | some found' =>
            have different : found' ≠ name := by
              rintro rfl
              exact other found
            simp [latest, here, found, different]

end Table

section Amounts

variable {Key Amount : Type} [DecidableEq Key]

/-- The amounts of the entries of a key. -/
def amounts (entries : List (Key × Amount)) (key : Key) : List Amount :=
  (entries.filter fun entry => entry.1 = key).map Prod.snd

theorem amounts_append (entries later : List (Key × Amount)) (key : Key) :
    amounts (entries ++ later) key = amounts entries key ++ amounts later key := by
  simp only [amounts, List.filter_append, List.map_append]

theorem amounts_eq_nil {entries : List (Key × Amount)} {key : Key} :
    amounts entries key = [] ↔ key ∉ entries.map Prod.fst := by
  simp only [amounts, List.map_eq_nil_iff, List.filter_eq_nil_iff, decide_eq_true_eq, List.mem_map]
  exact ⟨fun none found => found.elim fun entry here => none entry here.1 here.2,
    fun none entry member here => none ⟨entry, member, here⟩⟩

end Amounts

section Tally

variable {Key Amount Name : Type} [DecidableEq Key] [DecidableEq Name] [AddCommMonoid Amount]

/-- The total of a key with the number of its entries, if it has any. -/
def tally (entries : List (Key × Amount)) (key : Key) : Option (Amount × Nat) :=
  if (amounts entries key).isEmpty then none
  else some ((amounts entries key).sum, (amounts entries key).length)

/-- `or_insert((0, 0))`, then one more amount. -/
def bump (totals : Key → Option (Amount × Nat)) (entry : Key × Amount) : Key → Option (Amount × Nat) :=
  fun key =>
    if key = entry.1 then
      let value := (totals key).getD (0, 0)
      some (value.1 + entry.2, value.2 + 1)
    else totals key

/-- `GROUP BY`: one row for each key. -/
def groups (entries : List (Key × Amount)) : List (Key × Amount × Nat) :=
  (entries.map Prod.fst).dedup.map fun key =>
    (key, (amounts entries key).sum, (amounts entries key).length)

theorem tally_eq_some {entries : List (Key × Amount)} {key : Key} {total : Amount × Nat} :
    tally entries key = some total ↔ key ∈ entries.map Prod.fst ∧
      total = ((amounts entries key).sum, (amounts entries key).length) := by
  rw [tally]
  split
  · next empty =>
      have absent := amounts_eq_nil.mp (List.isEmpty_iff.mp empty)
      exact ⟨fun impossible => absurd impossible (Option.some_ne_none _).symm,
        fun found => absurd found.1 absent⟩
  · next filled =>
      have present := not_not.mp (mt amounts_eq_nil.mpr (mt List.isEmpty_iff.mpr filled))
      rw [Option.some.injEq]
      exact ⟨fun same => ⟨present, same.symm⟩, fun found => found.2.symm⟩

theorem tally_isSome {entries : List (Key × Amount)} {key : Key} :
    (tally entries key).isSome ↔ key ∈ entries.map Prod.fst := by
  rw [Option.isSome_iff_exists]
  exact ⟨fun ⟨_, found⟩ => (tally_eq_some.mp found).1, fun member => ⟨_, tally_eq_some.mpr ⟨member, rfl⟩⟩⟩

theorem tally_perm {entries others : List (Key × Amount)} (perm : entries.Perm others) :
    tally entries = tally others := by
  funext key
  have amountsPerm : (amounts entries key).Perm (amounts others key) := (perm.filter _).map _
  rw [tally, tally, amountsPerm.isEmpty_eq, amountsPerm.sum_eq, amountsPerm.length_eq]

/-- Bumping a map entry by entry leaves the totals in it. -/
theorem foldl_bump (entries : List (Key × Amount)) : entries.foldl bump (fun _ => none) = tally entries := by
  induction entries using List.reverseRecOn with
  | nil => rfl
  | append_singleton entries entry ih =>
      rw [List.foldl_append, List.foldl_cons, List.foldl_nil, ih]
      funext key
      by_cases here : key = entry.1
      · have last : amounts (entries ++ [entry]) key = amounts entries key ++ [entry.2] := by
          rw [amounts_append]
          simp [amounts, here]
        rw [bump, if_pos here, tally, tally, last]
        cases before : amounts entries key with
        | nil => simp
        | cons first rest => simp [add_assoc]
      · have last : amounts (entries ++ [entry]) key = amounts entries key := by
          rw [amounts_append]
          simp [amounts, Ne.symm here]
        rw [bump, if_neg here, tally, tally, last]

theorem tally_concat (entries : List (Key × Amount)) (entry : Key × Amount) :
    tally (entries ++ [entry]) = bump (tally entries) entry := by
  rw [← foldl_bump, ← foldl_bump, List.foldl_append, List.foldl_cons, List.foldl_nil]

theorem keys_groups (entries : List (Key × Amount)) :
    (groups entries).map Prod.fst = (entries.map Prod.fst).dedup := by
  rw [groups, List.map_map]
  exact List.map_id _

theorem nodup_groups (entries : List (Key × Amount)) : ((groups entries).map Prod.fst).Nodup := by
  rw [keys_groups]
  exact List.nodup_dedup _

theorem mem_groups {entries : List (Key × Amount)} {row : Key × Amount × Nat} :
    row ∈ groups entries ↔ tally entries row.1 = some row.2 := by
  rw [groups, List.mem_map, tally_eq_some]
  constructor
  · rintro ⟨key, member, rfl⟩
    exact ⟨List.mem_dedup.mp member, rfl⟩
  · exact fun ⟨member, total⟩ => ⟨row.1, List.mem_dedup.mpr member, Prod.ext rfl total.symm⟩

/-- The grouped rows are collected to the totals. -/
theorem table_groups (entries : List (Key × Amount)) : table (groups entries) = tally entries := by
  funext key
  refine Option.ext fun total => ?_
  rw [table_eq_some (nodup_groups entries), mem_groups]

/-- Names that stand for one key each have its totals. -/
theorem tally_rename (rename : Key → Name) {key : Key} (entries : List (Key × Amount))
    (only : ∀ entry ∈ entries, rename entry.1 = rename key ↔ entry.1 = key) :
    tally (entries.map fun entry => (rename entry.1, entry.2)) (rename key) = tally entries key := by
  have same : amounts (entries.map fun entry => (rename entry.1, entry.2)) (rename key) = amounts entries key := by
    rw [amounts, amounts, List.filter_map, List.map_map]
    congr 1
    refine List.filter_congr fun entry member => ?_
    rw [Function.comp_apply, decide_eq_decide]
    exact only entry member
  rw [tally, tally, same]

/-- Totals of converted amounts are converted totals. -/
theorem groups_hom {Other : Type} [AddCommMonoid Other] (convert : Amount →+ Other) (entries : List (Key × Amount)) :
    groups (entries.map fun entry => (entry.1, convert entry.2)) =
      (groups entries).map fun row => (row.1, convert row.2.1, row.2.2) := by
  have keys : (entries.map fun entry => (entry.1, convert entry.2)).map Prod.fst = entries.map Prod.fst := by
    rw [List.map_map]
    rfl
  have converted : ∀ key, amounts (entries.map fun entry => (entry.1, convert entry.2)) key =
      (amounts entries key).map convert := by
    intro key
    rw [amounts, amounts, List.filter_map, List.map_map, List.map_map]
    rfl
  rw [groups, keys, groups, List.map_map]
  refine List.map_congr_left fun key _ => ?_
  rw [converted, Function.comp_apply, map_list_sum, List.length_map]

end Tally

end Terrasync.Lib
