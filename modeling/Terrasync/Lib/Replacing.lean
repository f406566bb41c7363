import Mathlib.Data.List.Induction
import Mathlib.Data.List.Nodup

/-! Tables that keep the last row inserted for each key. -/

set_option autoImplicit false

namespace Terrasync.Lib

section Replacing

variable {Row Key : Type} [DecidableEq Key] (key : Row → Key)

/-- The row inserted last for a key. -/
def latest (rows : List Row) (wanted : Key) : Option Row :=
  rows.reverse.find? fun row => key row = wanted

/-- The rows that no later row of the same key replaces. -/
def surviving : List Row → List Row
  | [] => []
  | row :: rest =>
      if rest.any fun other => key other = key row then surviving rest else row :: surviving rest

variable {key} {rows : List Row} {row : Row} {wanted : Key}

theorem latest_append (rows later : List Row) (wanted : Key) :
    latest key (rows ++ later) wanted = (latest key later wanted).or (latest key rows wanted) := by
  rw [latest, List.reverse_append, List.find?_append]
  rfl

theorem key_of_latest (found : latest key rows wanted = some row) : key row = wanted := by
  have matched := List.find?_some found
  exact of_decide_eq_true matched

theorem mem_of_latest (found : latest key rows wanted = some row) : row ∈ rows :=
  List.mem_reverse.1 (List.mem_of_find?_eq_some found)

theorem latest_eq_none : latest key rows wanted = none ↔ ∀ row ∈ rows, key row ≠ wanted := by
  simp only [latest, List.find?_eq_none, List.mem_reverse, decide_eq_true_eq, ne_eq]

theorem latest_isSome (member : row ∈ rows) : (latest key rows (key row)).isSome = true := by
  rw [Option.isSome_iff_ne_none]
  exact fun none => latest_eq_none.1 none row member rfl

theorem latest_eq_getLast? (rows : List Row) (wanted : Key) :
    latest key rows wanted = (rows.filter fun row => key row = wanted).getLast? := by
  rw [latest, ← List.head?_filter, List.filter_reverse, List.head?_reverse]

/-- A filter on the keys keeps or drops all rows of a key. -/
theorem latest_filter (keeps : Key → Bool) (rows : List Row) (wanted : Key) :
    latest key (rows.filter fun row => keeps (key row)) wanted =
      if keeps wanted then latest key rows wanted else none := by
  rw [latest, ← List.filter_reverse, List.find?_filter]
  cases kept : keeps wanted with
  | false =>
      simp only [Bool.false_eq_true, if_false, List.find?_eq_none,
        decide_eq_true_eq, not_and]
      intro row _ keep same
      rw [same, kept] at keep
      exact Bool.false_ne_true keep
  | true =>
      simp only [if_true, latest]
      congr 1
      funext row
      by_cases same : key row = wanted
      · simp [same, kept]
      · simp [same]

/-- A filter that keeps the row inserted last keeps it last. -/
theorem latest_filter_of_kept {keeps : Row → Bool} (found : latest key rows wanted = some row)
    (kept : keeps row = true) : latest key (rows.filter keeps) wanted = some row := by
  obtain ⟨here, before, after, split, none⟩ := List.find?_eq_some_iff_append.1 found
  rw [latest, ← List.filter_reverse, List.find?_filter, split]
  apply List.find?_eq_some_iff_append.2
  refine ⟨?_, before, after, rfl, ?_⟩
  · simp [kept, of_decide_eq_true here]
  · intro other member
    have missed := none other member
    simp only [Bool.not_eq_true', decide_eq_false_iff_not] at missed
    simp [missed]

theorem latest_map {Source : Type} (project : Source → Row) (sources : List Source) (wanted : Key) :
    latest key (sources.map project) wanted =
      (latest (fun source => key (project source)) sources wanted).map project := by
  rw [latest, latest, ← List.map_reverse, List.find?_map]
  rfl

theorem mem_surviving : row ∈ surviving key rows ↔ latest key rows (key row) = some row := by
  induction rows with
  | nil => simp only [surviving, List.not_mem_nil, latest, List.reverse_nil, List.find?_nil, reduceCtorEq]
  | cons first rest ih =>
      have split : latest key (first :: rest) (key row) =
          (latest key rest (key row)).or (latest key [first] (key row)) := latest_append [first] rest _
      have single : latest key [first] (key row) = if key first = key row then some first else none := by
        simp only [latest, List.reverse_singleton, List.find?_singleton, decide_eq_true_eq]
      rw [surviving, split, single]
      by_cases later : rest.any fun other => key other = key first
      · rw [if_pos later, ih]
        obtain ⟨other, member, same⟩ := List.any_eq_true.1 later
        by_cases here : key first = key row
        · have some := @latest_isSome _ _ _ key _ _ member
          rw [of_decide_eq_true same, here] at some
          obtain ⟨found, equal⟩ := Option.isSome_iff_exists.1 some
          rw [equal, Option.some_or]
        · rw [if_neg here, Option.or_none]
      · rw [if_neg later, List.mem_cons, ih]
        by_cases here : key first = key row
        · have none : latest key rest (key row) = none := latest_eq_none.2 fun other member same =>
            later (List.any_eq_true.2 ⟨other, member, decide_eq_true (same.trans here.symm)⟩)
          rw [none, if_pos here, Option.none_or, Option.some.injEq]
          constructor
          · rintro (same | impossible)
            · exact same.symm
            · exact absurd impossible (Option.some_ne_none _).symm
          · exact fun same => .inl same.symm
        · rw [if_neg here, Option.or_none]
          refine ⟨fun member => member.resolve_left fun same => here (congrArg key same.symm), .inr⟩

theorem nodup_surviving (rows : List Row) : (surviving key rows).Nodup := by
  induction rows with
  | nil => exact List.nodup_nil
  | cons first rest ih =>
      rw [surviving]
      split
      · exact ih
      · next fresh =>
          refine List.nodup_cons.2 ⟨fun member => fresh ?_, ih⟩
          have found := mem_of_latest (mem_surviving.1 member)
          exact List.any_eq_true.2 ⟨first, found, decide_eq_true rfl⟩

theorem latest_filter_surviving (keeps : Row → Bool) (rows : List Row) (wanted : Key) :
    latest key ((surviving key rows).filter keeps) wanted = (latest key rows wanted).filter keeps := by
  have member : ∀ row, latest key ((surviving key rows).filter keeps) wanted = some row →
      latest key rows wanted = some row ∧ keeps row = true := by
    intro row found
    obtain ⟨survives, kept⟩ := List.mem_filter.1 (mem_of_latest found)
    rw [← key_of_latest found]
    exact ⟨mem_surviving.1 survives, kept⟩
  cases found : latest key rows wanted with
  | none =>
      rw [Option.filter_none, Option.eq_none_iff_forall_ne_some]
      intro row here
      rw [(member row here).1] at found
      exact Option.some_ne_none _ found
  | some row =>
      have here := key_of_latest found
      cases kept : keeps row with
      | true =>
          have survives : row ∈ (surviving key rows).filter keeps :=
            List.mem_filter.2 ⟨mem_surviving.2 (by rw [here, found]), kept⟩
          obtain ⟨other, last⟩ := Option.isSome_iff_exists.1 (latest_isSome survives : (latest key _ (key row)).isSome = true)
          rw [here] at last
          have same := (member other last).1
          rw [found, Option.some.injEq] at same
          rw [last, ← same, Option.filter_some, if_pos kept]
      | false =>
          rw [Option.filter_some, kept, if_neg Bool.false_ne_true, Option.eq_none_iff_forall_ne_some]
          intro other last
          obtain ⟨same, keptOther⟩ := member other last
          rw [found, Option.some.injEq] at same
          rw [same, keptOther] at kept
          cases kept

/-- Only one row of the table has the key. -/
theorem latest_of_unique (member : row ∈ rows) (unique : ∀ other ∈ rows, key other = key row → other = row) :
    latest key rows (key row) = some row := by
  obtain ⟨found, here⟩ := Option.isSome_iff_exists.1 ((latest_isSome member : (latest key rows (key row)).isSome = true))
  rw [here, unique found (mem_of_latest here) (key_of_latest here)]

/-- A table without two rows of one key. -/
theorem latest_iff_of_unique (unique : ∀ first ∈ rows, ∀ second ∈ rows, key first = key second → first = second) :
    latest key rows wanted = some row ↔ row ∈ rows ∧ key row = wanted := by
  constructor
  · exact fun found => ⟨mem_of_latest found, key_of_latest found⟩
  · rintro ⟨member, rfl⟩
    exact latest_of_unique member fun other inside same => unique other inside row member same

/-- Without two rows of one key the order of the rows does not matter. -/
theorem latest_of_perm {others : List Row} (perm : others.Perm rows)
    (unique : ∀ first ∈ rows, ∀ second ∈ rows, key first = key second → first = second) :
    latest key others wanted = latest key rows wanted := by
  have uniqueOthers : ∀ first ∈ others, ∀ second ∈ others, key first = key second → first = second :=
    fun first here second there => unique first (perm.mem_iff.1 here) second (perm.mem_iff.1 there)
  refine Option.ext fun row => ?_
  rw [latest_iff_of_unique uniqueOthers, latest_iff_of_unique unique, perm.mem_iff]

theorem latest_surviving (rows : List Row) (wanted : Key) :
    latest key (surviving key rows) wanted = latest key rows wanted := by
  have kept : latest key ((surviving key rows).filter fun _ => true) wanted =
      (latest key rows wanted).filter fun _ => true := latest_filter_surviving _ rows wanted
  rw [List.filter_true] at kept
  rw [kept]
  cases latest key rows wanted with
  | none => rfl
  | some row => rfl

/-- Two keys that tell the same rows apart keep the same rows. -/
theorem surviving_congr {Other : Type} [DecidableEq Other] {other : Row → Other} {rows : List Row}
    (same : ∀ first ∈ rows, ∀ second ∈ rows, key first = key second ↔ other first = other second) :
    surviving key rows = surviving other rows := by
  induction rows with
  | nil => rfl
  | cons first rest ih =>
      have inner := ih fun row member later laterMember =>
        same row (List.mem_cons_of_mem _ member) later (List.mem_cons_of_mem _ laterMember)
      have replaced : (rest.any fun row => key row = key first) = rest.any fun row => other row = other first := by
        rw [Bool.eq_iff_iff, List.any_eq_true, List.any_eq_true]
        refine exists_congr fun row => and_congr_right fun member => ?_
        rw [decide_eq_true_eq, decide_eq_true_eq]
        exact same row (List.mem_cons_of_mem _ member) first List.mem_cons_self
      rw [surviving, surviving, replaced, inner]

/-- A filter on the keys commutes with the replacement. -/
theorem surviving_filter (keeps : Key → Bool) (rows : List Row) :
    (surviving key rows).filter (fun row => keeps (key row)) =
      surviving key (rows.filter fun row => keeps (key row)) := by
  induction rows with
  | nil => rfl
  | cons first rest ih =>
      cases kept : keeps (key first) with
      | false =>
          rw [List.filter_cons_of_neg (by simp [kept]), ← ih, surviving]
          split
          · rfl
          · rw [List.filter_cons_of_neg (by simp [kept])]
      | true =>
          have replaced : ((rest.filter fun row => keeps (key row)).any fun row => key row = key first) =
              rest.any fun row => key row = key first := by
            rw [List.any_filter]
            congr 1
            funext row
            by_cases same : key row = key first
            · simp [same, kept]
            · simp [same]
          rw [List.filter_cons_of_pos (by exact kept), surviving, surviving, replaced]
          split
          · exact ih
          · rw [List.filter_cons_of_pos (by exact kept), ih]

theorem surviving_map {Source : Type} (project : Source → Row) (sources : List Source) :
    surviving key (sources.map project) = (surviving (fun source => key (project source)) sources).map project := by
  induction sources with
  | nil => rfl
  | cons first rest ih =>
      have replaced : ((rest.map project).any fun row => key row = key (project first)) =
          rest.any fun source => key (project source) = key (project first) := List.any_map
      rw [List.map_cons, surviving, surviving, replaced, ih]
      split
      · rfl
      · rfl

/-- Later rows replace those of their keys. -/
theorem surviving_append (rows later : List Row) :
    surviving key (rows ++ later) =
      (surviving key rows).filter (fun row => !later.any fun other => key other = key row) ++ surviving key later := by
  induction rows with
  | nil => rfl
  | cons first rest ih =>
      rw [List.cons_append, surviving, surviving, List.any_append, ih]
      cases repeated : rest.any fun other => key other = key first with
      | true => rfl
      | false =>
          rw [Bool.false_or, if_neg Bool.false_ne_true]
          cases replaced : later.any fun other => key other = key first with
          | true => rw [if_pos rfl, List.filter_cons_of_neg (by simp only [replaced]; exact Bool.false_ne_true)]
          | false =>
              rw [if_neg Bool.false_ne_true, List.filter_cons_of_pos (by simp only [replaced, Bool.not_false]),
                List.cons_append]

/-- The rows that no earlier row of the same key precedes. -/
def firsts (key : Row → Key) (rows : List Row) : List Row := (surviving key rows.reverse).reverse

theorem firsts_concat (rows : List Row) (row : Row) :
    firsts key (rows ++ [row]) =
      if rows.any fun other => key other = key row then firsts key rows else firsts key rows ++ [row] := by
  rw [firsts, List.reverse_append, List.reverse_singleton, List.singleton_append, surviving, List.any_reverse]
  split
  · rfl
  · rw [List.reverse_cons, firsts]

theorem mem_firsts : row ∈ firsts key rows ↔ (rows.find? fun other => key other = key row) = some row := by
  rw [firsts, List.mem_reverse, mem_surviving, latest, List.reverse_reverse]

theorem nodup_firsts (rows : List Row) : ((firsts key rows).map key).Nodup := by
  refine (List.nodup_reverse.mpr (nodup_surviving rows.reverse)).map_on fun first here second there same => ?_
  have found := mem_firsts.mp here
  rw [same, mem_firsts.mp there] at found
  exact (Option.some.inj found).symm

section Versions

variable (version : Row → Nat)

/-- The row of the greatest version of a key, the last inserted among equal ones. -/
def newest (key : Row → Key) (rows : List Row) (wanted : Key) : Option Row :=
  rows.foldl (fun best row =>
    if key row = wanted ∧ best.all (fun older => version older ≤ version row) then some row else best) none

theorem key_of_newest (found : newest version key rows wanted = some row) : key row = wanted := by
  induction rows using List.reverseRecOn generalizing row with
  | nil => cases found
  | append_singleton rows last ih =>
      rw [newest, List.foldl_append, List.foldl_cons, List.foldl_nil, ← newest] at found
      split at found
      · next here =>
          cases found
          exact here.1
      · exact ih found

theorem mem_of_newest (found : newest version key rows wanted = some row) : row ∈ rows := by
  induction rows using List.reverseRecOn generalizing row with
  | nil => cases found
  | append_singleton rows last ih =>
      rw [newest, List.foldl_append, List.foldl_cons, List.foldl_nil, ← newest] at found
      split at found
      · cases found
        exact List.mem_append_right _ List.mem_cons_self
      · exact List.mem_append_left _ (ih found)

/-- Later rows of one version, none of them older than the rows before. -/
theorem newest_append (rows later : List Row) (wanted : Key) {level : Nat}
    (leveled : ∀ row ∈ later, version row = level) (older : ∀ row ∈ rows, version row ≤ level) :
    newest version key (rows ++ later) wanted = (latest key later wanted).or (newest version key rows wanted) := by
  induction later using List.reverseRecOn with
  | nil => rw [List.append_nil, latest, List.reverse_nil, List.find?_nil, Option.none_or]
  | append_singleton later row ih =>
      have before := ih fun other member => leveled other (List.mem_append_left _ member)
      have last := leveled row (List.mem_append_right _ List.mem_cons_self)
      rw [newest, ← List.append_assoc, List.foldl_append, List.foldl_cons, List.foldl_nil, ← newest, before,
        latest_append]
      by_cases here : key row = wanted
      · have found : latest key [row] wanted = some row := by simp [latest, here]
        have above : ((latest key later wanted).or (newest version key rows wanted)).all
            (fun other => version other ≤ version row) = true := by
          cases best : (latest key later wanted).or (newest version key rows wanted) with
          | none => rfl
          | some other =>
              rw [Option.all_some, decide_eq_true_eq, last]
              rcases Option.or_eq_some_iff.mp best with inside | ⟨-, inside⟩
              · exact Nat.le_of_eq (leveled other (List.mem_append_left _ (mem_of_latest inside)))
              · exact older other (mem_of_newest version inside)
        rw [if_pos ⟨here, above⟩, found, Option.some_or, Option.some_or]
      · have found : latest key [row] wanted = none := by simp [latest, here]
        rw [if_neg fun both => here both.1, found, Option.none_or]

theorem newest_filter (keeps : Key → Bool) (rows : List Row) {wanted : Key} (kept : keeps wanted = true) :
    newest version key (rows.filter fun row => keeps (key row)) wanted = newest version key rows wanted := by
  rw [newest, newest, List.foldl_filter]
  congr 1
  funext best row
  split
  · rfl
  · next dropped =>
      have other : key row ≠ wanted := by
        rintro rfl
        exact dropped kept
      rw [if_neg fun both => other both.1]

/-- The newest row of each key. -/
def newestRows (key : Row → Key) (rows : List Row) : List Row :=
  (surviving key rows).filterMap fun row => newest version key rows (key row)

theorem newestRows_filter (keeps : Key → Bool) (rows : List Row) :
    (newestRows version key rows).filter (fun row => keeps (key row)) =
      newestRows version key (rows.filter fun row => keeps (key row)) := by
  rw [newestRows, newestRows, ← surviving_filter, List.filter_filterMap, List.filterMap_filter]
  refine List.filterMap_congr fun row _ => ?_
  cases kept : keeps (key row) with
  | true =>
      rw [if_pos rfl, newest_filter version keeps rows kept]
      cases found : newest version key rows (key row) with
      | none => rfl
      | some best =>
          have here := key_of_newest version found
          rw [Option.filter_some, here, kept, if_pos rfl]
  | false =>
      rw [if_neg Bool.false_ne_true]
      cases found : newest version key rows (key row) with
      | none => rfl
      | some best =>
          have here := key_of_newest version found
          rw [Option.filter_some, here, kept, if_neg Bool.false_ne_true]

end Versions

end Replacing

end Terrasync.Lib
