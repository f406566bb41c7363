import Mathlib.Data.List.Sort
import Terrasync.Catalogue.InputBinding

/-! The binding succeeds exactly when classifications and observations are consistent, and
then reports each classified key once, where the input has it first. -/

set_option autoImplicit false

namespace Terrasync.Catalogue.InputBinding

open Lib (binarySearchBy firsts)

/-! ### Sorted differences -/

section Dedup

variable {Item : Type} [DecidableEq Item]

theorem dedup_cons (first : Item) (rest : List Item) :
    (dedup (first :: rest) = first :: dedup rest ∧ (dedup rest).head? ≠ some first) ∨
      (dedup (first :: rest) = dedup rest ∧ (dedup rest).head? = some first) := by
  rw [dedup]
  split
  · next none =>
      rw [none]
      exact .inl ⟨rfl, nofun⟩
  · next second others found =>
      rw [found]
      by_cases same : first = second
      · rw [if_pos same, same]
        exact .inr ⟨rfl, rfl⟩
      · rw [if_neg same]
        exact .inl ⟨rfl, fun equal => same (Option.some.inj equal).symm⟩

theorem dedup_sublist (items : List Item) : (dedup items).Sublist items := by
  induction items with
  | nil => exact .slnil
  | cons first rest ih =>
      rcases dedup_cons first rest with ⟨kept, -⟩ | ⟨dropped, -⟩
      · rw [kept]
        exact ih.cons_cons first
      · rw [dropped]
        exact ih.cons first

theorem mem_dedup {items : List Item} {item : Item} : item ∈ dedup items ↔ item ∈ items := by
  refine ⟨fun member => (dedup_sublist items).subset member, fun member => ?_⟩
  induction items with
  | nil => exact member
  | cons first rest ih =>
      rcases dedup_cons first rest with ⟨kept, -⟩ | ⟨dropped, head⟩
      · rw [kept]
        rcases List.mem_cons.mp member with rfl | inside
        · exact List.mem_cons_self
        · exact List.mem_cons_of_mem _ (ih inside)
      · rw [dropped]
        rcases List.mem_cons.mp member with rfl | inside
        · exact List.mem_of_head? head
        · exact ih inside

theorem dedup_chain (items : List Item) : (dedup items).IsChain fun first second => first ≠ second := by
  induction items with
  | nil => exact .nil
  | cons first rest ih =>
      rcases dedup_cons first rest with ⟨kept, head⟩ | ⟨dropped, -⟩
      · rw [kept]
        cases later : dedup rest with
        | nil => exact .singleton first
        | cons second others =>
            rw [later] at ih head
            exact .cons_cons (fun same => head (congrArg some same.symm)) ih
      · rw [dropped]
        exact ih

end Dedup

/-- One key is classified in two ways. -/
def Contradictory (differences : List CatalogueDifference) : Prop :=
  ∃ first ∈ differences, ∃ second ∈ differences, first.key = second.key ∧ first.kind ≠ second.kind

theorem difference_ext {first second : CatalogueDifference} (key : first.key = second.key)
    (kind : first.kind = second.kind) : first = second := by
  have pair := toLex.injective key
  cases first
  cases second
  cases pair
  cases kind
  rfl

theorem conflicting_contradicts {differences : List CatalogueDifference} (conflict : conflicting differences = true)
    (chain : differences.IsChain fun first second => first ≠ second) : Contradictory differences := by
  induction differences with
  | nil => cases conflict
  | cons first rest ih =>
      cases chain with
      | singleton => cases conflict
      | @cons_cons _ second others apart later =>
          rw [conflicting, Bool.or_eq_true, decide_eq_true_eq] at conflict
          rcases conflict with same | inside
          · exact ⟨first, List.mem_cons_self, second, List.mem_cons_of_mem _ List.mem_cons_self, same,
              fun kind => apart (difference_ext same kind)⟩
          · obtain ⟨one, here, other, there, key, kind⟩ := ih inside later
            exact ⟨one, List.mem_cons_of_mem _ here, other, List.mem_cons_of_mem _ there, key, kind⟩

/-- Without equal neighbours, sorted keys increase. -/
theorem increasing_of_sorted {differences : List CatalogueDifference}
    (sorted : differences.Pairwise fun first second => first.key ≤ second.key)
    (clear : conflicting differences = false) :
    differences.Pairwise fun first second => first.key < second.key := by
  induction differences with
  | nil => exact .nil
  | cons first rest ih =>
      obtain ⟨least, later⟩ := List.pairwise_cons.mp sorted
      cases rest with
      | nil => exact List.pairwise_singleton _ _
      | cons second others =>
          rw [conflicting, Bool.or_eq_false_iff, decide_eq_false_iff_not] at clear
          have increasing := ih later clear.2
          have ahead := lt_of_le_of_ne (least second List.mem_cons_self) clear.1
          refine List.pairwise_cons.mpr ⟨fun third member => ?_, increasing⟩
          rcases List.mem_cons.mp member with rfl | inside
          · exact ahead
          · exact lt_trans ahead ((List.pairwise_cons.mp increasing).1 third inside)

section Increasing

variable {differences : List CatalogueDifference}
  (increasing : differences.Pairwise fun first second => first.key < second.key)

include increasing

theorem unique_key {first second : CatalogueDifference} (here : first ∈ differences) (there : second ∈ differences)
    (same : first.key = second.key) : first = second := by
  have distinct : (differences.map CatalogueDifference.key).Nodup :=
    List.pairwise_map.mpr (increasing.imp ne_of_lt)
  exact List.inj_on_of_nodup_map distinct here there same

/-- The search finds the difference of a key, if there is one. -/
theorem search_cases (key : Key) :
    (binarySearchBy (fun row : CatalogueDifference => cmp row.key key) differences = none ∧
        ∀ row ∈ differences, row.key ≠ key) ∨
      ∃ index row, binarySearchBy (fun row : CatalogueDifference => cmp row.key key) differences = some index ∧
        differences[index]? = some row ∧ row.key = key := by
  have ordered : Lib.Ordered (fun row : CatalogueDifference => cmp row.key key) differences := by
    refine increasing.imp fun {first second} before => ⟨fun greater => ?_, fun equal => ?_⟩
    · exact cmp_eq_gt_iff _ _ |>.mpr (lt_trans ((cmp_eq_gt_iff _ _).mp greater) before)
    · rw [(cmp_eq_eq_iff _ _).mp equal] at before
      exact fun smaller => lt_asymm before ((cmp_eq_lt_iff _ _).mp smaller)
  cases found : binarySearchBy (fun row : CatalogueDifference => cmp row.key key) differences with
  | none =>
      refine .inl ⟨rfl, fun row member same => ?_⟩
      exact Lib.binarySearchBy_none ordered found row member ((cmp_eq_eq_iff _ _).mpr same)
  | some index =>
      obtain ⟨row, here, equal⟩ := Lib.binarySearchBy_some found
      exact .inr ⟨index, row, rfl, here, (cmp_eq_eq_iff _ _).mp equal⟩

end Increasing

/-! ### Observations of one key -/

section Observations

variable {Facts : Type} [DecidableEq Facts]

/-- What two observations of a key must have in common. -/
def content (item : ObservedItem Facts) : VersionRecord Facts ⊕ ObservedEntry Facts :=
  match item.version with
  | some record => .inl record
  | none => .inr item.entry

theorem sameObservation_iff {previous item : ObservedItem Facts} :
    sameObservation previous item = true ↔ content previous = content item := by
  rw [sameObservation, content, content]
  cases previous.version <;> cases item.version <;> simp

/-- The items whose keys are classified. -/
def reported (differences : List CatalogueDifference) (items : List (ObservedItem Facts)) :
    List (ObservedItem Facts) :=
  items.filter fun item => differences.any fun row => row.key = item.key

omit [DecidableEq Facts] in
theorem mem_reported {differences : List CatalogueDifference} {items : List (ObservedItem Facts)}
    {item : ObservedItem Facts} :
    item ∈ reported differences items ↔ item ∈ items ∧ ∃ row ∈ differences, row.key = item.key := by
  rw [reported, List.mem_filter, List.any_eq_true]
  simp only [decide_eq_true_eq]

/-- The observations of each key agree. -/
def Agreeing (items : List (ObservedItem Facts)) : Prop :=
  ∀ first ∈ items, ∀ second ∈ items, first.key = second.key → sameObservation first second = true

theorem Agreeing.of_subset {items others : List (ObservedItem Facts)} (agreeing : Agreeing others)
    (subset : items ⊆ others) : Agreeing items :=
  fun first here second there => agreeing first (subset here) second (subset there)

/-- An item that agrees with one of its key agrees with all of them. -/
theorem Agreeing.concat {items : List (ObservedItem Facts)} {previous item : ObservedItem Facts}
    (agreeing : Agreeing items) (member : previous ∈ items) (key : previous.key = item.key)
    (same : sameObservation previous item = true) : Agreeing (items ++ [item]) := by
  have equal := sameObservation_iff.mp same
  have withItem {other : ObservedItem Facts} (inside : other ∈ items) (named : other.key = item.key) :
      content other = content item :=
    (sameObservation_iff.mp (agreeing other inside previous member (named.trans key.symm))).trans equal
  intro first here second there named
  rw [sameObservation_iff]
  rcases List.mem_append.mp here with old | last <;> rcases List.mem_append.mp there with known | new
  · exact sameObservation_iff.mp (agreeing first old second known named)
  · rw [List.mem_singleton.mp new] at named ⊢
    exact withItem old named
  · rw [List.mem_singleton.mp last] at named ⊢
    exact (withItem known named.symm).symm
  · rw [List.mem_singleton.mp last, List.mem_singleton.mp new]

/-- So does an item whose key is new. -/
theorem Agreeing.concat_fresh {items : List (ObservedItem Facts)} {item : ObservedItem Facts}
    (agreeing : Agreeing items) (fresh : ∀ other ∈ items, other.key ≠ item.key) : Agreeing (items ++ [item]) := by
  intro first here second there named
  rcases List.mem_append.mp here with old | last <;> rcases List.mem_append.mp there with known | new
  · exact agreeing first old second known named
  · rw [List.mem_singleton.mp new] at named
    exact absurd named (fresh first old)
  · rw [List.mem_singleton.mp last] at named
    exact absurd named.symm (fresh second known)
  · rw [List.mem_singleton.mp last, List.mem_singleton.mp new]
    exact sameObservation_iff.mpr rfl

/-! ### The loop -/

variable {differences : List CatalogueDifference}

/-- What the loop has bound after some items. -/
structure BoundTo (differences : List CatalogueDifference) (seen : List (ObservedItem Facts))
    (bound : Bound Facts) : Prop where
  items : bound.changes.map CatalogueChange.item = firsts ObservedItem.key (reported differences seen)
  kinds : ∀ change ∈ bound.changes, ∃ row ∈ differences, row.key = change.item.key ∧ row.kind = change.kind
  consumed : bound.consumed = differences.map fun row =>
    bound.changes.findIdx? fun change => change.item.key = row.key

omit [DecidableEq Facts] in
theorem boundTo_nil (differences : List CatalogueDifference) :
    BoundTo differences ([] : List (ObservedItem Facts)) ⟨List.replicate differences.length none, []⟩ := by
  refine ⟨rfl, nofun, ?_⟩
  simp only [List.findIdx?_nil, List.map_const']

omit [DecidableEq Facts] in
/-- A key is bound once one of its items is seen. -/
theorem BoundTo.bound_iff {seen : List (ObservedItem Facts)} {bound : Bound Facts}
    (boundTo : BoundTo differences seen bound) {key : Key} :
    (∃ change ∈ bound.changes, change.item.key = key) ↔ ∃ item ∈ reported differences seen, item.key = key := by
  constructor
  · rintro ⟨change, member, rfl⟩
    have first : change.item ∈ firsts ObservedItem.key (reported differences seen) :=
      boundTo.items ▸ List.mem_map_of_mem member
    exact ⟨change.item, List.mem_of_find?_eq_some (Lib.mem_firsts.mp first), rfl⟩
  · rintro ⟨item, member, rfl⟩
    cases found : (reported differences seen).find? fun other => other.key = item.key with
    | none => exact absurd (decide_eq_true rfl) (List.find?_eq_none.mp found item member)
    | some first =>
        have named : first.key = item.key := by simpa using List.find?_some found
        have earliest : first ∈ bound.changes.map CatalogueChange.item := by
          rw [boundTo.items, Lib.mem_firsts, named]
          exact found
        obtain ⟨change, inside, rfl⟩ := List.mem_map.mp earliest
        exact ⟨change, inside, named⟩

omit [DecidableEq Facts] in
theorem reported_concat (seen : List (ObservedItem Facts)) (item : ObservedItem Facts) :
    reported differences (seen ++ [item]) =
      reported differences seen ++ if differences.any fun row => row.key = item.key then [item] else [] := by
  rw [reported, List.filter_append, List.filter_singleton, cond_eq_ite]
  rfl

omit [DecidableEq Facts] in
/-- An item of a key that is bound changes nothing. -/
theorem BoundTo.seen_again {seen : List (ObservedItem Facts)} {bound : Bound Facts}
    (boundTo : BoundTo differences seen bound) {item previous : ObservedItem Facts}
    (member : previous ∈ reported differences seen) (key : previous.key = item.key) :
    BoundTo differences (seen ++ [item]) bound := by
  refine ⟨?_, boundTo.kinds, boundTo.consumed⟩
  rw [boundTo.items, reported_concat]
  split
  · have earlier : ((reported differences seen).any fun other => other.key = item.key) = true :=
      List.any_eq_true.mpr ⟨previous, member, decide_eq_true key⟩
    rw [Lib.firsts_concat, if_pos earlier]
  · rw [List.append_nil]

omit [DecidableEq Facts] in
/-- The first item of a classified key is bound behind the others. -/
theorem BoundTo.bind (increasing : differences.Pairwise fun first second => first.key < second.key)
    {seen : List (ObservedItem Facts)} {bound : Bound Facts} (boundTo : BoundTo differences seen bound)
    {item : ObservedItem Facts} {index : Nat} {row : CatalogueDifference} (here : differences[index]? = some row)
    (key : row.key = item.key) (fresh : ∀ other ∈ reported differences seen, other.key ≠ item.key) :
    BoundTo differences (seen ++ [item])
      ⟨bound.consumed.set index (some bound.changes.length), bound.changes ++ [⟨item, row.kind⟩]⟩ := by
  obtain ⟨within, inside⟩ := List.getElem?_eq_some_iff.mp here
  have classified : (differences.any fun other => other.key = item.key) = true :=
    List.any_eq_true.mpr ⟨row, List.mem_of_getElem? here, decide_eq_true key⟩
  have unbound : ∀ change ∈ bound.changes, change.item.key ≠ item.key := by
    intro change member same
    obtain ⟨other, among, named⟩ := boundTo.bound_iff.mp ⟨change, member, same⟩
    exact fresh other among named
  refine ⟨?_, ?_, ?_⟩
  · have none_earlier : ¬ ((reported differences seen).any fun other => other.key = item.key) = true := by
      intro earlier
      obtain ⟨other, member, same⟩ := List.any_eq_true.mp earlier
      exact fresh other member (of_decide_eq_true same)
    rw [reported_concat, if_pos classified, Lib.firsts_concat, if_neg none_earlier, List.map_append, boundTo.items]
    rfl
  · intro change member
    rcases List.mem_append.mp member with old | new
    · exact boundTo.kinds change old
    · rw [List.mem_singleton.mp new]
      exact ⟨row, List.mem_of_getElem? here, key, rfl⟩
  · rw [boundTo.consumed]
    refine List.ext_getElem? fun position => ?_
    rw [List.getElem?_set, List.getElem?_map, List.getElem?_map, List.length_map]
    by_cases same : index = position
    · subst same
      have missing : bound.changes.findIdx? (fun change => decide (change.item.key = row.key)) = none :=
        List.findIdx?_eq_none_iff.mpr fun change member =>
          decide_eq_false (key ▸ unbound change member)
      rw [if_pos rfl, if_pos within, here, Option.map_some, List.findIdx?_append, missing]
      simp [key]
    · rw [if_neg same]
      cases other : differences[position]? with
      | none => rfl
      | some later =>
          have apart : later.key ≠ item.key := by
            intro equal
            obtain ⟨reach, there⟩ := List.getElem?_eq_some_iff.mp other
            have distinct : differences.Nodup := increasing.imp fun smaller equal => absurd (equal ▸ smaller) (lt_irrefl _)
            have rows := unique_key increasing (List.mem_of_getElem? here) (List.mem_of_getElem? other)
              (key.trans equal.symm)
            exact same ((List.Nodup.getElem_inj_iff distinct).mp (inside.trans (rows.trans there.symm)))
          have elsewhere : [(⟨item, row.kind⟩ : CatalogueChange Facts)].findIdx?
              (fun change => decide (change.item.key = later.key)) = none :=
            List.findIdx?_eq_none_iff.mpr fun change member => by
              rw [List.mem_singleton.mp member]
              exact decide_eq_false fun equal => apart equal.symm
          rw [Option.map_some, Option.map_some, List.findIdx?_append, elsewhere, Option.map_none, Option.or_none]

/-- One item: it is bound, passed over, or contradicts an earlier one. -/
theorem bindItem_spec (increasing : differences.Pairwise fun first second => first.key < second.key)
    {seen : List (ObservedItem Facts)} {bound : Bound Facts} (boundTo : BoundTo differences seen bound)
    (agreeing : Agreeing (reported differences seen)) (item : ObservedItem Facts) :
    (∃ next, bindItem differences bound item = .ok next ∧ BoundTo differences (seen ++ [item]) next ∧
        Agreeing (reported differences (seen ++ [item]))) ∨
      ((∃ mismatch, bindItem differences bound item = .error mismatch) ∧
        ¬ Agreeing (reported differences (seen ++ [item]))) := by
  rcases search_cases increasing item.key with ⟨missing, absent⟩ | ⟨index, row, found, here, key⟩
  · have unclassified : ¬ (differences.any fun row => row.key = item.key) = true := by
      intro present
      obtain ⟨row, member, same⟩ := List.any_eq_true.mp present
      exact absent row member (of_decide_eq_true same)
    have same : reported differences (seen ++ [item]) = reported differences seen := by
      rw [reported_concat, if_neg unclassified, List.append_nil]
    refine .inl ⟨bound, by rw [bindItem, missing], ⟨?_, boundTo.kinds, boundTo.consumed⟩, same ▸ agreeing⟩
    rw [same]
    exact boundTo.items
  · have classified : (differences.any fun other => other.key = item.key) = true :=
      List.any_eq_true.mpr ⟨row, List.mem_of_getElem? here, decide_eq_true key⟩
    have consumed : bound.consumed.getD index none =
        bound.changes.findIdx? fun change => change.item.key = row.key := by
      rw [boundTo.consumed, List.getD_eq_getElem?_getD, List.getElem?_map, here]
      rfl
    rw [reported_concat, if_pos classified]
    cases position : bound.changes.findIdx? fun change => change.item.key = row.key with
    | none =>
        have fresh : ∀ other ∈ reported differences seen, other.key ≠ item.key := by
          intro other member same
          obtain ⟨change, inside, named⟩ := boundTo.bound_iff.mpr ⟨other, member, same⟩
          have unnamed := List.findIdx?_eq_none_iff.mp position change inside
          exact of_decide_eq_false unnamed (named.trans key.symm)
        refine .inl ⟨_, ?_, boundTo.bind increasing here key fresh, agreeing.concat_fresh fresh⟩
        rw [bindItem, found]
        simp only [here, consumed, position]
    | some place =>
        obtain ⟨reach, named, -⟩ := List.findIdx?_eq_some_iff_getElem.mp position
        obtain ⟨previous, at_⟩ : ∃ previous, bound.changes[place]? = some previous :=
          ⟨_, List.getElem?_eq_getElem reach⟩
        have same_key : previous.item.key = item.key := by
          rw [(List.getElem?_eq_some_iff.mp at_).2] at named
          exact (of_decide_eq_true named).trans key
        have listed : previous.item ∈ reported differences seen := by
          have first : previous.item ∈ firsts ObservedItem.key (reported differences seen) :=
            boundTo.items ▸ List.mem_map_of_mem (List.mem_of_getElem? at_)
          exact List.mem_of_find?_eq_some (Lib.mem_firsts.mp first)
        by_cases same : sameObservation previous.item item = true
        · refine .inl ⟨bound, ?_, boundTo.seen_again listed same_key, agreeing.concat listed same_key same⟩
          rw [bindItem, found]
          simp only [here, consumed, position, at_, Option.any_some, same, if_true]
        · refine .inr ⟨⟨.conflictingObservations, ?_⟩, fun agree => same ?_⟩
          · rw [bindItem, found]
            simp only [here, consumed, position, at_, Option.any_some, same, if_false, Bool.false_eq_true]
          · exact agree previous.item (List.mem_append_left _ listed) item
              (List.mem_append_right _ (List.mem_singleton.mpr rfl)) same_key

/-- The whole loop. -/
theorem bindItems_spec (increasing : differences.Pairwise fun first second => first.key < second.key)
    {seen : List (ObservedItem Facts)} {bound : Bound Facts} (boundTo : BoundTo differences seen bound)
    (agreeing : Agreeing (reported differences seen)) (items : List (ObservedItem Facts)) :
    (∃ final, items.foldlM (bindItem differences) bound = .ok final ∧ BoundTo differences (seen ++ items) final ∧
        Agreeing (reported differences (seen ++ items))) ∨
      ((∃ mismatch, items.foldlM (bindItem differences) bound = .error mismatch) ∧
        ¬ Agreeing (reported differences (seen ++ items))) := by
  induction items generalizing seen bound with
  | nil =>
      rw [List.append_nil]
      exact .inl ⟨bound, rfl, boundTo, agreeing⟩
  | cons item rest ih =>
      rcases bindItem_spec increasing boundTo agreeing item with
        ⟨next, bindsTo, nextBound, nextAgreeing⟩ | ⟨⟨mismatch, fails⟩, disagree⟩
      · rw [List.append_cons, List.foldlM_cons, bindsTo]
        exact ih nextBound nextAgreeing
      · refine .inr ⟨⟨mismatch, ?_⟩, fun agree => disagree ?_⟩
        · rw [List.foldlM_cons, fails]
          rfl
        · refine agree.of_subset ?_
          rw [List.append_cons seen item rest]
          exact List.filter_subset _ (List.subset_append_left _ _)

/-! ### The whole binding -/

/-- Every classified key is the key of an observation. -/
def Covered (entries : List (ObservedEntry Facts)) (differences : List CatalogueDifference) : Prop :=
  ∀ row ∈ differences, ∃ item ∈ itemsOf entries, item.key = row.key

omit [DecidableEq Facts] in
theorem reported_congr {others : List CatalogueDifference} (same : ∀ row, row ∈ others ↔ row ∈ differences)
    (items : List (ObservedItem Facts)) : reported others items = reported differences items := by
  refine List.filter_congr fun item _ => ?_
  rw [Bool.eq_iff_iff, List.any_eq_true, List.any_eq_true]
  exact exists_congr fun row => and_congr_left fun _ => same row

omit [DecidableEq Facts] in
/-- No position is left free exactly when every classified key was seen. -/
theorem BoundTo.free_iff {entries : List (ObservedEntry Facts)} {bound : Bound Facts}
    (boundTo : BoundTo differences (itemsOf entries) bound) :
    bound.consumed.contains none = false ↔ Covered entries differences := by
  rw [boundTo.consumed, List.contains_eq_mem, decide_eq_false_iff_not, List.mem_map]
  constructor
  · intro used row member
    cases free : bound.changes.findIdx? fun change => change.item.key = row.key with
    | none => exact absurd ⟨row, member, free⟩ used
    | some position =>
        obtain ⟨reach, named, -⟩ := List.findIdx?_eq_some_iff_getElem.mp free
        obtain ⟨item, inside, key⟩ := boundTo.bound_iff.mp
          ⟨bound.changes[position], List.getElem_mem reach, of_decide_eq_true named⟩
        exact ⟨item, (mem_reported.mp inside).1, key⟩
  · rintro covered ⟨row, member, free⟩
    obtain ⟨item, inside, key⟩ := covered row member
    obtain ⟨change, among, named⟩ := boundTo.bound_iff.mpr
      ⟨item, mem_reported.mpr ⟨inside, row, member, key.symm⟩, rfl⟩
    exact of_decide_eq_false (List.findIdx?_eq_none_iff.mp free change among) (named.trans key)

theorem conflicting_iff {sorted : List CatalogueDifference}
    (ordered : sorted.Pairwise fun first second => first.key ≤ second.key) :
    conflicting (dedup sorted) = true ↔ Contradictory sorted := by
  constructor
  · intro conflict
    obtain ⟨first, here, second, there, contradict⟩ := conflicting_contradicts conflict (dedup_chain sorted)
    exact ⟨first, mem_dedup.mp here, second, mem_dedup.mp there, contradict⟩
  · rintro ⟨first, here, second, there, key, kind⟩
    by_contra clear
    have increasing := increasing_of_sorted (ordered.sublist (dedup_sublist sorted)) (Bool.not_eq_true _ ▸ clear)
    rw [unique_key increasing (mem_dedup.mpr here) (mem_dedup.mpr there) key] at kind
    exact kind rfl

/-- What becomes of sorted differences. -/
theorem bindSorted_cases (entries : List (ObservedEntry Facts)) {sorted : List CatalogueDifference}
    (ordered : sorted.Pairwise fun first second => first.key ≤ second.key) :
    (¬ (¬ Contradictory sorted ∧ Covered entries sorted ∧ Agreeing (reported sorted (itemsOf entries))) ∧
        ∃ mismatch, bindSorted entries sorted = .error mismatch) ∨
      ((¬ Contradictory sorted ∧ Covered entries sorted ∧ Agreeing (reported sorted (itemsOf entries))) ∧
        (dedup sorted).Pairwise (fun first second => first.key < second.key) ∧
        ∃ bound, bindSorted entries sorted = .ok (bound.changes, dedup sorted) ∧
          BoundTo (dedup sorted) (itemsOf entries) bound) := by
  have same (items : List (ObservedItem Facts)) : reported (dedup sorted) items = reported sorted items :=
    reported_congr (fun _ => mem_dedup) items
  cases conflict : conflicting (dedup sorted) with
  | true =>
      refine .inl ⟨fun fine => fine.1 ((conflicting_iff ordered).mp conflict), .conflictingClassifications, ?_⟩
      rw [bindSorted, if_pos conflict]
  | false =>
      have increasing := increasing_of_sorted (ordered.sublist (dedup_sublist sorted)) conflict
      have consistent : ¬ Contradictory sorted := by
        rw [← conflicting_iff ordered, conflict]
        exact Bool.false_ne_true
      rcases bindItems_spec increasing (boundTo_nil (dedup sorted)) (fun _ member => absurd member List.not_mem_nil)
        (itemsOf entries) with ⟨bound, binds, boundTo, agreeing⟩ | ⟨⟨mismatch, fails⟩, disagree⟩
      · rw [List.nil_append] at boundTo agreeing
        rw [same] at agreeing
        have covered_iff : Covered entries (dedup sorted) ↔ Covered entries sorted :=
          forall_congr' fun row => imp_congr_left mem_dedup
        cases free : bound.consumed.contains none with
        | true =>
            refine .inl ⟨fun fine => ?_, .classificationKey, ?_⟩
            · rw [boundTo.free_iff.mpr (covered_iff.mpr fine.2.1)] at free
              cases free
            · simp only [bindSorted, conflict, binds, free, if_true, Bool.false_eq_true, if_false]
        | false =>
            refine .inr ⟨⟨consistent, covered_iff.mp (boundTo.free_iff.mp free), agreeing⟩, increasing, bound, ?_,
              boundTo⟩
            simp only [bindSorted, conflict, binds, free, Bool.false_eq_true, if_false]
      · rw [List.nil_append, same] at disagree
        refine .inl ⟨fun fine => disagree fine.2.2, mismatch, ?_⟩
        simp only [bindSorted, conflict, fails, Bool.false_eq_true, if_false]

/-- Without contradictions only the classified keys count, not their order. -/
theorem dedup_eq_of_perm {sorted others : List CatalogueDifference}
    (ordered : sorted.Pairwise fun first second => first.key ≤ second.key)
    (otherOrdered : others.Pairwise fun first second => first.key ≤ second.key) (perm : others.Perm sorted)
    (consistent : ¬ Contradictory sorted) : dedup others = dedup sorted := by
  have otherConsistent : ¬ Contradictory others := by
    rintro ⟨first, here, second, there, contradict⟩
    exact consistent ⟨first, perm.mem_iff.mp here, second, perm.mem_iff.mp there, contradict⟩
  rw [← conflicting_iff ordered, Bool.not_eq_true] at consistent
  rw [← conflicting_iff otherOrdered, Bool.not_eq_true] at otherConsistent
  have increasing := increasing_of_sorted (ordered.sublist (dedup_sublist sorted)) consistent
  have otherIncreasing := increasing_of_sorted (otherOrdered.sublist (dedup_sublist others)) otherConsistent
  have distinct {differences : List CatalogueDifference}
      (ascending : differences.Pairwise fun first second => first.key < second.key) : differences.Nodup :=
    ascending.imp fun smaller equal => absurd (equal ▸ smaller) (lt_irrefl _)
  refine @List.Perm.eq_of_pairwise _ (fun first second => first.key < second.key) _ _
    (fun first second _ _ forward backward => absurd (lt_trans forward backward) (lt_irrefl _))
    otherIncreasing increasing ?_
  refine (List.perm_ext_iff_of_nodup (distinct otherIncreasing) (distinct increasing)).mpr fun row => ?_
  rw [mem_dedup, mem_dedup, perm.mem_iff]

/-- A sort by the keys that may order equal keys in any way. -/
def SortsByKey (sortUnstable : List CatalogueDifference → List CatalogueDifference) : Prop :=
  ∀ differences, (sortUnstable differences).Perm differences ∧
    (sortUnstable differences).Pairwise fun first second => first.key ≤ second.key

section Whole

variable {sortUnstable : List CatalogueDifference → List CatalogueDifference}

/-- The early return for an empty classification is no exception. -/
theorem bindInputOrder_eq (sorts : SortsByKey sortUnstable) (entries : List (ObservedEntry Facts))
    (differences : List CatalogueDifference) :
    bindInputOrder sortUnstable entries differences = bindSorted entries (sortUnstable differences) := by
  rw [bindInputOrder]
  split
  · next empty =>
      rw [List.isEmpty_iff.mp empty, (sorts []).1.eq_nil]
      rcases bindSorted_cases entries List.Pairwise.nil with ⟨flawed, -⟩ | ⟨-, -, bound, binds, boundTo⟩
      · refine absurd ⟨?_, fun row member => absurd member List.not_mem_nil, fun item member => ?_⟩ flawed
        · rintro ⟨row, member, -⟩
          exact absurd member List.not_mem_nil
        · obtain ⟨-, row, inside, -⟩ := mem_reported.mp member
          exact absurd inside List.not_mem_nil
      · rw [binds]
        have none : bound.changes = [] := by
          refine List.eq_nil_iff_forall_not_mem.mpr fun change member => ?_
          obtain ⟨row, inside, -⟩ := boundTo.kinds change member
          exact absurd inside List.not_mem_nil
        rw [none]
        rfl
  · rfl

/-- What is left of a successful binding. -/
theorem bindInputOrder_ok (sorts : SortsByKey sortUnstable) {entries : List (ObservedEntry Facts)}
    {differences left : List CatalogueDifference} {changes : List (CatalogueChange Facts)}
    (binds : bindInputOrder sortUnstable entries differences = .ok (changes, left)) :
    changes.map CatalogueChange.item = firsts ObservedItem.key (reported differences (itemsOf entries)) ∧
      (changes.map fun change => change.item.key).Nodup ∧
      (∀ change ∈ changes, ∃ row ∈ differences, row.key = change.item.key ∧ row.kind = change.kind) ∧
      (∀ row ∈ differences, ∃ change ∈ changes, change.item.key = row.key ∧ change.kind = row.kind) ∧
      (left.map CatalogueDifference.key).Nodup ∧
      ∀ key, key ∈ left.map CatalogueDifference.key ↔ key ∈ differences.map CatalogueDifference.key := by
  obtain ⟨perm, ordered⟩ := sorts differences
  rw [bindInputOrder_eq sorts] at binds
  rcases bindSorted_cases entries ordered with ⟨-, mismatch, fails⟩ | ⟨fine, increasing, bound, succeeds, boundTo⟩
  · rw [fails] at binds
    cases binds
  · rw [succeeds] at binds
    cases binds
    have members (row : CatalogueDifference) : row ∈ dedup (sortUnstable differences) ↔ row ∈ differences :=
      mem_dedup.trans perm.mem_iff
    have items := boundTo.items
    rw [reported_congr members] at items
    have keys : (bound.changes.map fun change => change.item.key).Nodup := by
      have distinct := @Lib.nodup_firsts _ _ _ ObservedItem.key (reported differences (itemsOf entries))
      rw [← items, List.map_map] at distinct
      exact distinct
    refine ⟨items, keys, fun change member => ?_, fun row member => ?_, ?_, fun key => ?_⟩
    · obtain ⟨row, inside, named⟩ := boundTo.kinds change member
      exact ⟨row, (members row).mp inside, named⟩
    · obtain ⟨item, inside, key⟩ := fine.2.1 row (perm.mem_iff.mpr member)
      obtain ⟨change, among, named⟩ := boundTo.bound_iff.mpr
        ⟨item, mem_reported.mpr ⟨inside, row, (members row).mpr member, key.symm⟩, rfl⟩
      obtain ⟨other, classified, same, kind⟩ := boundTo.kinds change among
      refine ⟨change, among, named.trans key, ?_⟩
      rw [← kind, unique_key increasing classified ((members row).mpr member) (same.trans (named.trans key))]
    · exact List.pairwise_map.mpr (increasing.imp ne_of_lt)
    · rw [List.mem_map, List.mem_map]
      exact exists_congr fun row => and_congr_left fun _ => members row

/-- When the binding succeeds, what it binds, and that the order of the classification
does not matter. -/
theorem bind_input_order_exact (sorts : SortsByKey sortUnstable) (entries : List (ObservedEntry Facts))
    (differences : List CatalogueDifference) :
    ((∃ changes left, bindInputOrder sortUnstable entries differences = .ok (changes, left)) ↔
      ¬ Contradictory differences ∧ Covered entries differences ∧
        Agreeing (reported differences (itemsOf entries))) ∧
    (∀ changes left, bindInputOrder sortUnstable entries differences = .ok (changes, left) →
      changes.map CatalogueChange.item = firsts ObservedItem.key (reported differences (itemsOf entries)) ∧
      (changes.map fun change => change.item.key).Nodup ∧
      (∀ change ∈ changes, ∃ row ∈ differences, row.key = change.item.key ∧ row.kind = change.kind) ∧
      (∀ row ∈ differences, ∃ change ∈ changes, change.item.key = row.key ∧ change.kind = row.kind) ∧
      (left.map CatalogueDifference.key).Nodup ∧
      ∀ key, key ∈ left.map CatalogueDifference.key ↔ key ∈ differences.map CatalogueDifference.key) ∧
    ∀ permuted, permuted.Perm differences →
      bindInputOrder sortUnstable entries permuted = bindInputOrder sortUnstable entries differences := by
  obtain ⟨perm, ordered⟩ := sorts differences
  have contradictory : Contradictory (sortUnstable differences) ↔ Contradictory differences := by
    simp only [Contradictory, perm.mem_iff]
  refine ⟨?_, fun changes left binds => bindInputOrder_ok sorts binds, fun permuted reordered => ?_⟩
  · have covered : Covered entries (sortUnstable differences) ↔ Covered entries differences := by
      simp only [Covered, perm.mem_iff]
    rw [bindInputOrder_eq sorts, ← contradictory, ← covered,
      ← reported_congr (fun row => (perm.mem_iff : row ∈ sortUnstable differences ↔ row ∈ differences))]
    rcases bindSorted_cases entries ordered with ⟨flawed, mismatch, fails⟩ | ⟨fine, -, bound, succeeds, -⟩
    · rw [fails]
      exact ⟨nofun, fun fine => absurd fine flawed⟩
    · exact ⟨fun _ => fine, fun _ => ⟨_, _, succeeds⟩⟩
  · obtain ⟨otherPerm, otherOrdered⟩ := sorts permuted
    have rearranged := (otherPerm.trans reordered).trans perm.symm
    rw [bindInputOrder_eq sorts, bindInputOrder_eq sorts]
    by_cases conflict : Contradictory (sortUnstable differences)
    · have other : Contradictory (sortUnstable permuted) := by
        obtain ⟨first, here, second, there, contradict⟩ := conflict
        exact ⟨first, rearranged.mem_iff.mpr here, second, rearranged.mem_iff.mpr there, contradict⟩
      rw [bindSorted, if_pos ((conflicting_iff otherOrdered).mpr other), bindSorted,
        if_pos ((conflicting_iff ordered).mpr conflict)]
    · rw [bindSorted, bindSorted, dedup_eq_of_perm ordered otherOrdered rearranged conflict]

end Whole

end Observations

/-! Two classifications of an object with two versions. -/

def sampleEntry : ObservedEntry Unit :=
  ⟨['o'], .file, some [⟨some ['1'], ()⟩, ⟨some ['2'], ()⟩], ()⟩

def sampleDifferences : List CatalogueDifference :=
  [⟨['o'], ['2'], .new⟩, ⟨['o'], ['1'], .new⟩, ⟨['o'], ['2'], .new⟩]

def sortByKey (differences : List CatalogueDifference) : List CatalogueDifference :=
  differences.insertionSort fun first second => first.key ≤ second.key

theorem sortByKey_sorts : SortsByKey sortByKey := by
  have total : Std.Total fun first second : CatalogueDifference => first.key ≤ second.key :=
    ⟨fun first second => le_total first.key second.key⟩
  have transitive : IsTrans CatalogueDifference fun first second => first.key ≤ second.key :=
    ⟨fun _ _ _ below above => le_trans below above⟩
  exact fun differences =>
    ⟨List.perm_insertionSort _ differences, List.pairwise_insertionSort _ differences⟩

theorem bind_input_order_exact_versions :
    bindInputOrder sortByKey [sampleEntry, sampleEntry] sampleDifferences =
        .ok ([⟨⟨sampleEntry, some 0⟩, .new⟩, ⟨⟨sampleEntry, some 1⟩, .new⟩],
          [⟨['o'], ['1'], .new⟩, ⟨['o'], ['2'], .new⟩]) ∧
      ¬ Contradictory sampleDifferences := by
  have binds : bindInputOrder sortByKey [sampleEntry, sampleEntry] sampleDifferences =
      .ok ([⟨⟨sampleEntry, some 0⟩, .new⟩, ⟨⟨sampleEntry, some 1⟩, .new⟩],
        [⟨['o'], ['1'], .new⟩, ⟨['o'], ['2'], .new⟩]) := by decide
  exact ⟨binds, ((bind_input_order_exact sortByKey_sorts _ _).1.mp ⟨_, _, binds⟩).1⟩

end Terrasync.Catalogue.InputBinding
