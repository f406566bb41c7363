import Mathlib.Data.List.Infix
import Mathlib.Data.List.Nodup

/-! Finite forests with named leaves and branches, and pruned walks of them: a node is
visited if the walk descends into every branch above it, and delivered if it is emitted. -/

set_option autoImplicit false

namespace Terrasync.Lib

inductive Forest (Name Leaf Branch : Type) where
  | nil
  | leaf (name : Name) (label : Leaf) (rest : Forest Name Leaf Branch)
  | branch (name : Name) (label : Branch) (children rest : Forest Name Leaf Branch)

namespace Forest

variable {Name Leaf Branch : Type}

def names : Forest Name Leaf Branch → List Name
  | nil => []
  | leaf name _ rest => name :: rest.names
  | branch name _ _ rest => name :: rest.names

/-- Siblings have different names. -/
def Distinct : Forest Name Leaf Branch → Prop
  | nil => True
  | leaf name _ rest => name ∉ rest.names ∧ rest.Distinct
  | branch name _ children rest => name ∉ rest.names ∧ children.Distinct ∧ rest.Distinct

instance decidableDistinct [DecidableEq Name] :
    (forest : Forest Name Leaf Branch) → Decidable forest.Distinct
  | nil => inferInstanceAs (Decidable True)
  | leaf _ _ rest =>
      have := decidableDistinct rest
      inferInstanceAs (Decidable (_ ∧ _))
  | branch _ _ children rest =>
      have := decidableDistinct children
      have := decidableDistinct rest
      inferInstanceAs (Decidable (_ ∧ _ ∧ _))

section Lookup

variable [DecidableEq Name]

def lookup : Forest Name Leaf Branch → List Name → Option (Leaf ⊕ Branch)
  | nil, _ => none
  | _, [] => none
  | leaf name label rest, first :: below =>
      if name = first then (if below = [] then some (.inl label) else none)
      else rest.lookup (first :: below)
  | branch name label children rest, first :: below =>
      if name = first then (if below = [] then some (.inr label) else children.lookup below)
      else rest.lookup (first :: below)

/-- What lies below a branch. -/
def childrenAt : Forest Name Leaf Branch → List Name → Forest Name Leaf Branch
  | nil, _ => nil
  | forest, [] => forest
  | leaf name _ rest, first :: path =>
      if name = first then nil else rest.childrenAt (first :: path)
  | branch name _ children rest, first :: path =>
      if name = first then children.childrenAt path else rest.childrenAt (first :: path)

end Lookup

/-- The walk below a branch at `above`. -/
def walk (emit descend : List Name → Leaf ⊕ Branch → Bool) (above : List Name) :
    Forest Name Leaf Branch → List (List Name × (Leaf ⊕ Branch))
  | nil => []
  | leaf name label rest =>
      (if emit (above ++ [name]) (.inl label) then [(above ++ [name], .inl label)] else []) ++
        rest.walk emit descend above
  | branch name label children rest =>
      (if emit (above ++ [name]) (.inr label) then [(above ++ [name], .inr label)] else []) ++
        ((if descend (above ++ [name]) (.inr label) then
          children.walk emit descend (above ++ [name]) else []) ++
            rest.walk emit descend above)

/-- Every branch strictly above the path is descended into. -/
def Reached [DecidableEq Name] (descend : List Name → Leaf ⊕ Branch → Bool) (above : List Name)
    (forest : Forest Name Leaf Branch) (path : List Name) : Prop :=
  ∀ upper, upper ≠ [] → upper <+: path → upper ≠ path →
    ∃ label, forest.lookup upper = some label ∧ descend (above ++ upper) label = true

section Laws

variable [DecidableEq Name] {emit descend : List Name → Leaf ⊕ Branch → Bool}
variable {above path : List Name} {name first : Name} {forest children rest : Forest Name Leaf Branch}
variable {label : Leaf ⊕ Branch} {leafLabel : Leaf} {branchLabel : Branch}

@[simp] theorem lookup_nil : (nil : Forest Name Leaf Branch).lookup path = none := rfl

@[simp] theorem lookup_empty : forest.lookup [] = none := by
  cases forest <;> rfl

@[simp] theorem lookup_leaf_cons :
    (leaf name leafLabel rest).lookup (first :: path) =
      if name = first then (if path = [] then some (.inl leafLabel) else none)
      else rest.lookup (first :: path) := rfl

@[simp] theorem lookup_branch_cons :
    (branch name branchLabel children rest).lookup (first :: path) =
      if name = first then (if path = [] then some (.inr branchLabel) else children.lookup path)
      else rest.lookup (first :: path) := rfl

theorem name_of_lookup (found : forest.lookup (first :: path) = some label) :
    first ∈ forest.names := by
  induction forest with
  | nil => simp only [lookup_nil, reduceCtorEq] at found
  | leaf name leafLabel rest ih =>
      rw [lookup_leaf_cons] at found
      split at found
      · next same => exact List.mem_cons.2 (.inl same.symm)
      · exact List.mem_cons_of_mem _ (ih found)
  | branch name branchLabel children rest _ ih =>
      rw [lookup_branch_cons] at found
      split at found
      · next same => exact List.mem_cons.2 (.inl same.symm)
      · exact List.mem_cons_of_mem _ (ih found)

/-- A node of an earlier name hides none of the others. -/
theorem lookup_of_fresh (fresh : name ∉ rest.names) (found : rest.lookup path = some label) :
    ∃ first tail, path = first :: tail ∧ name ≠ first := by
  cases path with
  | nil => simp only [lookup_empty, reduceCtorEq] at found
  | cons first tail =>
      exact ⟨first, tail, rfl, fun same => fresh (same ▸ name_of_lookup found)⟩

theorem reached_congr {other : Forest Name Leaf Branch}
    (agree : ∀ upper, upper <+: path → forest.lookup upper = other.lookup upper) :
    forest.Reached descend above path ↔ other.Reached descend above path := by
  constructor
  · intro reached upper proper inside strict
    rw [← agree upper inside]
    exact reached upper proper inside strict
  · intro reached upper proper inside strict
    rw [agree upper inside]
    exact reached upper proper inside strict

theorem reached_leaf (other : name ≠ first) :
    (leaf name leafLabel rest).Reached descend above (first :: path) ↔
      rest.Reached descend above (first :: path) := by
  refine reached_congr fun upper inside => ?_
  cases upper with
  | nil => simp only [lookup_empty]
  | cons head tail =>
      rw [(List.cons_prefix_cons.1 inside).1, lookup_leaf_cons, if_neg other]

theorem reached_branch (other : name ≠ first) :
    (branch name branchLabel children rest).Reached descend above (first :: path) ↔
      rest.Reached descend above (first :: path) := by
  refine reached_congr fun upper inside => ?_
  cases upper with
  | nil => simp only [lookup_empty]
  | cons head tail =>
      rw [(List.cons_prefix_cons.1 inside).1, lookup_branch_cons, if_neg other]

theorem reached_singleton : forest.Reached descend above [first] := by
  intro upper proper inside strict
  cases upper with
  | nil => exact absurd rfl proper
  | cons head tail =>
      obtain ⟨rfl, tailInside⟩ := List.cons_prefix_cons.1 inside
      exact absurd (by rw [List.prefix_nil.1 tailInside]) strict

theorem reached_below (nonempty : path ≠ []) :
    (branch name branchLabel children rest).Reached descend above (name :: path) ↔
      descend (above ++ [name]) (.inr branchLabel) = true ∧
        children.Reached descend (above ++ [name]) path := by
  constructor
  · intro reached
    constructor
    · obtain ⟨label, found, into⟩ := reached [name] (List.cons_ne_nil _ _)
        (List.cons_prefix_cons.2 ⟨rfl, List.nil_prefix⟩)
        (fun same => nonempty (List.cons.inj same).2.symm)
      rw [lookup_branch_cons, if_pos rfl, if_pos rfl, Option.some.injEq] at found
      rw [found]
      exact into
    · intro upper proper inside strict
      obtain ⟨label, found, into⟩ := reached (name :: upper) (List.cons_ne_nil _ _)
        (List.cons_prefix_cons.2 ⟨rfl, inside⟩) (fun same => strict (List.cons.inj same).2)
      rw [lookup_branch_cons, if_pos rfl, if_neg proper] at found
      exact ⟨label, found, by rw [List.append_assoc]; exact into⟩
  · rintro ⟨into, reached⟩ upper proper inside strict
    cases upper with
    | nil => exact absurd rfl proper
    | cons head tail =>
        obtain ⟨rfl, tailInside⟩ := List.cons_prefix_cons.1 inside
        rw [lookup_branch_cons, if_pos rfl]
        by_cases last : tail = []
        · subst last
          exact ⟨.inr branchLabel, by rw [if_pos rfl], into⟩
        · obtain ⟨label, found, into⟩ := reached tail last tailInside
            (fun same => strict (congrArg _ same))
          refine ⟨label, by rw [if_neg last, found], ?_⟩
          rw [List.append_assoc] at into
          exact into

theorem mem_walk (distinct : forest.Distinct) :
    (path, label) ∈ forest.walk emit descend above ↔
      ∃ inner, path = above ++ inner ∧ forest.lookup inner = some label ∧
        emit path label = true ∧ forest.Reached descend above inner := by
  induction forest generalizing above with
  | nil =>
      simp only [walk, List.not_mem_nil, lookup_nil, reduceCtorEq, false_and, and_false, exists_false]
  | leaf name leafLabel rest ih =>
      obtain ⟨fresh, distinct⟩ := distinct
      simp only [walk, List.mem_append, List.mem_ite_nil_right, List.mem_singleton,
        Prod.mk.injEq, ih distinct]
      constructor
      · rintro (⟨emitted, rfl, rfl⟩ | ⟨inner, rfl, found, emitted, reached⟩)
        · exact ⟨[name], rfl, by rw [lookup_leaf_cons, if_pos rfl, if_pos rfl], emitted,
            reached_singleton⟩
        · obtain ⟨first, tail, rfl, other⟩ := lookup_of_fresh fresh found
          exact ⟨_, rfl, by rw [lookup_leaf_cons, if_neg other, found], emitted,
            (reached_leaf other).2 reached⟩
      · rintro ⟨inner, rfl, found, emitted, reached⟩
        cases inner with
        | nil => simp only [lookup_empty, reduceCtorEq] at found
        | cons first tail =>
            by_cases same : name = first
            · subst same
              rw [lookup_leaf_cons, if_pos rfl] at found
              obtain ⟨rfl, rfl⟩ : tail = [] ∧ Sum.inl leafLabel = label := by
                by_cases last : tail = [] <;> simp_all
              exact .inl ⟨emitted, rfl, rfl⟩
            · rw [lookup_leaf_cons, if_neg same] at found
              exact .inr ⟨_, rfl, found, emitted, (reached_leaf same).1 reached⟩
  | branch name branchLabel children rest childrenIH restIH =>
      obtain ⟨fresh, childrenDistinct, distinct⟩ := distinct
      simp only [walk, List.mem_append, List.mem_ite_nil_right, List.mem_singleton,
        Prod.mk.injEq, childrenIH childrenDistinct, restIH distinct]
      constructor
      · rintro (⟨emitted, rfl, rfl⟩ | ⟨into, inner, rfl, found, emitted, reached⟩ |
          ⟨inner, rfl, found, emitted, reached⟩)
        · exact ⟨[name], rfl, by rw [lookup_branch_cons, if_pos rfl, if_pos rfl], emitted,
            reached_singleton⟩
        · have nonempty : inner ≠ [] := by
            rintro rfl
            simp only [lookup_empty, reduceCtorEq] at found
          exact ⟨name :: inner, List.append_assoc _ _ _,
            by rw [lookup_branch_cons, if_pos rfl, if_neg nonempty, found], emitted,
            (reached_below nonempty).2 ⟨into, reached⟩⟩
        · obtain ⟨first, tail, rfl, other⟩ := lookup_of_fresh fresh found
          exact ⟨_, rfl, by rw [lookup_branch_cons, if_neg other, found], emitted,
            (reached_branch other).2 reached⟩
      · rintro ⟨inner, rfl, found, emitted, reached⟩
        cases inner with
        | nil => simp only [lookup_empty, reduceCtorEq] at found
        | cons first tail =>
            by_cases same : name = first
            · subst same
              rw [lookup_branch_cons, if_pos rfl] at found
              by_cases last : tail = []
              · subst last
                rw [if_pos rfl, Option.some.injEq] at found
                exact .inl ⟨found ▸ emitted, rfl, found.symm⟩
              · rw [if_neg last] at found
                obtain ⟨into, reached⟩ := (reached_below last).1 reached
                exact .inr (.inl ⟨into, tail, (List.append_assoc _ [name] tail).symm, found,
                  emitted, reached⟩)
            · rw [lookup_branch_cons, if_neg same] at found
              exact .inr (.inr ⟨_, rfl, found, emitted, (reached_branch same).1 reached⟩)

theorem walk_head (distinct : forest.Distinct)
    (member : (path, label) ∈ forest.walk emit descend above) :
    ∃ first tail, path = above ++ first :: tail ∧ first ∈ forest.names := by
  obtain ⟨inner, rfl, found, -⟩ := (mem_walk distinct).1 member
  cases inner with
  | nil => simp only [lookup_empty, reduceCtorEq] at found
  | cons first tail => exact ⟨first, tail, rfl, name_of_lookup found⟩

theorem nodup_walk (distinct : forest.Distinct) :
    (forest.walk emit descend above).Nodup := by
  induction forest generalizing above with
  | nil => exact List.nodup_nil
  | leaf name leafLabel rest ih =>
      obtain ⟨fresh, distinct⟩ := distinct
      refine List.nodup_append.2 ⟨by split <;> simp, ih distinct, ?_⟩
      rintro ⟨path, label⟩ here ⟨other, otherLabel⟩ there same
      obtain ⟨first, tail, rfl, known⟩ := walk_head distinct there
      simp only [List.mem_ite_nil_right, List.mem_singleton, Prod.mk.injEq] at here
      simp only [here, Prod.mk.injEq, List.append_cancel_left_eq, List.cons.injEq] at same
      exact fresh (same.1.1 ▸ known)
  | branch name branchLabel children rest childrenIH restIH =>
      obtain ⟨fresh, childrenDistinct, distinct⟩ := distinct
      refine List.nodup_append.2 ⟨by split <;> simp, List.nodup_append.2
        ⟨?_, restIH distinct, ?_⟩, ?_⟩
      · split
        · exact childrenIH childrenDistinct
        · exact List.nodup_nil
      · rintro ⟨path, label⟩ here ⟨other, otherLabel⟩ there same
        obtain ⟨first, tail, rfl, known⟩ := walk_head distinct there
        obtain ⟨inner, innerTail, rfl, -⟩ :=
          walk_head childrenDistinct (List.mem_ite_nil_right.1 here).2
        simp only [Prod.mk.injEq, List.append_assoc, List.append_cancel_left_eq, List.cons_append,
          List.cons.injEq] at same
        exact fresh (same.1.1 ▸ known)
      · rintro ⟨path, label⟩ here ⟨other, otherLabel⟩ there same
        simp only [List.mem_ite_nil_right, List.mem_singleton, Prod.mk.injEq] at here
        obtain ⟨rfl, rfl⟩ := Prod.mk.inj same
        rcases List.mem_append.1 there with inside | there
        · obtain ⟨first, tail, equal, -⟩ :=
            walk_head childrenDistinct (List.mem_ite_nil_right.1 inside).2
          simp [here] at equal
        · obtain ⟨first, tail, equal, known⟩ := walk_head distinct there
          rw [here.2.1, List.append_cancel_left_eq, List.cons.injEq] at equal
          exact fresh (equal.1 ▸ known)

theorem distinct_childrenAt (distinct : forest.Distinct) : (forest.childrenAt path).Distinct := by
  induction forest generalizing path with
  | nil => exact trivial
  | leaf name leafLabel rest ih =>
      cases path with
      | nil => exact distinct
      | cons first tail =>
          simp only [childrenAt]
          split
          · exact trivial
          · exact ih distinct.2
  | branch name branchLabel children rest childrenIH restIH =>
      cases path with
      | nil => exact distinct
      | cons first tail =>
          simp only [childrenAt]
          split
          · exact childrenIH distinct.2.1
          · exact restIH distinct.2.2

theorem lookup_childrenAt {lower : List Name} (nonempty : lower ≠ []) :
    (forest.childrenAt path).lookup lower = forest.lookup (path ++ lower) := by
  induction forest generalizing path with
  | nil => cases path <;> rfl
  | leaf name leafLabel rest ih =>
      cases path with
      | nil => rfl
      | cons first tail =>
          simp only [childrenAt, List.cons_append, lookup_leaf_cons]
          split
          · rw [if_neg (List.append_ne_nil_of_right_ne_nil tail nonempty), lookup_nil]
          · exact ih
  | branch name branchLabel children rest childrenIH restIH =>
      cases path with
      | nil => rfl
      | cons first tail =>
          simp only [childrenAt, List.cons_append, lookup_branch_cons]
          split
          · rw [if_neg (List.append_ne_nil_of_right_ne_nil tail nonempty), childrenIH]
          · exact restIH

/-- What lies above a node is a branch. -/
theorem lookup_above {lower : List Name} (found : forest.lookup (path ++ lower) = some label)
    (nonempty : path ≠ []) (strict : lower ≠ []) :
    ∃ branchLabel, forest.lookup path = some (.inr branchLabel) := by
  induction forest generalizing path with
  | nil => simp only [lookup_nil, reduceCtorEq] at found
  | leaf name leafLabel rest ih =>
      cases path with
      | nil => exact absurd rfl nonempty
      | cons first tail =>
          rw [List.cons_append, lookup_leaf_cons] at found
          rw [lookup_leaf_cons]
          split at found
          · rw [if_neg (List.append_ne_nil_of_right_ne_nil tail strict)] at found
            exact absurd found (Option.some_ne_none _).symm
          · next other =>
              rw [if_neg other]
              exact ih found nonempty
  | branch name branchLabel children rest childrenIH restIH =>
      cases path with
      | nil => exact absurd rfl nonempty
      | cons first tail =>
          rw [List.cons_append, lookup_branch_cons] at found
          rw [lookup_branch_cons]
          split at found
          · next same =>
              rw [if_neg (List.append_ne_nil_of_right_ne_nil tail strict)] at found
              rw [if_pos same]
              by_cases last : tail = []
              · exact ⟨branchLabel, if_pos last⟩
              · rw [if_neg last]
                exact childrenIH found last
          · next other =>
              rw [if_neg other]
              exact restIH found nonempty

theorem reached_unpruned (found : forest.lookup path = some label) :
    forest.Reached (fun _ _ => true) above path := by
  rintro upper proper ⟨lower, rfl⟩ strict
  obtain ⟨branchLabel, lookedUp⟩ := lookup_above found proper
    fun last => strict (by rw [last, List.append_nil])
  exact ⟨_, lookedUp, rfl⟩

/-- Only decisions on the branches above a node matter. -/
theorem reached_agree {other : List Name → Leaf ⊕ Branch → Bool}
    (found : forest.lookup path = some label)
    (agree : ∀ upper branchLabel, upper <+: path → upper ≠ path →
      descend (above ++ upper) (.inr branchLabel) = other (above ++ upper) (.inr branchLabel)) :
    forest.Reached descend above path ↔ forest.Reached other above path := by
  have step : ∀ upper, upper ≠ [] → upper <+: path → upper ≠ path →
      ((∃ label, forest.lookup upper = some label ∧ descend (above ++ upper) label = true) ↔
        ∃ label, forest.lookup upper = some label ∧ other (above ++ upper) label = true) := by
    rintro upper proper ⟨lower, rfl⟩ strict
    obtain ⟨branchLabel, lookedUp⟩ := lookup_above found proper
      fun last => strict (by rw [last, List.append_nil])
    simp only [lookedUp, Option.some.injEq, exists_eq_left',
      agree upper branchLabel (List.prefix_append _ _) strict]
  constructor
  · intro reached upper proper inside strict
    exact (step upper proper inside strict).1 (reached upper proper inside strict)
  · intro reached upper proper inside strict
    exact (step upper proper inside strict).2 (reached upper proper inside strict)

end Laws

end Forest

end Terrasync.Lib
