import Mathlib.Data.List.Induction
import Mathlib.Logic.Function.Basic

/-! Puts and removals of a keyed store that wait in two buffers. Each buffer is
written when it reaches a threshold and both are written at the end, puts first.
A removal takes every key of its group. -/

set_option autoImplicit false

namespace Terrasync.Lib.WriteBuffers

section Queues

variable {Item : Type}

/-- What is left waiting after one more item: nothing once the threshold is reached. -/
def offer (threshold : Nat) (waiting : List Item) (item : Item) : List Item :=
  if threshold ≤ (waiting ++ [item]).length then [] else waiting ++ [item]

/-- How many of the first `count` items have been written. -/
def written (threshold count : Nat) : Nat := count / threshold * threshold

theorem written_le (threshold count : Nat) : written threshold count ≤ count :=
  Nat.div_mul_le_self count threshold

theorem length_waiting (threshold : Nat) (items : List Item) (item : Item) :
    (items.drop (written threshold items.length) ++ [item]).length =
      items.length % threshold + 1 := by
  have split := Nat.div_add_mod items.length threshold
  rw [Nat.mul_comm] at split
  simp only [written, List.length_append, List.length_drop, List.length_singleton]
  omega

theorem written_succ_reached {threshold count : Nat} (positive : 0 < threshold)
    (reached : threshold ≤ count % threshold + 1) : written threshold (count + 1) = count + 1 := by
  have split := Nat.div_add_mod count threshold
  have below := Nat.mod_lt count positive
  rw [Nat.mul_comm] at split
  have whole : count + 1 = (count / threshold + 1) * threshold := by
    rw [Nat.add_mul]
    omega
  unfold written
  rw [whole, Nat.mul_div_cancel _ positive]

theorem written_succ_waiting {threshold count : Nat} (positive : 0 < threshold)
    (short : ¬threshold ≤ count % threshold + 1) :
    written threshold (count + 1) = written threshold count := by
  have split := Nat.div_add_mod count threshold
  have below := Nat.mod_lt count positive
  rw [Nat.mul_comm] at split
  have same : (count + 1) / threshold = count / threshold := by
    apply Nat.div_eq_of_lt_le
    · omega
    · rw [Nat.succ_mul]
      omega
  unfold written
  rw [same]

theorem drop_written_succ {threshold : Nat} (positive : 0 < threshold) (items : List Item)
    (item : Item) :
    offer threshold (items.drop (written threshold items.length)) item =
      (items ++ [item]).drop (written threshold (items.length + 1)) := by
  unfold offer
  rw [length_waiting]
  by_cases reached : threshold ≤ items.length % threshold + 1
  · rw [if_pos reached, written_succ_reached positive reached]
    symm
    apply List.drop_eq_nil_of_le
    simp
  · rw [if_neg reached, written_succ_waiting positive reached,
      List.drop_append_of_le_length (written_le threshold items.length)]

/-- From an empty buffer, whole multiples of the threshold are written and the rest waits. -/
theorem foldl_offer {threshold : Nat} (positive : 0 < threshold) (items : List Item) :
    items.foldl (offer threshold) [] = items.drop (written threshold items.length) := by
  induction items using List.reverseRecOn with
  | nil => simp
  | append_singleton items item ih =>
      rw [List.foldl_append, ih, List.foldl_cons, List.foldl_nil, drop_written_succ positive,
        List.length_append, List.length_singleton]

/-- What waits after a prefix, and what is still to come, is the unwritten end of all items. -/
theorem foldl_offer_append {threshold : Nat} (positive : 0 < threshold) (first later : List Item) :
    first.foldl (offer threshold) [] ++ later =
      (first ++ later).drop (written threshold first.length) := by
  rw [foldl_offer positive, List.drop_append_of_le_length (written_le threshold first.length)]

end Queues

inductive Op (Key Group Value : Type) where
  | put (key : Key) (value : Value)
  | remove (group : Group)
deriving DecidableEq

structure Buffers (Key Group Value : Type) where
  store : Key → Option Value
  puts : List (Key × Value)
  removes : List Group

variable {Key Group Value : Type}

def putOf : Op Key Group Value → Option (Key × Value)
  | .put key value => some (key, value)
  | .remove _ => none

def removeOf : Op Key Group Value → Option Group
  | .put _ _ => none
  | .remove group => some group

def putsOf (ops : List (Op Key Group Value)) : List (Key × Value) := ops.filterMap putOf

def removesOf (ops : List (Op Key Group Value)) : List Group := ops.filterMap removeOf

@[simp] theorem putsOf_append (first later : List (Op Key Group Value)) :
    putsOf (first ++ later) = putsOf first ++ putsOf later := List.filterMap_append

@[simp] theorem removesOf_append (first later : List (Op Key Group Value)) :
    removesOf (first ++ later) = removesOf first ++ removesOf later := List.filterMap_append

@[simp] theorem putsOf_put (key : Key) (value : Value) (rest : List (Op Key Group Value)) :
    putsOf (.put key value :: rest) = (key, value) :: putsOf rest := rfl

@[simp] theorem putsOf_remove (removed : Group) (rest : List (Op Key Group Value)) :
    putsOf (.remove removed :: rest) = putsOf rest := rfl

@[simp] theorem removesOf_put (key : Key) (value : Value) (rest : List (Op Key Group Value)) :
    removesOf (.put key value :: rest) = removesOf rest := rfl

@[simp] theorem removesOf_remove (removed : Group) (rest : List (Op Key Group Value)) :
    removesOf (.remove removed :: rest) = removed :: removesOf rest := rfl

/-- The last operation on the key is a put. -/
def LastIsPut (group : Key → Group) (ops : List (Op Key Group Value)) (key : Key) : Prop :=
  ∃ moment, moment ≤ ops.length ∧ group key ∉ removesOf (ops.drop moment) ∧
    key ∈ (putsOf (ops.drop moment)).map Prod.fst

/-- At some moment every removal of the key's group has been written and a put of
the key has not. -/
def Outlasts (group : Key → Group) (threshold : Nat) (ops : List (Op Key Group Value)) (key : Key) :
    Prop :=
  ∃ moment, moment ≤ ops.length ∧
    group key ∉ (removesOf ops).drop (written threshold (removesOf (ops.take moment)).length) ∧
    key ∈ ((putsOf ops).drop (written threshold (putsOf (ops.take moment)).length)).map Prod.fst

theorem LastIsPut.put {group : Key → Group} {key : Key} {ops : List (Op Key Group Value)}
    (last : LastIsPut group ops key) :
    key ∈ (putsOf ops).map Prod.fst := by
  obtain ⟨moment, -, -, member⟩ := last
  rw [← List.take_append_drop moment ops, putsOf_append, List.map_append]
  exact List.mem_append_right _ member

theorem Outlasts.put {group : Key → Group} {threshold : Nat} {key : Key}
    {ops : List (Op Key Group Value)}
    (outlasts : Outlasts group threshold ops key) :
    key ∈ (putsOf ops).map Prod.fst := by
  obtain ⟨moment, -, -, member⟩ := outlasts
  exact List.map_subset _ (List.drop_subset _ _) member

theorem written_one (count : Nat) : written 1 count = count := by
  unfold written
  rw [Nat.div_one, Nat.mul_one]

/-- Written one at a time, the operations keep their order. -/
theorem outlasts_one {group : Key → Group} {key : Key} {ops : List (Op Key Group Value)} :
    Outlasts group 1 ops key ↔ LastIsPut group ops key := by
  have puts : ∀ moment, (putsOf ops).drop (putsOf (ops.take moment)).length =
      putsOf (ops.drop moment) := by
    intro moment
    have whole : putsOf ops = putsOf (ops.take moment) ++ putsOf (ops.drop moment) := by
      rw [← putsOf_append, List.take_append_drop]
    rw [whole, List.drop_left]
  have removes : ∀ moment, (removesOf ops).drop (removesOf (ops.take moment)).length =
      removesOf (ops.drop moment) := by
    intro moment
    have whole : removesOf ops = removesOf (ops.take moment) ++ removesOf (ops.drop moment) := by
      rw [← removesOf_append, List.take_append_drop]
    rw [whole, List.drop_left]
  unfold Outlasts LastIsPut
  simp only [written_one, puts, removes]

variable [DecidableEq Group]

def removeAll (group : Key → Group) (store : Key → Option Value) (groups : List Group) :
    Key → Option Value :=
  fun key => if group key ∈ groups then none else store key

theorem removeAll_of_not_mem {group : Key → Group} {store : Key → Option Value}
    {groups : List Group} {key : Key} (absent : group key ∉ groups) :
    removeAll group store groups key = store key := if_neg absent

theorem removeAll_of_mem {group : Key → Group} {store : Key → Option Value}
    {groups : List Group} {key : Key} (member : group key ∈ groups) :
    removeAll group store groups key = none := if_pos member

variable [DecidableEq Key]

def putAll (store : Key → Option Value) : List (Key × Value) → Key → Option Value
  | [] => store
  | (key, value) :: rest => putAll (Function.update store key (some value)) rest

/-- One operation applied to the store at once. -/
def apply (group : Key → Group) (store : Key → Option Value) :
    Op Key Group Value → Key → Option Value
  | .put key value => putAll store [(key, value)]
  | .remove removed => removeAll group store [removed]

def sequential (group : Key → Group) (store : Key → Option Value)
    (ops : List (Op Key Group Value)) : Key → Option Value :=
  ops.foldl (apply group) store

/-- One operation offered to its buffer. -/
def step (group : Key → Group) (threshold : Nat) (buffers : Buffers Key Group Value) :
    Op Key Group Value → Buffers Key Group Value
  | .put key value =>
      { buffers with
        store :=
          if threshold ≤ (buffers.puts ++ [(key, value)]).length then
            putAll buffers.store (buffers.puts ++ [(key, value)])
          else buffers.store
        puts := offer threshold buffers.puts (key, value) }
  | .remove removed =>
      { buffers with
        store :=
          if threshold ≤ (buffers.removes ++ [removed]).length then
            removeAll group buffers.store (buffers.removes ++ [removed])
          else buffers.store
        removes := offer threshold buffers.removes removed }

def run (group : Key → Group) (threshold : Nat) (buffers : Buffers Key Group Value)
    (ops : List (Op Key Group Value)) : Buffers Key Group Value :=
  ops.foldl (step group threshold) buffers

/-- The end of the input: waiting puts, then waiting removals. -/
def finish (group : Key → Group) (buffers : Buffers Key Group Value) : Key → Option Value :=
  removeAll group (putAll buffers.store buffers.puts) buffers.removes

def batched (group : Key → Group) (threshold : Nat) (store : Key → Option Value)
    (ops : List (Op Key Group Value)) : Key → Option Value :=
  finish group (run group threshold ⟨store, [], []⟩ ops)

theorem putAll_append (store : Key → Option Value) (first later : List (Key × Value)) :
    putAll store (first ++ later) = putAll (putAll store first) later := by
  induction first generalizing store with
  | nil => rfl
  | cons entry rest ih => exact ih _

theorem putAll_of_not_mem {store : Key → Option Value} {entries : List (Key × Value)} {key : Key}
    (absent : key ∉ entries.map Prod.fst) : putAll store entries key = store key := by
  induction entries generalizing store with
  | nil => rfl
  | cons entry rest ih =>
      rw [List.map_cons, List.mem_cons, not_or] at absent
      rw [putAll, ih absent.2, Function.update_of_ne absent.1]

/-- A key that is put holds what was put last, whatever the store held before. -/
theorem putAll_of_mem {store : Key → Option Value} (other : Key → Option Value)
    {entries : List (Key × Value)} {key : Key} (member : key ∈ entries.map Prod.fst) :
    putAll store entries key = putAll other entries key := by
  induction entries generalizing store other with
  | nil => exact absurd member List.not_mem_nil
  | cons entry rest ih =>
      by_cases later : key ∈ rest.map Prod.fst
      · exact ih _ later
      · rw [List.map_cons, List.mem_cons] at member
        have here : key = entry.1 := member.resolve_right later
        rw [putAll, putAll, putAll_of_not_mem later, putAll_of_not_mem later, here,
          Function.update_self, Function.update_self]

theorem putAll_congr {store other : Key → Option Value} {key : Key} (same : store key = other key)
    (entries : List (Key × Value)) : putAll store entries key = putAll other entries key := by
  by_cases member : key ∈ entries.map Prod.fst
  · exact putAll_of_mem other member
  · rw [putAll_of_not_mem member, putAll_of_not_mem member, same]

theorem putAll_isSome (store : Key → Option Value) {entries : List (Key × Value)} {key : Key}
    (member : key ∈ entries.map Prod.fst) : (putAll store entries key).isSome := by
  induction entries generalizing store with
  | nil => exact absurd member List.not_mem_nil
  | cons entry rest ih =>
      by_cases later : key ∈ rest.map Prod.fst
      · exact ih _ later
      · rw [List.map_cons, List.mem_cons] at member
        rw [putAll, putAll_of_not_mem later, member.resolve_right later, Function.update_self]
        rfl

section Sequential

variable {group : Key → Group} {store : Key → Option Value} {key : Key}

/-- Without a removal of its group, a key holds its last put. -/
theorem sequential_of_no_remove {ops : List (Op Key Group Value)}
    (none_ : group key ∉ removesOf ops) : sequential group store ops key = putAll store (putsOf ops) key := by
  induction ops generalizing store with
  | nil => rfl
  | cons op rest ih =>
      cases op with
      | put other value =>
          rw [removesOf_put] at none_
          exact ih none_
      | remove removed =>
          rw [removesOf_remove, List.mem_cons, not_or] at none_
          have kept : removeAll group store [removed] key = store key :=
            removeAll_of_not_mem (by rw [List.mem_singleton]; exact none_.1)
          exact (ih none_.2).trans (putAll_congr kept _)

/-- A put that comes after the last removal decides. -/
theorem sequential_of_last_put {ops : List (Op Key Group Value)}
    (last : LastIsPut group ops key) :
    sequential group store ops key = putAll store (putsOf ops) key := by
  obtain ⟨moment, -, none_, member⟩ := last
  have whole : ops = ops.take moment ++ ops.drop moment := (List.take_append_drop moment ops).symm
  calc sequential group store ops key
      = sequential group (sequential group store (ops.take moment)) (ops.drop moment) key := by
        unfold sequential
        rw [← List.foldl_append, ← whole]
    _ = putAll _ (putsOf (ops.drop moment)) key := sequential_of_no_remove none_
    _ = putAll (putAll store (putsOf (ops.take moment))) (putsOf (ops.drop moment)) key :=
        putAll_of_mem _ member
    _ = putAll store (putsOf ops) key := by
        rw [← putAll_append, ← putsOf_append, ← whole]

/-- A removal that no put follows decides. -/
theorem sequential_of_last_remove {ops : List (Op Key Group Value)}
    (removed : group key ∈ removesOf ops) (last : ¬LastIsPut group ops key) :
    sequential group store ops key = none := by
  induction ops generalizing store with
  | nil => exact absurd removed List.not_mem_nil
  | cons op rest ih =>
      have lastRest : ¬LastIsPut group rest key := by
        intro put
        obtain ⟨moment, bound, none_, member⟩ := put
        exact last ⟨moment + 1, Nat.succ_le_succ bound, none_, member⟩
      by_cases later : group key ∈ removesOf rest
      · exact ih later lastRest
      · cases op with
        | put other value =>
            rw [removesOf_put] at removed
            exact absurd removed later
        | remove first =>
            have here : group key = first := by
              rw [removesOf_remove, List.mem_cons] at removed
              exact removed.resolve_right later
            have unput : key ∉ (putsOf rest).map Prod.fst := by
              intro member
              exact lastRest ⟨0, Nat.zero_le _, later, member⟩
            calc sequential group (removeAll group store [first]) rest key
                = putAll (removeAll group store [first]) (putsOf rest) key :=
                  sequential_of_no_remove later
              _ = removeAll group store [first] key := putAll_of_not_mem unput
              _ = none := removeAll_of_mem (List.mem_singleton.mpr here)

end Sequential

section Batched

variable {group : Key → Group} {threshold : Nat} {buffers : Buffers Key Group Value} {key : Key}

theorem step_put_reached {other : Key} {value : Value}
    (reached : threshold ≤ (buffers.puts ++ [(other, value)]).length) :
    step group threshold buffers (.put other value) =
      ⟨putAll buffers.store (buffers.puts ++ [(other, value)]), [], buffers.removes⟩ := by
  simp only [step, offer, if_pos reached]

theorem step_put_waiting {other : Key} {value : Value}
    (short : ¬threshold ≤ (buffers.puts ++ [(other, value)]).length) :
    step group threshold buffers (.put other value) =
      ⟨buffers.store, buffers.puts ++ [(other, value)], buffers.removes⟩ := by
  simp only [step, offer, if_neg short]

theorem step_remove_reached {removed : Group}
    (reached : threshold ≤ (buffers.removes ++ [removed]).length) :
    step group threshold buffers (.remove removed) =
      ⟨removeAll group buffers.store (buffers.removes ++ [removed]), buffers.puts, []⟩ := by
  simp only [step, offer, if_pos reached]

theorem step_remove_waiting {removed : Group}
    (short : ¬threshold ≤ (buffers.removes ++ [removed]).length) :
    step group threshold buffers (.remove removed) =
      ⟨buffers.store, buffers.puts, buffers.removes ++ [removed]⟩ := by
  simp only [step, offer, if_neg short]

theorem run_puts (ops : List (Op Key Group Value)) :
    (run group threshold buffers ops).puts = (putsOf ops).foldl (offer threshold) buffers.puts := by
  induction ops generalizing buffers with
  | nil => rfl
  | cons op rest ih =>
      cases op with
      | put other value => exact ih
      | remove removed => exact ih

theorem run_removes (ops : List (Op Key Group Value)) :
    (run group threshold buffers ops).removes =
      (removesOf ops).foldl (offer threshold) buffers.removes := by
  induction ops generalizing buffers with
  | nil => rfl
  | cons op rest ih =>
      cases op with
      | put other value => exact ih
      | remove removed => exact ih

theorem run_append (first later : List (Op Key Group Value)) :
    run group threshold buffers (first ++ later) =
      run group threshold (run group threshold buffers first) later := List.foldl_append

/-- Writing the buffer does not change what the waiting and the later puts lead to. -/
theorem step_put_putAll (other : Key) (value : Value) (later : List (Key × Value)) :
    putAll (step group threshold buffers (.put other value)).store
        ((step group threshold buffers (.put other value)).puts ++ later) =
      putAll buffers.store (buffers.puts ++ (other, value) :: later) := by
  have whole : buffers.puts ++ (other, value) :: later =
      (buffers.puts ++ [(other, value)]) ++ later := by simp
  by_cases reached : threshold ≤ (buffers.puts ++ [(other, value)]).length
  · rw [step_put_reached reached, whole, putAll_append _ (buffers.puts ++ [(other, value)])]
    rfl
  · rw [step_put_waiting reached, whole]

theorem step_remove_store {removed : Group} (waiting : group key ∉ buffers.removes)
    (other : group key ≠ removed) :
    (step group threshold buffers (.remove removed)).store key = buffers.store key := by
  by_cases reached : threshold ≤ (buffers.removes ++ [removed]).length
  · rw [step_remove_reached reached]
    apply removeAll_of_not_mem
    rw [List.mem_append, List.mem_singleton, not_or]
    exact ⟨waiting, other⟩
  · rw [step_remove_waiting reached]

theorem step_remove_removes {removed : Group} (waiting : group key ∉ buffers.removes)
    (other : group key ≠ removed) :
    group key ∉ (step group threshold buffers (.remove removed)).removes := by
  by_cases reached : threshold ≤ (buffers.removes ++ [removed]).length
  · rw [step_remove_reached reached]
    exact List.not_mem_nil
  · rw [step_remove_waiting reached, List.mem_append, List.mem_singleton, not_or]
    exact ⟨waiting, other⟩

/-- With no removal of its group waiting or to come, a key ends with the last put. -/
theorem finish_run_of_no_remove {ops : List (Op Key Group Value)}
    (waiting : group key ∉ buffers.removes) (later : group key ∉ removesOf ops) :
    finish group (run group threshold buffers ops) key =
      putAll buffers.store (buffers.puts ++ putsOf ops) key := by
  induction ops generalizing buffers with
  | nil =>
      rw [show putsOf ([] : List (Op Key Group Value)) = [] from rfl, List.append_nil]
      exact removeAll_of_not_mem waiting
  | cons op rest ih =>
      cases op with
      | put other value =>
          rw [removesOf_put] at later
          calc finish group (run group threshold (step group threshold buffers (.put other value)) rest)
                key
              = putAll _ _ key := ih waiting later
            _ = putAll buffers.store (buffers.puts ++ (other, value) :: putsOf rest) key :=
                congrFun (step_put_putAll other value (putsOf rest)) key
      | remove removed =>
          rw [removesOf_remove, List.mem_cons, not_or] at later
          calc finish group (run group threshold (step group threshold buffers (.remove removed)) rest)
                key
              = putAll (step group threshold buffers (.remove removed)).store
                  (buffers.puts ++ putsOf rest) key :=
                ih (step_remove_removes waiting later.1) later.2
            _ = putAll buffers.store (buffers.puts ++ putsOf rest) key :=
                putAll_congr (step_remove_store waiting later.1) _

/-- If no put of the key outlasts the removals of its group, the key ends absent. -/
theorem finish_run_of_removed {ops : List (Op Key Group Value)}
    (removed : group key ∈ buffers.removes ++ removesOf ops)
    (covered : ∀ moment, moment ≤ ops.length →
      group key ∉ (run group threshold buffers (ops.take moment)).removes ++
        removesOf (ops.drop moment) →
      key ∉ ((run group threshold buffers (ops.take moment)).puts ++
        putsOf (ops.drop moment)).map Prod.fst) :
    finish group (run group threshold buffers ops) key = none := by
  induction ops generalizing buffers with
  | nil =>
      rw [show removesOf ([] : List (Op Key Group Value)) = [] from rfl, List.append_nil] at removed
      exact removeAll_of_mem removed
  | cons op rest ih =>
      by_cases still : group key ∈ (step group threshold buffers op).removes ++ removesOf rest
      · apply ih still
        intro moment bound
        exact covered (moment + 1) (Nat.succ_le_succ bound)
      · -- the removals of the group were written by this very step
        have unput := covered 1 (by simp) still
        have written : (step group threshold buffers op).store key = none := by
          cases op with
          | put other value => exact absurd removed still
          | remove first =>
              rw [removesOf_remove, ← List.singleton_append, ← List.append_assoc, List.mem_append]
                at removed
              rw [List.mem_append, not_or] at still
              have here := removed.resolve_right still.2
              have reached : threshold ≤ (buffers.removes ++ [first]).length := by
                by_contra short
                rw [step_remove_waiting short] at still
                exact still.1 here
              rw [step_remove_reached reached]
              exact removeAll_of_mem here
        rw [List.mem_append, not_or] at still
        calc finish group (run group threshold (step group threshold buffers op) rest) key
            = putAll (step group threshold buffers op).store
                ((step group threshold buffers op).puts ++ putsOf rest) key :=
              finish_run_of_no_remove still.1 still.2
          _ = (step group threshold buffers op).store key := putAll_of_not_mem unput
          _ = none := written

/-- What is unwritten after a prefix of the run, read off the list of operations. -/
theorem unwritten_puts (positive : 0 < threshold) (store : Key → Option Value)
    (ops : List (Op Key Group Value)) (moment : Nat) :
    (run group threshold ⟨store, [], []⟩ (ops.take moment)).puts ++ putsOf (ops.drop moment) =
      (putsOf ops).drop (written threshold (putsOf (ops.take moment)).length) := by
  rw [run_puts, foldl_offer_append positive, ← putsOf_append, List.take_append_drop]

theorem unwritten_removes (positive : 0 < threshold) (store : Key → Option Value)
    (ops : List (Op Key Group Value)) (moment : Nat) :
    (run group threshold ⟨store, [], []⟩ (ops.take moment)).removes ++ removesOf (ops.drop moment) =
      (removesOf ops).drop (written threshold (removesOf (ops.take moment)).length) := by
  rw [run_removes, foldl_offer_append positive, ← removesOf_append, List.take_append_drop]

theorem batched_of_no_remove {store : Key → Option Value} {ops : List (Op Key Group Value)}
    (later : group key ∉ removesOf ops) :
    batched group threshold store ops key = putAll store (putsOf ops) key :=
  finish_run_of_no_remove List.not_mem_nil later

theorem batched_of_outlasts (positive : 0 < threshold) {store : Key → Option Value}
    {ops : List (Op Key Group Value)} (outlasts : Outlasts group threshold ops key) :
    batched group threshold store ops key = putAll store (putsOf ops) key := by
  obtain ⟨moment, -, none_, member⟩ := outlasts
  rw [← unwritten_removes positive store, List.mem_append, not_or] at none_
  have whole : ops = ops.take moment ++ ops.drop moment := (List.take_append_drop moment ops).symm
  calc batched group threshold store ops key
      = finish group (run group threshold (run group threshold ⟨store, [], []⟩ (ops.take moment))
          (ops.drop moment)) key := by
        rw [← run_append, ← whole, batched]
    _ = putAll _ ((putsOf ops).drop (written threshold (putsOf (ops.take moment)).length)) key := by
        rw [finish_run_of_no_remove none_.1 none_.2, unwritten_puts positive]
    _ = putAll (putAll store ((putsOf ops).take (written threshold (putsOf (ops.take moment)).length)))
          ((putsOf ops).drop (written threshold (putsOf (ops.take moment)).length)) key :=
        putAll_of_mem _ member
    _ = putAll store (putsOf ops) key := by
        rw [← putAll_append, List.take_append_drop]

theorem batched_of_not_outlasts (positive : 0 < threshold) {store : Key → Option Value}
    {ops : List (Op Key Group Value)} (removed : group key ∈ removesOf ops)
    (fails : ¬Outlasts group threshold ops key) : batched group threshold store ops key = none := by
  apply finish_run_of_removed
  · exact removed
  · intro moment bound none_ member
    rw [unwritten_removes positive] at none_
    rw [unwritten_puts positive] at member
    exact fails ⟨moment, bound, none_, member⟩

/-- Batching keeps the sequential result of a key exactly if the last operation on it
is a put when, and only when, a put of it outlasts the removals of its group. -/
theorem batched_eq_sequential_iff (positive : 0 < threshold) (store : Key → Option Value)
    (ops : List (Op Key Group Value)) (key : Key) :
    batched group threshold store ops key = sequential group store ops key ↔
      (key ∈ (putsOf ops).map Prod.fst → group key ∈ removesOf ops →
        (LastIsPut group ops key ↔ Outlasts group threshold ops key)) := by
  by_cases removed : group key ∈ removesOf ops
  · by_cases last : LastIsPut group ops key
    · have kept := putAll_isSome store last.put
      rw [sequential_of_last_put last]
      by_cases outlasts : Outlasts group threshold ops key
      · simp only [batched_of_outlasts positive outlasts, last, outlasts, implies_true]
      · rw [batched_of_not_outlasts positive removed outlasts]
        constructor
        · intro lost
          rw [← lost] at kept
          exact absurd kept Bool.false_ne_true
        · intro agree
          exact absurd ((agree last.put removed).mp last) outlasts
    · rw [sequential_of_last_remove removed last]
      by_cases outlasts : Outlasts group threshold ops key
      · have kept := putAll_isSome store outlasts.put
        rw [batched_of_outlasts positive outlasts]
        constructor
        · intro stale
          rw [stale] at kept
          exact absurd kept Bool.false_ne_true
        · intro agree
          exact absurd ((agree outlasts.put removed).mpr outlasts) last
      · simp only [batched_of_not_outlasts positive removed outlasts, last, outlasts, implies_true]
  · rw [batched_of_no_remove removed, sequential_of_no_remove removed]
    simp only [removed, false_implies, implies_true]

end Batched

end Terrasync.Lib.WriteBuffers
