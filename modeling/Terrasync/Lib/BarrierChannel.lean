import Mathlib.Data.List.Basic

/-! One consumer behind a channel that carries data and barriers. The producer announces at
most one barrier at a time and sends nothing behind it until the consumer has answered, so
an answer means that the consumer has handled all that was sent. -/

set_option autoImplicit false

namespace Terrasync.Lib

/-- What a channel carries; a barrier asks to be acknowledged under its ticket. -/
inductive Delivery (Item : Type) where
  | data (items : List Item)
  | barrier (ticket : Nat)
deriving DecidableEq, Repr

variable {Item : Type}

namespace Delivery

def items : Delivery Item → List Item
  | .data items => items
  | .barrier _ => []

def isData : Delivery Item → Bool
  | .data _ => true
  | .barrier _ => false

end Delivery

/-- The items that wait in a channel. -/
def contents (queue : List (Delivery Item)) : List Item := queue.flatMap Delivery.items

@[simp] theorem contents_nil : contents ([] : List (Delivery Item)) = [] := rfl

@[simp] theorem contents_cons (delivery : Delivery Item) (queue : List (Delivery Item)) :
    contents (delivery :: queue) = delivery.items ++ contents queue :=
  List.flatMap_cons

@[simp] theorem contents_append (front back : List (Delivery Item)) :
    contents (front ++ back) = contents front ++ contents back :=
  List.flatMap_append

/-- Where the barrier with a ticket is: not announced, in the channel behind all data, with the
consumer, or acknowledged by a consumer that holds nothing any more. -/
inductive Stage (ticket : Nat) (queue : List (Delivery Item)) (handling : Option Nat)
    (acknowledged : List Nat) (drained : Prop) : Bool → Prop
  | streaming : (∀ delivery ∈ queue, delivery.isData = true) → handling = none →
      (∀ earlier ∈ acknowledged, earlier < ticket) → Stage ticket queue handling acknowledged drained false
  | queued (front : List (Delivery Item)) : queue = front ++ [.barrier ticket] →
      (∀ delivery ∈ front, delivery.isData = true) → handling = none →
      (∀ earlier ∈ acknowledged, earlier < ticket) → Stage ticket queue handling acknowledged drained true
  | handling : queue = [] → handling = some ticket → (∀ earlier ∈ acknowledged, earlier < ticket) →
      Stage ticket queue handling acknowledged drained true
  | answered : queue = [] → handling = none → drained → ticket ∈ acknowledged →
      (∀ earlier ∈ acknowledged, earlier ≤ ticket) → Stage ticket queue handling acknowledged drained true

namespace Stage

variable {ticket : Nat} {queue : List (Delivery Item)} {handling : Option Nat} {acknowledged : List Nat}
variable {drained : Prop} {announced : Bool}

theorem fresh : Stage ticket ([] : List (Delivery Item)) none [] drained false :=
  .streaming (by simp) rfl (by simp)

/-- What is in the consumer's hands may change, as long as a drained consumer stays drained. -/
theorem imp {later : Prop} (stage : Stage ticket queue handling acknowledged drained announced)
    (kept : queue = [] → handling = none → drained → later) :
    Stage ticket queue handling acknowledged later announced := by
  cases stage with
  | streaming data idle older => exact .streaming data idle older
  | queued front split data idle older => exact .queued front split data idle older
  | handling empty busy older => exact .handling empty busy older
  | answered empty idle done answer older => exact .answered empty idle (kept empty idle done) answer older

theorem send (stage : Stage ticket queue handling acknowledged drained false) (items : List Item)
    (later : Prop) : Stage ticket (queue ++ [.data items]) handling acknowledged later false := by
  cases stage with
  | streaming data idle older =>
      apply streaming _ idle older
      intro delivery member
      rcases List.mem_append.1 member with before | last
      · exact data delivery before
      · rw [List.mem_singleton.1 last]
        rfl

theorem announce (stage : Stage ticket queue handling acknowledged drained false) (later : Prop) :
    Stage ticket (queue ++ [.barrier ticket]) handling acknowledged later true := by
  cases stage with
  | streaming data idle older => exact .queued queue rfl data idle older

/-- The consumer takes data, and no barrier was in its hands. -/
theorem take_data {items : List Item} {rest : List (Delivery Item)}
    (stage : Stage ticket (.data items :: rest) handling acknowledged drained announced) (later : Prop) :
    Stage ticket rest handling acknowledged later announced ∧ handling = none := by
  cases stage with
  | streaming data idle older =>
      exact ⟨.streaming (fun delivery member => data delivery (List.mem_cons_of_mem _ member)) idle older, idle⟩
  | queued front split data idle older =>
      cases front with
      | nil => cases split
      | cons first front =>
          obtain ⟨-, rfl⟩ := List.cons.inj split
          exact ⟨.queued front rfl (fun delivery member => data delivery (List.mem_cons_of_mem _ member))
            idle older, idle⟩
  | handling empty => cases empty
  | answered empty => cases empty

/-- The barrier that the consumer takes is the announced one, and nothing is behind it. -/
theorem take_barrier {other : Nat} {rest : List (Delivery Item)}
    (stage : Stage ticket (.barrier other :: rest) handling acknowledged drained announced) (later : Prop) :
    Stage ticket rest (some other) acknowledged later announced ∧ handling = none ∧ other = ticket ∧
      rest = [] := by
  cases stage with
  | streaming data => exact absurd (data _ List.mem_cons_self) Bool.false_ne_true
  | queued front split data idle older =>
      cases front with
      | nil =>
          obtain ⟨same, rfl⟩ := List.cons.inj split
          obtain rfl := Delivery.barrier.inj same
          exact ⟨.handling rfl rfl older, idle, rfl, rfl⟩
      | cons first front =>
          obtain ⟨rfl, -⟩ := List.cons.inj split
          exact absurd (data _ List.mem_cons_self) Bool.false_ne_true
  | handling empty => cases empty
  | answered empty => cases empty

/-- The consumer answers the barrier in its hands. -/
theorem acknowledge {other : Nat} {later : Prop}
    (stage : Stage ticket queue (some other) acknowledged drained announced) (done : later) :
    Stage ticket queue none (other :: acknowledged) later announced ∧ queue = [] ∧ other = ticket ∧
      announced = true := by
  cases stage with
  | streaming _ idle => cases idle
  | queued _ _ _ idle => cases idle
  | handling empty busy older =>
      obtain rfl := Option.some.inj busy
      refine ⟨.answered empty rfl done List.mem_cons_self ?_, empty, rfl, rfl⟩
      intro earlier member
      rcases List.mem_cons.1 member with rfl | before
      · exact Nat.le_refl _
      · exact Nat.le_of_lt (older earlier before)
  | answered _ idle => cases idle

/-- The producer has its answer: the consumer holds nothing, and the next barrier may come. -/
theorem heard (stage : Stage ticket queue handling acknowledged drained announced)
    (answer : ticket ∈ acknowledged) (later : Prop) :
    Stage (ticket + 1) queue handling acknowledged later false ∧ queue = [] ∧ handling = none ∧ drained := by
  cases stage with
  | streaming _ _ older => exact absurd (older ticket answer) (Nat.lt_irrefl _)
  | queued _ _ _ _ older => exact absurd (older ticket answer) (Nat.lt_irrefl _)
  | handling _ _ older => exact absurd (older ticket answer) (Nat.lt_irrefl _)
  | answered empty idle done _ older =>
      refine ⟨.streaming ?_ idle fun earlier member => Nat.lt_succ_of_le (older earlier member), empty, idle, done⟩
      rw [empty]
      exact fun delivery member => absurd member List.not_mem_nil

/-- Until it is answered, an announced barrier is in the channel or with the consumer. -/
theorem pending (stage : Stage ticket queue handling acknowledged drained true)
    (open_ : ticket ∉ acknowledged) : queue ≠ [] ∨ handling = some ticket := by
  cases stage with
  | queued front split => exact .inl (by simp [split])
  | handling _ busy => exact .inr busy
  | answered _ _ _ answer => exact absurd answer open_

/-- A channel without a barrier of its own has none in the consumer's hands. -/
theorem idle (stage : Stage ticket queue handling acknowledged drained false) : handling = none := by
  cases stage with
  | streaming _ idle => exact idle

end Stage

end Terrasync.Lib
