import Mathlib.Data.List.Basic

/-! Fallible computations taken apart: a sequence that succeeded had every part succeed. -/

set_option autoImplicit false

namespace Terrasync.Lib

variable {Error Value Result : Type}

theorem bind_eq_ok {first : Except Error Value} {rest : Value → Except Error Result} {result : Result} :
    (first >>= rest) = .ok result ↔ ∃ value, first = .ok value ∧ rest value = .ok result := by
  cases first with
  | error reason =>
      constructor
      · intro impossible
        cases impossible
      · rintro ⟨value, impossible, -⟩
        cases impossible
  | ok value =>
      constructor
      · intro succeeded
        exact ⟨value, rfl, succeeded⟩
      · rintro ⟨same, equal, succeeded⟩
        cases equal
        exact succeeded

theorem bind_succeeds {first : Except Error Value} {rest : Value → Except Error Result} {value : Value}
    (succeeded : first = .ok value) (later : ∃ result, rest value = .ok result) :
    ∃ result, (first >>= rest) = .ok result := by
  obtain ⟨result, succeeds⟩ := later
  exact ⟨result, bind_eq_ok.mpr ⟨value, succeeded, succeeds⟩⟩

variable {Item : Type}

/-- A fallible fold that succeeded carries what each step adds for its item. -/
theorem foldlM_invariant {step : Value → Item → Except Error Value}
    {invariant : List Item → Value → Prop}
    (preserved : ∀ {seen item value next}, invariant seen value → step value item = .ok next →
      invariant (seen ++ [item]) next)
    {items seen : List Item} {value final : Value} (holds : invariant seen value)
    (folded : items.foldlM step value = .ok final) : invariant (seen ++ items) final := by
  induction items generalizing seen value with
  | nil =>
      cases folded
      rw [List.append_nil]
      exact holds
  | cons item rest ih =>
      rw [List.foldlM_cons] at folded
      obtain ⟨next, stepped, remaining⟩ := bind_eq_ok.mp folded
      have later := ih (preserved holds stepped) remaining
      rw [List.append_assoc] at later
      exact later

/-- A fallible fold succeeds when every item's step does, whatever the state. -/
theorem foldlM_succeeds {step : Value → Item → Except Error Value} {items : List Item}
    (succeeds : ∀ item ∈ items, ∀ value, ∃ next, step value item = .ok next) (value : Value) :
    ∃ final, items.foldlM step value = .ok final := by
  induction items generalizing value with
  | nil => exact ⟨value, rfl⟩
  | cons item rest ih =>
      obtain ⟨next, stepped⟩ := succeeds item List.mem_cons_self value
      rw [List.foldlM_cons]
      exact bind_succeeds stepped
        (ih (fun other member => succeeds other (List.mem_cons_of_mem _ member)) next)

end Terrasync.Lib
