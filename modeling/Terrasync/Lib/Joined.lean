import Mathlib.Data.List.Basic

/-! Lists put together around a separator, and what the result still says of its parts. -/

set_option autoImplicit false

namespace Terrasync.Lib

variable {α : Type}

/-- The first separator cuts a list in one way. -/
theorem append_cons_inj_first {separator : α} {first first' rest rest' : List α}
    (free : separator ∉ first) (free' : separator ∉ first')
    (same : first ++ separator :: rest = first' ++ separator :: rest') :
    first = first' ∧ rest = rest' := by
  induction first generalizing first' with
  | nil =>
      cases first' with
      | nil => exact ⟨rfl, (List.cons.inj same).2⟩
      | cons head tail =>
          obtain ⟨rfl, _⟩ := List.cons.inj same
          exact absurd List.mem_cons_self free'
  | cons head tail ih =>
      cases first' with
      | nil =>
          obtain ⟨rfl, _⟩ := List.cons.inj same
          exact absurd List.mem_cons_self free
      | cons head' tail' =>
          obtain ⟨rfl, remaining⟩ := List.cons.inj same
          obtain ⟨rfl, rfl⟩ := ih (fun member => free (List.mem_cons_of_mem _ member))
            (fun member => free' (List.mem_cons_of_mem _ member)) remaining
          exact ⟨rfl, rfl⟩

/-- So does the last one. -/
theorem append_cons_inj_last {separator : α} {first first' rest rest' : List α}
    (free : separator ∉ rest) (free' : separator ∉ rest')
    (same : first ++ separator :: rest = first' ++ separator :: rest') :
    first = first' ∧ rest = rest' := by
  have reversed := congrArg List.reverse same
  simp only [List.reverse_append, List.reverse_cons, List.append_assoc, List.singleton_append] at reversed
  obtain ⟨rests, firsts⟩ := append_cons_inj_first
    (fun member => free (List.mem_reverse.mp member))
    (fun member => free' (List.mem_reverse.mp member)) reversed
  exact ⟨List.reverse_injective firsts, List.reverse_injective rests⟩

theorem intercalate_ne_nil {separator : α} {part : List α} (some_ : part ≠ []) (rest : List (List α)) :
    [separator].intercalate (part :: rest) ≠ [] := by
  cases rest with
  | nil => simpa [List.intercalate] using some_
  | cons next others => simp [List.intercalate]

/-- Parts without the separator can be read back from their join. -/
theorem intercalate_inj [DecidableEq α] {separator : α} {parts parts' : List (List α)}
    (some_ : parts ≠ []) (some' : parts' ≠ []) (free : ∀ part ∈ parts, separator ∉ part)
    (free' : ∀ part ∈ parts', separator ∉ part)
    (same : [separator].intercalate parts = [separator].intercalate parts') : parts = parts' := by
  rw [← List.splitOn_intercalate separator free some_, same,
    List.splitOn_intercalate separator free' some']

end Terrasync.Lib
