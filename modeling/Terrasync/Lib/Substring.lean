import Mathlib.Algebra.BigOperators.Group.List.Basic
import Mathlib.Algebra.GroupWithZero.Nat
import Mathlib.Data.List.Forall2
import Mathlib.Data.List.Infix

/-! Texts cut at a separator of several symbols, found by substring search. Parts that are put
together are found again exactly when the separator occurs nowhere else, and a reader of the
parts that never gains weight gives back what was written only if it loses nothing. -/

set_option autoImplicit false

namespace Terrasync.Lib

variable {α β : Type}

/-- The separator is first met where a part ends. -/
def Separated (separator : List α) : List (List α) → Prop
  | [] => False
  | [part] => ¬ separator <:+: part
  | part :: next :: rest => ¬ separator <:+: part ++ separator.dropLast ∧ Separated separator (next :: rest)

/-! ### Weights -/

section Weights

/-- The weight of a row of texts, each with a separator. -/
def rowWeight (heavy : α → Bool) (separator : List α) (parts : List (List α)) : Nat :=
  (parts.map fun part => part.countP heavy + separator.countP heavy).sum

variable {heavy : α → Bool}

theorem rowWeight_cons (separator part : List α) (parts : List (List α)) :
    rowWeight heavy separator (part :: parts) =
      part.countP heavy + separator.countP heavy + rowWeight heavy separator parts := by
  simp only [rowWeight, List.map_cons, List.sum_cons]

theorem countP_intercalate (separator : List α) {parts : List (List α)} (some_ : parts ≠ []) :
    (separator.intercalate parts).countP heavy + separator.countP heavy = rowWeight heavy separator parts := by
  induction parts with
  | nil => exact absurd rfl some_
  | cons part rest ih =>
      rw [rowWeight_cons]
      cases rest with
      | nil => rw [List.intercalate_singleton]; rfl
      | cons next others =>
          have remaining := ih (List.cons_ne_nil _ _)
          rw [List.intercalate_cons_cons, List.countP_append, List.countP_append]
          omega

variable {separator : List α} {write : β → List α} {read : List α → Option β}

/-- What is read from a text was written with at most the weight of the text. -/
def Costly (heavy : α → Bool) (write : β → List α) (read : List α → Option β) : Prop :=
  ∀ text item, read text = some item → (write item).countP heavy ≤ text.countP heavy

theorem rowWeight_read_le (separator : List α) (costly : Costly heavy write read) (parts : List (List α)) :
    rowWeight heavy separator ((parts.filterMap read).map write) ≤ rowWeight heavy separator parts := by
  induction parts with
  | nil => exact Nat.le_refl _
  | cons part parts ih =>
      rw [rowWeight_cons]
      cases result : read part with
      | none => rw [List.filterMap_cons_none result]; omega
      | some item =>
          have cost := costly part item result
          rw [List.filterMap_cons_some result, List.map_cons, rowWeight_cons]
          omega

/-- Where no weight is lost, every part is read. -/
theorem all_read (costly : Costly heavy write read) (weighs : 0 < separator.countP heavy) {parts : List (List α)}
    (kept : rowWeight heavy separator parts ≤ rowWeight heavy separator ((parts.filterMap read).map write)) :
    List.Forall₂ (fun part item => read part = some item ∧ part.countP heavy = (write item).countP heavy)
      parts (parts.filterMap read) := by
  induction parts with
  | nil => exact .nil
  | cons part parts ih =>
      have others := rowWeight_read_le separator costly parts
      rw [rowWeight_cons] at kept
      cases result : read part with
      | none =>
          rw [List.filterMap_cons_none result] at kept
          omega
      | some item =>
          have cost := costly part item result
          rw [List.filterMap_cons_some result, List.map_cons, rowWeight_cons] at kept
          rw [List.filterMap_cons_some result]
          exact .cons ⟨result, by omega⟩ (ih (by omega))

/-- A text is cut at its separators in one way, once the weights of the parts are known. -/
theorem parts_eq_of_weights {symbol : α} {symbols : List α} (weighs : heavy symbol = true)
    {parts others : List (List α)}
    (weights : List.Forall₂ (fun part other => part.countP heavy = other.countP heavy) parts others)
    (same : (symbol :: symbols).intercalate parts = (symbol :: symbols).intercalate others) : parts = others := by
  have ahead : ∀ {part other rest rest' : List α}, part.countP heavy = other.countP heavy →
      part ++ symbol :: rest = other ++ symbol :: rest' → part <+: other → part = other := by
    rintro part _ rest rest' weight whole ⟨more, rfl⟩
    cases more with
    | nil => rw [List.append_nil]
    | cons extra more =>
        rw [List.append_assoc] at whole
        obtain ⟨rfl, _⟩ := List.cons.inj (List.append_cancel_left whole)
        rw [List.countP_append, List.countP_cons_of_pos weighs] at weight
        omega
  induction weights with
  | nil => rfl
  | @cons part other parts others weight rest ih =>
      cases rest with
      | nil =>
          rw [List.intercalate_singleton, List.intercalate_singleton] at same
          rw [same]
      | cons weight' rest' =>
          rw [List.intercalate_cons_cons, List.intercalate_cons_cons, List.append_assoc, List.append_assoc,
            List.cons_append, List.cons_append] at same
          have equal : part = other := by
            obtain before | behind := List.prefix_or_prefix_of_prefix ⟨_, same⟩ ⟨_, rfl⟩
            · exact ahead weight same before
            · exact (ahead weight.symm same.symm behind).symm
          subst equal
          have remaining := List.append_cancel_left (List.cons.inj (List.append_cancel_left same)).2
          rw [ih remaining]

end Weights

/-! ### The first occurrence -/

theorem not_prefix_of_free {pattern front : List α} (rest : List α) {symbol : α}
    (free : ¬ pattern <:+: symbol :: front ++ pattern.dropLast) :
    ¬ pattern <+: symbol :: front ++ pattern ++ rest := by
  intro found
  have length : pattern.dropLast.length = pattern.length - 1 := List.length_dropLast
  have shorter : symbol :: front ++ pattern.dropLast <+: symbol :: front ++ pattern ++ rest := by
    rw [List.append_assoc]
    exact (List.prefix_append_right_inj _).mpr ((List.dropLast_prefix pattern).trans (List.prefix_append _ _))
  refine free (List.prefix_of_prefix_length_le found shorter ?_).isInfix
  simp only [List.length_append, List.length_cons]
  omega

theorem free_of_cons {pattern front : List α} {symbol : α} (free : ¬ pattern <:+: symbol :: front) :
    ¬ pattern <:+: front :=
  fun found => free (found.trans (List.suffix_cons symbol front).isInfix)

theorem first_occurrence {pattern text : List α} (nonempty : pattern ≠ []) (occurs : pattern <:+: text) :
    ∃ front rest, text = front ++ pattern ++ rest ∧ ¬ pattern <:+: front ++ pattern.dropLast := by
  induction text with
  | nil => exact absurd (List.infix_nil.mp occurs) nonempty
  | cons symbol text ih =>
      by_cases here : pattern <+: symbol :: text
      · obtain ⟨rest, same⟩ := here
        refine ⟨[], rest, same.symm, fun found => ?_⟩
        have length := found.length_le
        have positive := List.length_pos_of_ne_nil nonempty
        rw [List.nil_append, List.length_dropLast] at length
        omega
      · obtain ⟨front, rest, same, free⟩ := ih ((List.infix_cons_iff.mp occurs).resolve_left here)
        refine ⟨symbol :: front, rest, congrArg (symbol :: ·) same, fun found => ?_⟩
        obtain earlier | later := List.infix_cons_iff.mp found
        · apply here
          rw [same, List.append_assoc]
          exact earlier.trans (List.cons_prefix_cons.mpr ⟨rfl, (List.prefix_append_right_inj _).mpr
            ((List.dropLast_prefix pattern).trans (List.prefix_append _ _))⟩)
        · exact free later

/-- The induction along the separators of a text. -/
theorem split_induction {separator : List α} (nonempty : separator ≠ []) {motive : List α → Prop}
    (whole : ∀ text, ¬ separator <:+: text → motive text)
    (cut : ∀ front rest, ¬ separator <:+: front ++ separator.dropLast → motive rest →
      motive (front ++ separator ++ rest))
    (text : List α) : motive text := by
  induction size : text.length using Nat.strong_induction_on generalizing text with
  | _ size ih =>
      by_cases occurs : separator <:+: text
      · obtain ⟨front, rest, rfl, free⟩ := first_occurrence nonempty occurs
        have positive := List.length_pos_of_ne_nil nonempty
        simp only [List.length_append] at size
        exact cut front rest free (ih rest.length (by omega) rest rfl)
      · exact whole text occurs

variable [DecidableEq α]

/-- Where a pattern first occurs in a text. -/
def indexOf (pattern : List α) : List α → Option Nat
  | [] => if pattern = [] then some 0 else none
  | symbol :: rest =>
      if pattern <+: symbol :: rest then some 0 else (indexOf pattern rest).map (· + 1)

/-- The number tells how many symbols of a separator are still to be passed over. -/
def splitFrom (separator : List α) : Nat → List α → List (List α)
  | _, [] => [[]]
  | passed + 1, _ :: rest => splitFrom separator passed rest
  | 0, symbol :: rest =>
      if separator <+: symbol :: rest then [] :: splitFrom separator (separator.length - 1) rest
      else (splitFrom separator 0 rest).modifyHead (symbol :: ·)

def splitAll (separator text : List α) : List (List α) := splitFrom separator 0 text

theorem indexOf_append {pattern front : List α} (rest : List α)
    (free : ¬ pattern <:+: front ++ pattern.dropLast) :
    indexOf pattern (front ++ pattern ++ rest) = some front.length := by
  induction front with
  | nil =>
      cases shape : pattern ++ rest with
      | nil =>
          obtain ⟨rfl, _⟩ := List.append_eq_nil_iff.mp shape
          exact absurd (List.nil_infix) free
      | cons symbol text =>
          rw [List.nil_append, shape, indexOf, if_pos (shape ▸ List.prefix_append pattern rest)]
          rfl
  | cons symbol front ih =>
      have later := not_prefix_of_free rest free
      rw [List.cons_append, List.cons_append] at later ⊢
      rw [indexOf, if_neg later, ih (free_of_cons free)]
      rfl

theorem indexOf_free {pattern text : List α} (free : ¬ pattern <:+: text) : indexOf pattern text = none := by
  induction text with
  | nil =>
      rw [indexOf, if_neg]
      rintro rfl
      exact free List.nil_infix
  | cons symbol text ih =>
      rw [indexOf, if_neg fun found => free found.isInfix, ih (free_of_cons free)]
      rfl

/-! ### Splitting -/

theorem splitFrom_passed (separator front rest : List α) :
    splitFrom separator front.length (front ++ rest) = splitAll separator rest := by
  induction front with
  | nil => rfl
  | cons symbol front ih => exact ih

theorem splitAll_separator {separator : List α} (nonempty : separator ≠ []) (rest : List α) :
    splitAll separator (separator ++ rest) = [] :: splitAll separator rest := by
  cases separator with
  | nil => exact absurd rfl nonempty
  | cons symbol symbols =>
      have passed := splitFrom_passed (symbol :: symbols) symbols rest
      rw [splitAll, List.cons_append, splitFrom, if_pos ⟨rest, rfl⟩]
      exact congrArg _ passed

theorem splitAll_cons {separator text : List α} {symbol : α} (absent : ¬ separator <+: symbol :: text) :
    splitAll separator (symbol :: text) = (splitAll separator text).modifyHead (symbol :: ·) := by
  rw [splitAll, splitFrom, if_neg absent]
  rfl

theorem splitAll_append {separator front : List α} (rest : List α)
    (free : ¬ separator <:+: front ++ separator.dropLast) :
    splitAll separator (front ++ separator ++ rest) = front :: splitAll separator rest := by
  induction front with
  | nil =>
      refine splitAll_separator ?_ rest
      rintro rfl
      exact free List.nil_infix
  | cons symbol front ih =>
      have later := not_prefix_of_free rest free
      rw [List.cons_append, List.cons_append] at later ⊢
      rw [splitAll_cons later, ih (free_of_cons free)]
      rfl

theorem splitAll_free {separator text : List α} (free : ¬ separator <:+: text) :
    splitAll separator text = [text] := by
  induction text with
  | nil => rfl
  | cons symbol text ih =>
      rw [splitAll_cons fun found => free found.isInfix, ih (free_of_cons free)]
      rfl

theorem splitAll_ne_nil {separator : List α} (nonempty : separator ≠ []) (text : List α) :
    splitAll separator text ≠ [] := by
  induction text using split_induction nonempty with
  | whole text free => rw [splitAll_free free]; exact List.cons_ne_nil _ _
  | cut front rest free _ => rw [splitAll_append rest free]; exact List.cons_ne_nil _ _

theorem splitAll_separated {separator : List α} (nonempty : separator ≠ []) (text : List α) :
    Separated separator (splitAll separator text) := by
  induction text using split_induction nonempty with
  | whole text free => rw [splitAll_free free]; exact free
  | cut front rest free ih =>
      rw [splitAll_append rest free]
      cases parts : splitAll separator rest with
      | nil => exact absurd parts (splitAll_ne_nil nonempty rest)
      | cons next others => rw [parts] at ih; exact ⟨free, ih⟩

theorem intercalate_splitAll {separator : List α} (nonempty : separator ≠ []) (text : List α) :
    separator.intercalate (splitAll separator text) = text := by
  induction text using split_induction nonempty with
  | whole text free => rw [splitAll_free free, List.intercalate_singleton]
  | cut front rest free ih =>
      rw [splitAll_append rest free, List.intercalate_cons_of_ne_nil (splitAll_ne_nil nonempty rest), ih]

theorem splitAll_intercalate {separator : List α} {parts : List (List α)} (separated : Separated separator parts) :
    splitAll separator (separator.intercalate parts) = parts := by
  fun_induction Separated separator parts with
  | case1 => exact separated.elim
  | case2 part => rw [List.intercalate_singleton, splitAll_free separated]
  | case3 part next rest ih =>
      rw [List.intercalate_cons_cons, splitAll_append _ separated.1, ih separated.2]

theorem splitAll_intercalate_iff {separator : List α} (nonempty : separator ≠ []) {parts : List (List α)} :
    splitAll separator (separator.intercalate parts) = parts ↔ Separated separator parts := by
  refine ⟨fun same => ?_, splitAll_intercalate⟩
  rw [← same]
  exact splitAll_separated nonempty _

/-! ### What is read back -/

variable {heavy : α → Bool} {separator : List α} {write : β → List α} {read : List α → Option β}

/-- What is written between separators is read back exactly when the separators are found where
they were put and every item is read back by itself. -/
theorem read_written_iff (costly : Costly heavy write read) {symbol : α} {symbols : List α}
    (weighs : heavy symbol = true) {items : List β} (some_ : items ≠ []) :
    (splitAll (symbol :: symbols) ((symbol :: symbols).intercalate (items.map write))).filterMap read = items ↔
      Separated (symbol :: symbols) (items.map write) ∧ ∀ item ∈ items, read (write item) = some item := by
  have nonempty : symbol :: symbols ≠ [] := List.cons_ne_nil _ _
  have written : items.map write ≠ [] := fun empty => some_ (List.map_eq_nil_iff.mp empty)
  constructor
  · intro result
    have text := intercalate_splitAll nonempty ((symbol :: symbols).intercalate (items.map write))
    have separates : 0 < (symbol :: symbols).countP heavy := List.countP_pos_iff.mpr ⟨symbol, List.mem_cons_self, weighs⟩
    have whole : _ = rowWeight heavy _ _ := countP_intercalate (symbol :: symbols) written
    rw [← text, countP_intercalate _ (splitAll_ne_nil nonempty _)] at whole
    have reads := all_read costly separates (by rw [result]; exact whole.le)
    rw [result] at reads
    have parts := parts_eq_of_weights weighs (List.forall₂_map_right_iff.mpr (reads.imp fun _ _ read => read.2)) text
    refine ⟨(splitAll_intercalate_iff nonempty).mp parts, ?_⟩
    rw [parts, List.forall₂_map_left_iff] at reads
    exact List.forall₂_same.mp (reads.imp fun _ _ read => read.1)
  · rintro ⟨separated, reads⟩
    rw [splitAll_intercalate separated, List.filterMap_map]
    calc items.filterMap (read ∘ write) = items.filterMap some := List.filterMap_congr reads
      _ = items := List.filterMap_some

/-- The text of what is read from the parts weighs no more than they do. -/
theorem written_le_of_read (costly : Costly heavy write read) (nonempty : separator ≠ []) {text : List α}
    {items : List β} (some_ : items ≠ []) (result : (splitAll separator text).filterMap read = items) :
    (separator.intercalate (items.map write)).countP heavy ≤ text.countP heavy := by
  have written : items.map write ≠ [] := fun empty => some_ (List.map_eq_nil_iff.mp empty)
  have less := rowWeight_read_le separator costly (splitAll separator text)
  rw [result, ← countP_intercalate _ written, ← countP_intercalate _ (splitAll_ne_nil nonempty text),
    intercalate_splitAll nonempty] at less
  omega

end Terrasync.Lib
