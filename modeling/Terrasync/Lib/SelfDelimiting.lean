import Mathlib.Data.List.Basic

/-! Encodings that tell where they end: what follows an encoded value does not change how
it is read back. Concatenations of such encodings are such encodings again. -/

set_option autoImplicit false

namespace Terrasync.Lib

variable {Value Symbol : Type}

structure SelfDelimiting (encode : Value → List Symbol) : Prop where
  /-- The encoded value and what follows it are determined by the whole. -/
  split : ∀ {first second : Value} {rest following : List Symbol},
    encode first ++ rest = encode second ++ following → first = second ∧ rest = following

namespace SelfDelimiting

variable {encode : Value → List Symbol}

theorem injective (delimits : SelfDelimiting encode) {first second : Value}
    (same : encode first = encode second) : first = second := by
  have whole : encode first ++ [] = encode second ++ [] := by rw [same]
  exact (delimits.split whole).1

/-- All values are encoded in the same number of symbols. -/
theorem of_length {width : Nat} (fixed : ∀ value, (encode value).length = width)
    (separates : ∀ {first second}, encode first = encode second → first = second) : SelfDelimiting encode := by
  refine ⟨fun {first second rest following} same => ?_⟩
  obtain ⟨values, rests⟩ := List.append_inj same ((fixed first).trans (fixed second).symm)
  exact ⟨separates values, rests⟩

/-- A tag in front says whether a value follows. -/
theorem option (delimits : SelfDelimiting encode) {absent present : Symbol} (different : absent ≠ present) :
    SelfDelimiting fun value : Option Value =>
      match value with
      | none => [absent]
      | some value => present :: encode value := by
  refine ⟨fun {first second rest following} same => ?_⟩
  cases first with
  | none =>
      cases second with
      | none => exact ⟨rfl, (List.cons.inj same).2⟩
      | some value => exact absurd (List.cons.inj same).1 different
  | some value =>
      cases second with
      | none => exact absurd (List.cons.inj same).1.symm different
      | some other =>
          obtain ⟨values, rests⟩ := delimits.split (List.cons.inj same).2
          exact ⟨congrArg some values, rests⟩

/-- The length of a text stands in front of it. -/
theorem withLength {header : Nat → List Symbol} {text : Value → List Symbol} {bound : Nat}
    (fits : ∀ value, (text value).length < bound)
    (separates : ∀ {first second}, text first = text second → first = second)
    (delimits : ∀ {first second : Nat} {rest following : List Symbol}, first < bound → second < bound →
      header first ++ rest = header second ++ following → first = second ∧ rest = following) :
    SelfDelimiting fun value => header (text value).length ++ text value := by
  refine ⟨fun {first second rest following} same => ?_⟩
  rw [List.append_assoc, List.append_assoc] at same
  obtain ⟨lengths, bodies⟩ := delimits (fits first) (fits second) same
  obtain ⟨texts, rests⟩ := List.append_inj bodies lengths
  exact ⟨separates texts, rests⟩

end SelfDelimiting

end Terrasync.Lib
