import Mathlib.Data.Char
import Mathlib.Data.List.Basic
import Mathlib.Tactic.IntervalCases

/-! Lower case of texts: the full mapping with its rule for a final sigma, over the tables of
the Unicode character database, and the mapping of the ASCII letters alone. -/

set_option autoImplicit false

namespace Terrasync.Lib

/-- `Lowercase_Mapping`, `Cased` and `Case_Ignorable`. -/
structure CaseTables where
  toLower : Char → List Char
  cased : Char → Bool
  caseIgnorable : Char → Bool

/-- What the character database says of the ASCII letters and of lowercase characters. -/
structure CaseTables.Documented (tables : CaseTables) : Prop where
  ascii : ∀ character : Char, character.toNat < 128 → tables.toLower character = [character.toLower]
  settled : ∀ character, ∀ lower ∈ tables.toLower character, lower ≠ 'Σ' ∧ tables.toLower lower = [lower]
  sigma : tables.toLower 'σ' = ['σ'] ∧ tables.toLower 'ς' = ['ς']
  letters : ∀ character : Char, character.isAlpha → tables.cased character ∧ tables.caseIgnorable character = false

/-- The ASCII letters in lower case. -/
def asciiLower (text : List Char) : List Char := text.map Char.toLower

theorem asciiLower_cons (character : Char) (rest : List Char) :
    asciiLower (character :: rest) = character.toLower :: asciiLower rest := rfl

section Lowercase

variable (tables : CaseTables)

def caseIgnorableThenCased (characters : List Char) : Bool :=
  match characters.dropWhile tables.caseIgnorable with
  | [] => false
  | character :: _ => tables.cased character

/-- `to_lowercase` behind the characters of `before`, the last of them first. -/
def lowercaseFrom (before : List Char) : List Char → List Char
  | [] => []
  | character :: rest =>
      (if character = 'Σ' then
        if caseIgnorableThenCased tables before && !caseIgnorableThenCased tables rest then ['ς'] else ['σ']
      else tables.toLower character) ++ lowercaseFrom (character :: before) rest

/-- `str::to_lowercase`. -/
def toLowercase (text : List Char) : List Char := lowercaseFrom tables [] text

end Lowercase

/-! ### The ASCII letters -/

/-- A character that is not its own lower case is an ASCII letter, and so is its lower case. -/
theorem letter_of_toLower_ne {character : Char} (changed : character.toLower ≠ character) :
    character ≠ 'Σ' ∧ character.toNat < 128 ∧ character.isAlpha ∧ character.toLower ≠ 'Σ' ∧
      character.toLower.toNat < 128 ∧ character.toLower.isAlpha ∧ character.toLower.toLower = character.toLower := by
  have upper : 65 ≤ character.toNat ∧ character.toNat ≤ 90 := by
    by_contra outside
    refine changed (dif_neg fun inside => outside ?_)
    exact ⟨UInt32.le_iff_toNat_le.mp inside.1, UInt32.le_iff_toNat_le.mp inside.2⟩
  obtain ⟨low, high⟩ := upper
  have same : character = Char.ofNat character.toNat := (Char.ofNat_toNat character).symm
  generalize character.toNat = code at same low high
  subst same
  interval_cases code <;> decide

/-- The tables for ASCII texts. -/
def CaseTables.asciiOnly : CaseTables where
  toLower := fun character => if character = 'Σ' then ['σ'] else [character.toLower]
  cased := Char.isAlpha
  caseIgnorable := fun _ => false

theorem CaseTables.toLower_asciiOnly (character : Char) :
    asciiOnly.toLower character = if character = 'Σ' then ['σ'] else [character.toLower] := rfl

theorem CaseTables.asciiOnly_documented : asciiOnly.Documented where
  ascii := by
    intro character small
    have other : character ≠ 'Σ' := by
      rintro rfl
      exact absurd small (by decide)
    exact if_neg other
  settled := by
    intro character lower member
    by_cases sigma : character = 'Σ'
    · rw [toLower_asciiOnly, if_pos sigma, List.mem_singleton] at member
      rw [member]
      decide
    · rw [toLower_asciiOnly, if_neg sigma, List.mem_singleton] at member
      by_cases unchanged : character.toLower = character
      · rw [member, unchanged]
        exact ⟨sigma, (if_neg sigma).trans (congrArg (fun other => [other]) unchanged)⟩
      · obtain ⟨-, -, -, other, -, -, again⟩ := letter_of_toLower_ne unchanged
        rw [member]
        exact ⟨other, (if_neg other).trans (congrArg (fun other => [other]) again)⟩
  sigma := by decide
  letters := fun _ letter => ⟨letter, rfl⟩

variable {tables : CaseTables} (documented : tables.Documented)

include documented

theorem toLower_asciiLower (character : Char) : tables.toLower character.toLower = tables.toLower character := by
  by_cases unchanged : character.toLower = character
  · rw [unchanged]
  · obtain ⟨-, small, -, -, lowerSmall, -, again⟩ := letter_of_toLower_ne unchanged
    rw [documented.ascii _ small, documented.ascii _ lowerSmall, again]

theorem cased_asciiLower (character : Char) : tables.cased character.toLower = tables.cased character := by
  by_cases unchanged : character.toLower = character
  · rw [unchanged]
  · obtain ⟨-, -, letter, -, -, lowerLetter, -⟩ := letter_of_toLower_ne unchanged
    rw [(documented.letters _ letter).1, (documented.letters _ lowerLetter).1]

theorem caseIgnorable_asciiLower (character : Char) :
    tables.caseIgnorable character.toLower = tables.caseIgnorable character := by
  by_cases unchanged : character.toLower = character
  · rw [unchanged]
  · obtain ⟨-, -, letter, -, -, lowerLetter, -⟩ := letter_of_toLower_ne unchanged
    rw [(documented.letters _ letter).2, (documented.letters _ lowerLetter).2]

theorem caseIgnorableThenCased_asciiLower (characters : List Char) :
    caseIgnorableThenCased tables (asciiLower characters) = caseIgnorableThenCased tables characters := by
  induction characters with
  | nil => rfl
  | cons character rest ih =>
      have ignorable := caseIgnorable_asciiLower documented character
      rw [caseIgnorableThenCased, caseIgnorableThenCased] at ih
      rw [asciiLower_cons, caseIgnorableThenCased, caseIgnorableThenCased]
      cases skipped : tables.caseIgnorable character with
      | true =>
          rw [skipped] at ignorable
          rw [List.dropWhile_cons_of_pos ignorable, List.dropWhile_cons_of_pos skipped]
          exact ih
      | false =>
          rw [skipped] at ignorable
          rw [List.dropWhile_cons_of_neg (by simp [ignorable]), List.dropWhile_cons_of_neg (by simp [skipped])]
          exact cased_asciiLower documented character

/-! ### Both mappings -/

theorem lowercaseFrom_asciiLower (before text : List Char) :
    lowercaseFrom tables (asciiLower before) (asciiLower text) = lowercaseFrom tables before text := by
  induction text generalizing before with
  | nil => rfl
  | cons character rest ih =>
      have further := ih (character :: before)
      rw [asciiLower_cons] at further
      have sigma : character.toLower = 'Σ' ↔ character = 'Σ' := by
        by_cases unchanged : character.toLower = character
        · rw [unchanged]
        · obtain ⟨other, -, -, otherLower, -⟩ := letter_of_toLower_ne unchanged
          exact iff_of_false otherLower other
      rw [asciiLower_cons, lowercaseFrom, lowercaseFrom, further,
        caseIgnorableThenCased_asciiLower documented, caseIgnorableThenCased_asciiLower documented,
        toLower_asciiLower documented]
      simp only [sigma]

/-- Lower case of the ASCII letters first makes no difference to the full mapping. -/
theorem toLowercase_asciiLower (text : List Char) : toLowercase tables (asciiLower text) = toLowercase tables text :=
  lowercaseFrom_asciiLower documented [] text

theorem settled_of_mem_lowercaseFrom {before text : List Char} {character : Char}
    (member : character ∈ lowercaseFrom tables before text) :
    character ≠ 'Σ' ∧ tables.toLower character = [character] := by
  induction text generalizing before with
  | nil => cases member
  | cons first rest ih =>
      rw [lowercaseFrom] at member
      rcases List.mem_append.mp member with here | further
      · split at here
        · split at here
          · rw [List.mem_singleton.mp here]
            exact ⟨by decide, documented.sigma.2⟩
          · rw [List.mem_singleton.mp here]
            exact ⟨by decide, documented.sigma.1⟩
        · exact documented.settled first character here
      · exact ih further

omit documented in
theorem lowercaseFrom_of_settled {before text : List Char}
    (settled : ∀ character ∈ text, character ≠ 'Σ' ∧ tables.toLower character = [character]) :
    lowercaseFrom tables before text = text := by
  induction text generalizing before with
  | nil => rfl
  | cons first rest ih =>
      obtain ⟨other, fixed⟩ := settled first List.mem_cons_self
      rw [lowercaseFrom, if_neg other, fixed, ih fun character member =>
        settled character (List.mem_cons_of_mem _ member)]
      rfl

theorem toLowercase_toLowercase (text : List Char) :
    toLowercase tables (toLowercase tables text) = toLowercase tables text :=
  lowercaseFrom_of_settled fun _ member => settled_of_mem_lowercaseFrom documented member

/-- The ASCII mapping of one text is the full mapping of another only where both map the one alike. -/
theorem toLowercase_eq_of_asciiLower_eq {text other : List Char} (same : toLowercase tables other = asciiLower text) :
    toLowercase tables text = asciiLower text := by
  rw [← toLowercase_asciiLower documented text, ← same, toLowercase_toLowercase documented]

end Terrasync.Lib
