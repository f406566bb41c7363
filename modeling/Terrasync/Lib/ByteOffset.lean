import Mathlib.Algebra.GroupWithZero.Nat
import Mathlib.Data.List.Basic

/-! Texts cut at byte offsets of their UTF-8 encoding. An offset past the end or inside a
character cuts nowhere. -/

set_option autoImplicit false

namespace Terrasync.Lib.ByteOffset

def byteLength (text : List Char) : Nat := (text.map Char.utf8Size).sum

/-- Both sides of an offset, if it lies between two characters. -/
def cut : List Char → Nat → Option (List Char × List Char)
  | text, 0 => some ([], text)
  | [], _ + 1 => none
  | first :: rest, offset + 1 =>
      if first.utf8Size ≤ offset + 1 then
        (cut rest (offset + 1 - first.utf8Size)).map fun sides => (first :: sides.1, sides.2)
      else none

/-- The characters between two offsets. -/
def slice (text : List Char) (start stop : Nat) : Option (List Char) :=
  (cut text stop).bind fun sides => (cut sides.1 start).map Prod.snd

def IsBoundary (text : List Char) (offset : Nat) : Prop := (cut text offset).isSome = true

instance (text : List Char) (offset : Nat) : Decidable (IsBoundary text offset) :=
  inferInstanceAs (Decidable (_ = _))

@[simp] theorem byteLength_nil : byteLength [] = 0 := rfl

@[simp] theorem byteLength_cons (first : Char) (rest : List Char) :
    byteLength (first :: rest) = first.utf8Size + byteLength rest := rfl

@[simp] theorem byteLength_append (front back : List Char) :
    byteLength (front ++ back) = byteLength front + byteLength back := by
  simp [byteLength]

theorem byteLength_eq_zero {text : List Char} : byteLength text = 0 ↔ text = [] := by
  cases text with
  | nil => exact iff_of_true rfl rfl
  | cons first rest =>
      have positive := first.utf8Size_pos
      simp only [byteLength_cons, reduceCtorEq, iff_false]
      omega

theorem cut_zero (text : List Char) : cut text 0 = some ([], text) := by
  cases text <;> rfl

theorem cut_eq_some_iff {text front back : List Char} {offset : Nat} :
    cut text offset = some (front, back) ↔ text = front ++ back ∧ byteLength front = offset := by
  induction text generalizing front offset with
  | nil =>
      cases offset with
      | zero =>
          constructor
          · rintro ⟨⟩
            exact ⟨rfl, rfl⟩
          · rintro ⟨empty, _⟩
            obtain ⟨rfl, rfl⟩ := List.append_eq_nil_iff.mp empty.symm
            rfl
      | succ offset =>
          simp only [cut, reduceCtorEq, false_iff]
          rintro ⟨empty, length⟩
          rw [(List.append_eq_nil_iff.mp empty.symm).1] at length
          cases length
  | cons first rest ih =>
      cases offset with
      | zero =>
          rw [cut_zero]
          constructor
          · rintro ⟨⟩
            exact ⟨rfl, rfl⟩
          · rintro ⟨same, length⟩
            cases byteLength_eq_zero.mp length
            rw [same, List.nil_append]
      | succ offset =>
          have positive := first.utf8Size_pos
          simp only [cut]
          constructor
          · intro taken
            split at taken
            · rename_i fits
              obtain ⟨⟨inner, outer⟩, cuts, same⟩ := Option.map_eq_some_iff.mp taken
              cases same
              obtain ⟨rfl, length⟩ := ih.mp cuts
              refine ⟨rfl, ?_⟩
              rw [byteLength_cons, length]
              omega
            · cases taken
          · rintro ⟨same, length⟩
            cases front with
            | nil => cases length
            | cons other front =>
                cases same
                rw [byteLength_cons] at length
                rw [if_pos (by omega), ih.mpr ⟨rfl, by omega⟩]
                rfl

theorem isBoundary_iff {text : List Char} {offset : Nat} :
    IsBoundary text offset ↔ ∃ front back, text = front ++ back ∧ byteLength front = offset := by
  rw [IsBoundary, Option.isSome_iff_exists]
  constructor
  · rintro ⟨⟨front, back⟩, cuts⟩
    exact ⟨front, back, cut_eq_some_iff.mp cuts⟩
  · rintro ⟨front, back, parts⟩
    exact ⟨(front, back), cut_eq_some_iff.mpr parts⟩

theorem cut_append (front back : List Char) : cut (front ++ back) (byteLength front) = some (front, back) :=
  cut_eq_some_iff.mpr ⟨rfl, rfl⟩

theorem slice_append (front middle back : List Char) :
    slice (front ++ middle ++ back) (byteLength front) (byteLength front + byteLength middle) = some middle := by
  rw [slice, ← byteLength_append, cut_append, Option.bind_some, cut_append]
  rfl

/-- Between two boundaries in order there is a slice. -/
theorem slice_isSome {text : List Char} {start stop : Nat} (ordered : start ≤ stop) (first : IsBoundary text start)
    (last : IsBoundary text stop) : (slice text start stop).isSome = true := by
  obtain ⟨front, back, rfl, rfl⟩ := isBoundary_iff.mp first
  obtain ⟨whole, rest, same, rfl⟩ := isBoundary_iff.mp last
  obtain ⟨middle, rfl, rfl⟩ | ⟨middle, rfl, rfl⟩ := List.append_eq_append_iff.mp same
  · rw [byteLength_append, ← List.append_assoc, slice_append]
    rfl
  · rw [byteLength_append] at ordered
    cases byteLength_eq_zero.mp (show byteLength middle = 0 by omega)
    have slices := slice_append whole [] back
    rw [List.append_nil, byteLength_nil, Nat.add_zero] at slices
    rw [List.append_nil, slices]
    rfl

/-- In a text of one-byte characters offsets count characters. -/
theorem byteLength_eq_length {text : List Char} (single : ∀ letter ∈ text, letter.utf8Size = 1) :
    byteLength text = text.length := by
  induction text with
  | nil => rfl
  | cons first rest ih =>
      obtain ⟨one, others⟩ := List.forall_mem_cons.mp single
      rw [byteLength_cons, one, ih others, List.length_cons, Nat.add_comm]

end Terrasync.Lib.ByteOffset
