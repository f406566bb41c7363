import Mathlib.Data.List.Pairwise
import Mathlib.Order.Lattice

/-! Half-open intervals over a linear order, kept as a sorted list in which neighbours
leave a gap. Such a list is determined by the points it covers. -/

set_option autoImplicit false

namespace Terrasync.Lib.Intervals

variable {Point : Type} [LinearOrder Point]

/-- Some interval of the list contains the point. -/
def Covered (intervals : List (Point × Point)) (x : Point) : Prop :=
  ∃ interval ∈ intervals, interval.1 ≤ x ∧ x < interval.2

/-- No interval is empty, and each ends before the next begins. -/
structure Canonical (intervals : List (Point × Point)) : Prop where
  nonempty : ∀ interval ∈ intervals, interval.1 < interval.2
  apart : intervals.Pairwise fun first second => first.2 < second.1

@[simp] theorem not_covered_nil (x : Point) : ¬Covered [] x := by
  rintro ⟨interval, member, -⟩
  cases member

@[simp] theorem covered_cons (start stop : Point) (rest : List (Point × Point)) (x : Point) :
    Covered ((start, stop) :: rest) x ↔ (start ≤ x ∧ x < stop) ∨ Covered rest x := by
  simp only [Covered, List.mem_cons, exists_eq_or_imp]

theorem covered_append (first second : List (Point × Point)) (x : Point) :
    Covered (first ++ second) x ↔ Covered first x ∨ Covered second x := by
  simp only [Covered, List.mem_append, or_and_right, exists_or]

theorem canonical_nil : Canonical ([] : List (Point × Point)) :=
  ⟨List.forall_mem_nil _, List.Pairwise.nil⟩

theorem canonical_cons {start stop : Point} {rest : List (Point × Point)} :
    Canonical ((start, stop) :: rest) ↔
      start < stop ∧ (∀ interval ∈ rest, stop < interval.1) ∧ Canonical rest := by
  constructor
  · rintro ⟨nonempty, apart⟩
    obtain ⟨after, later⟩ := List.pairwise_cons.1 apart
    exact ⟨nonempty _ List.mem_cons_self, after,
      ⟨fun interval member => nonempty interval (List.mem_cons_of_mem _ member), later⟩⟩
  · rintro ⟨proper, after, canonical⟩
    exact ⟨List.forall_mem_cons.2 ⟨proper, canonical.nonempty⟩, List.pairwise_cons.2 ⟨after, canonical.apart⟩⟩

theorem Canonical.tail {interval : Point × Point} {rest : List (Point × Point)}
    (canonical : Canonical (interval :: rest)) : Canonical rest :=
  (canonical_cons.1 canonical).2.2

/-- The later intervals lie beyond the end of the first. -/
theorem Canonical.lt_of_covered {start stop x : Point} {rest : List (Point × Point)}
    (canonical : Canonical ((start, stop) :: rest)) (covered : Covered rest x) : stop < x := by
  obtain ⟨interval, member, from_, -⟩ := covered
  exact lt_of_lt_of_le ((canonical_cons.1 canonical).2.1 interval member) from_

theorem Canonical.start_le {start stop x : Point} {rest : List (Point × Point)}
    (canonical : Canonical ((start, stop) :: rest)) (covered : Covered ((start, stop) :: rest) x) : start ≤ x := by
  obtain ⟨from_, -⟩ | later := (covered_cons start stop rest x).1 covered
  · exact from_
  · exact le_of_lt (lt_trans (canonical_cons.1 canonical).1 (canonical.lt_of_covered later))

/-- The end of an interval is a gap. -/
theorem Canonical.not_covered_end {intervals : List (Point × Point)} (canonical : Canonical intervals)
    {interval : Point × Point} (member : interval ∈ intervals) : ¬Covered intervals interval.2 := by
  induction intervals with
  | nil => exact not_covered_nil _
  | cons first rest ih =>
      obtain ⟨start, stop⟩ := first
      rw [covered_cons]
      obtain rfl | later := List.mem_cons.1 member
      · rintro (⟨-, below⟩ | covered)
        · exact lt_irrefl _ below
        · exact lt_irrefl _ (canonical.lt_of_covered covered)
      · have beyond : stop < interval.1 := (canonical_cons.1 canonical).2.1 interval later
        have proper : interval.1 < interval.2 := canonical.tail.nonempty interval later
        rintro (⟨-, below⟩ | covered)
        · exact lt_asymm below (lt_trans beyond proper)
        · exact ih canonical.tail later covered

/-- Two canonical lists that cover the same points are the same list. -/
theorem Canonical.unique {first second : List (Point × Point)} (canonical : Canonical first)
    (also : Canonical second) (same : ∀ x, Covered first x ↔ Covered second x) : first = second := by
  induction first generalizing second with
  | nil =>
      cases second with
      | nil => rfl
      | cons interval rest =>
          have proper := also.nonempty interval List.mem_cons_self
          exact absurd ((same interval.1).2 ⟨interval, List.mem_cons_self, le_refl _, proper⟩) (not_covered_nil _)
  | cons interval rest ih =>
      obtain ⟨start, stop⟩ := interval
      have proper : start < stop := (canonical_cons.1 canonical).1
      cases second with
      | nil =>
          exact absurd ((same start).1 ⟨_, List.mem_cons_self, le_refl _, proper⟩) (not_covered_nil _)
      | cons other others =>
          obtain ⟨begin_, finish⟩ := other
          have otherProper : begin_ < finish := (canonical_cons.1 also).1
          obtain rfl : start = begin_ := by
            apply le_antisymm
            · exact canonical.start_le ((same begin_).2 ⟨_, List.mem_cons_self, le_refl _, otherProper⟩)
            · exact also.start_le ((same start).1 ⟨_, List.mem_cons_self, le_refl _, proper⟩)
          obtain rfl : stop = finish := by
            apply le_antisymm
            · refine le_of_not_gt fun shorter => also.not_covered_end List.mem_cons_self ((same finish).1 ?_)
              exact ⟨_, List.mem_cons_self, le_of_lt otherProper, shorter⟩
            · refine le_of_not_gt fun shorter => canonical.not_covered_end List.mem_cons_self ((same stop).2 ?_)
              exact ⟨_, List.mem_cons_self, le_of_lt proper, shorter⟩
          refine congrArg _ (ih canonical.tail also.tail fun x => ⟨fun covered => ?_, fun covered => ?_⟩)
          · have beyond := canonical.lt_of_covered covered
            obtain here | later := (covered_cons _ _ _ x).1 ((same x).1 ((covered_cons _ _ _ x).2 (.inr covered)))
            · exact absurd here.2 (not_lt_of_gt beyond)
            · exact later
          · have beyond := also.lt_of_covered covered
            obtain here | later := (covered_cons _ _ _ x).1 ((same x).2 ((covered_cons _ _ _ x).2 (.inr covered)))
            · exact absurd here.2 (not_lt_of_gt beyond)
            · exact later

/-- One of two different intervals ends before the other begins. -/
theorem Canonical.apart_of_ne {intervals : List (Point × Point)} (canonical : Canonical intervals)
    {first second : Point × Point} (member : first ∈ intervals) (also : second ∈ intervals)
    (different : first ≠ second) : first.2 < second.1 ∨ second.2 < first.1 := by
  have symmetric : Std.Symm fun (one other : Point × Point) => one.2 < other.1 ∨ other.2 < one.1 :=
    ⟨fun _ _ => Or.symm⟩
  have either : intervals.Pairwise fun one other => one.2 < other.1 ∨ other.2 < one.1 :=
    canonical.apart.imp Or.inl
  exact either.forall member also different

/-- No longer interval around one of the list is covered. -/
theorem Canonical.maximal {intervals : List (Point × Point)} (canonical : Canonical intervals)
    {interval : Point × Point} (member : interval ∈ intervals) {start stop : Point}
    (before : start ≤ interval.1) (after : interval.2 ≤ stop)
    (covered : ∀ x, start ≤ x → x < stop → Covered intervals x) : (start, stop) = interval := by
  have proper := canonical.nonempty interval member
  have ends : stop = interval.2 := by
    refine le_antisymm (le_of_not_gt fun longer => ?_) after
    exact canonical.not_covered_end member (covered _ (le_trans before (le_of_lt proper)) longer)
  have starts : start = interval.1 := by
    refine le_antisymm before (le_of_not_gt fun earlier => ?_)
    have inside : start < stop := lt_of_lt_of_le (lt_trans earlier proper) after
    obtain ⟨other, otherMember, reaches, below⟩ := covered start (le_refl _) inside
    have different : other ≠ interval := by
      rintro rfl
      exact not_lt_of_ge reaches earlier
    obtain gap | beyond := canonical.apart_of_ne otherMember member different
    · have between : other.2 < stop := lt_of_lt_of_le (lt_trans gap proper) after
      exact canonical.not_covered_end otherMember (covered _ (le_of_lt below) between)
    · exact lt_irrefl _ (lt_trans (lt_of_lt_of_le (lt_trans proper beyond) reaches) earlier)
  rw [starts, ends]

end Terrasync.Lib.Intervals
