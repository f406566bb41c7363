import Mathlib.Data.List.Induction

/-! Streams in which some items are numbered segments of one run. A stream is whole when
each run stands in one piece, from segment zero to its last segment, and only a reset
breaks a run off. The acceptor remembers the open run and the segment it waits for. -/

set_option autoImplicit false

namespace Terrasync.Lib

/-- What an item of a stream means for the runs in it. -/
inductive Shape (Key : Type) where
  | alone
  | reset
  | segment (key : Key) (index : Nat) (last : Bool)
deriving DecidableEq, Repr

namespace SegmentRuns

variable {Item Key : Type} (shape : Item → Shape Key)

/-- Segments zero, one, … of one key, the last segment not among them. -/
def OpenRun (key : Key) (run : List Item) : Prop :=
  run.map shape = (List.range run.length).map fun index => .segment key index false

/-- Items that stand alone, complete runs, and runs that a reset broke off. -/
inductive Whole : List Item → Prop
  | nil : Whole []
  | alone {items : List Item} {item : Item} :
      Whole items → shape item = .alone → Whole (items ++ [item])
  | reset {items : List Item} {item : Item} :
      Whole items → shape item = .reset → Whole (items ++ [item])
  | cut {items run : List Item} {key : Key} {item : Item} :
      Whole items → OpenRun shape key run → shape item = .reset → Whole (items ++ run ++ [item])
  | run {items run : List Item} {key : Key} {item : Item} :
      Whole items → OpenRun shape key run → shape item = .segment key run.length true →
        Whole (items ++ run ++ [item])

/-- Whole but for a run that may still go on. -/
def Delivered (items : List Item) : Prop :=
  ∃ before run key, items = before ++ run ∧ Whole shape before ∧ OpenRun shape key run

variable {shape}

theorem openRun_nil (key : Key) : OpenRun shape key [] := rfl

theorem openRun_concat {key : Key} {run : List Item} {item : Item} :
    OpenRun shape key (run ++ [item]) ↔
      OpenRun shape key run ∧ shape item = .segment key run.length false := by
  simp only [OpenRun, List.map_append, List.map_cons, List.map_nil, List.length_append, List.length_cons,
    List.length_nil, Nat.zero_add, List.range_succ]
  constructor
  · intro same
    obtain ⟨front, back⟩ := List.append_inj same (by simp)
    exact ⟨front, by simpa using back⟩
  · intro ⟨front, back⟩
    rw [front, back]

/-! ### The acceptor -/

variable [DecidableEq Key]

def advance : Option (Key × Nat) → Shape Key → Option (Option (Key × Nat))
  | none, .alone => some none
  | some _, .alone => none
  | _, .reset => some none
  | none, .segment key index last =>
      if index = 0 then some (if last then none else some (key, 1)) else none
  | some (started, next), .segment key index last =>
      if key = started ∧ index = next then some (if last then none else some (key, next + 1)) else none

@[simp] theorem advance_reset (state : Option (Key × Nat)) :
    advance state .reset = some none := by
  cases state <;> rfl

theorem advance_segment {state next : Option (Key × Nat)} {key : Key} {index : Nat} {last : Bool}
    (accepted : advance state (.segment key index last) = some next) :
    (state = none ∧ index = 0 ∨ state = some (key, index)) ∧
      next = if last then none else some (key, index + 1) := by
  cases state with
  | none =>
      simp only [advance, Option.ite_none_right_eq_some] at accepted
      obtain ⟨rfl, same⟩ := accepted
      exact ⟨.inl ⟨rfl, rfl⟩, (Option.some.inj same).symm⟩
  | some started =>
      simp only [advance, Option.ite_none_right_eq_some] at accepted
      obtain ⟨⟨rfl, rfl⟩, same⟩ := accepted
      exact ⟨.inr rfl, (Option.some.inj same).symm⟩

variable (shape)

/-- The open run after some items of a stream, if they were accepted. -/
def follow (state : Option (Key × Nat)) (items : List Item) : Option (Option (Key × Nat)) :=
  items.foldlM (fun state item => advance state (shape item)) state

/-- The open run after a stream, if the stream was accepted. -/
def standing (items : List Item) : Option (Option (Key × Nat)) := follow shape none items

variable {shape}

theorem follow_cons (state : Option (Key × Nat)) (item : Item) (rest : List Item) :
    follow shape state (item :: rest) =
      (advance state (shape item)).bind fun next => follow shape next rest := by
  simp only [follow, List.foldlM_cons]
  rfl

theorem standing_concat (items : List Item) (item : Item) :
    standing shape (items ++ [item]) =
      (standing shape items).bind fun state => advance state (shape item) := by
  simp only [standing, follow, List.foldlM_append, List.foldlM_cons, List.foldlM_nil, bind_pure]
  rfl

/-- The open run that stands behind a whole stream and `run`. -/
def openAfter (key : Key) (run : List Item) : Option (Key × Nat) :=
  if run = [] then none else some (key, run.length)

theorem standing_openRun {items run : List Item} {key : Key} (whole : standing shape items = some none)
    (open_ : OpenRun shape key run) : standing shape (items ++ run) = some (openAfter key run) := by
  induction run using List.reverseRecOn with
  | nil => rw [List.append_nil, whole]; rfl
  | append_singleton run item ih =>
      obtain ⟨earlier, shaped⟩ := openRun_concat.mp open_
      rw [← List.append_assoc, standing_concat, ih earlier, Option.bind_some, shaped]
      cases run with
      | nil => rfl
      | cons first rest => simp [openAfter, advance]

theorem standing_of_whole {items : List Item} (whole : Whole shape items) :
    standing shape items = some none := by
  induction whole with
  | nil => rfl
  | alone _ shaped ih => rw [standing_concat, ih, Option.bind_some, shaped]; rfl
  | reset _ shaped ih => rw [standing_concat, ih, Option.bind_some, shaped]; rfl
  | cut _ open_ shaped ih =>
      rw [standing_concat, standing_openRun ih open_, Option.bind_some, shaped, advance_reset]
  | @run items run key item _ open_ shaped ih =>
      rw [standing_concat, standing_openRun ih open_, Option.bind_some, shaped]
      cases run with
      | nil => rfl
      | cons first rest => simp [openAfter, advance]

/-- What the acceptor's state says about the stream behind it. -/
def Stands (shape : Item → Shape Key) (items : List Item) : Option (Key × Nat) → Prop
  | none => Whole shape items
  | some (key, next) =>
      ∃ before run, items = before ++ run ∧ Whole shape before ∧ OpenRun shape key run ∧
        run.length = next ∧ 0 < next

omit [DecidableEq Key] in
theorem Stands.reset {items : List Item} {item : Item} {state : Option (Key × Nat)}
    (stands : Stands shape items state) (shaped : shape item = .reset) :
    Stands shape (items ++ [item]) none := by
  cases state with
  | none => exact Whole.reset stands shaped
  | some started =>
      obtain ⟨before, run, rfl, whole, open_, -, -⟩ := stands
      exact Whole.cut whole open_ shaped

omit [DecidableEq Key] in
/-- One more segment of the open run, or the first one of a new run. -/
theorem Stands.segment {items : List Item} {item : Item} {state : Option (Key × Nat)} {key : Key}
    {index : Nat} {last : Bool} (stands : Stands shape items state)
    (continues : state = none ∧ index = 0 ∨ state = some (key, index))
    (shaped : shape item = .segment key index last) :
    Stands shape (items ++ [item]) (if last then none else some (key, index + 1)) := by
  have parts : ∃ before run, items = before ++ run ∧ Whole shape before ∧ OpenRun shape key run ∧
      run.length = index := by
    obtain ⟨rfl, rfl⟩ | rfl := continues
    · exact ⟨items, [], (List.append_nil items).symm, stands, openRun_nil key, rfl⟩
    · obtain ⟨before, run, split, whole, open_, long, -⟩ := stands
      exact ⟨before, run, split, whole, open_, long⟩
  obtain ⟨before, run, rfl, whole, open_, rfl⟩ := parts
  cases last with
  | true => exact Whole.run whole open_ shaped
  | false =>
      exact ⟨before, run ++ [item], List.append_assoc .., whole, openRun_concat.mpr ⟨open_, shaped⟩,
        by simp, Nat.succ_pos _⟩

/-- The acceptor reads a stream as its grammar does. -/
theorem stands_of_standing {items : List Item} {state : Option (Key × Nat)}
    (accepted : standing shape items = some state) : Stands shape items state := by
  induction items using List.reverseRecOn generalizing state with
  | nil =>
      cases accepted
      exact Whole.nil
  | append_singleton items item ih =>
      rw [standing_concat] at accepted
      obtain ⟨earlier, before, stepped⟩ := Option.bind_eq_some_iff.mp accepted
      have stands := ih before
      cases shaped : shape item with
      | alone =>
          rw [shaped] at stepped
          cases earlier with
          | some started => cases stepped
          | none =>
              cases stepped
              exact Whole.alone stands shaped
      | reset =>
          rw [shaped, advance_reset] at stepped
          cases stepped
          exact stands.reset shaped
      | segment key index last =>
          rw [shaped] at stepped
          obtain ⟨continues, rfl⟩ := advance_segment stepped
          exact stands.segment continues shaped

omit [DecidableEq Key] in
theorem Stands.delivered [Inhabited Key] {items : List Item} {state : Option (Key × Nat)}
    (stands : Stands shape items state) : Delivered shape items := by
  cases state with
  | none => exact ⟨items, [], default, (List.append_nil items).symm, stands, openRun_nil _⟩
  | some started =>
      obtain ⟨before, run, split, whole, open_, -, -⟩ := stands
      exact ⟨before, run, started.1, split, whole, open_⟩

theorem standing_some_of_stands {items : List Item} {state : Option (Key × Nat)}
    (stands : Stands shape items state) : standing shape items = some state := by
  cases state with
  | none => exact standing_of_whole stands
  | some started =>
      obtain ⟨before, run, rfl, whole, open_, long, positive⟩ := stands
      rw [standing_openRun (standing_of_whole whole) open_, openAfter, if_neg, long]
      rintro rfl
      exact absurd long (Nat.ne_of_lt positive)

end SegmentRuns

end Terrasync.Lib
