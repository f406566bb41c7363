import Terrasync.App.Diagnostics

/-! What each operation of the outbox does. Identifiers are told apart by attempt, kind and
number; a batch in flight stays a prefix of the pending events until it is acknowledged. -/

set_option autoImplicit false

namespace Terrasync.App

namespace DiagnosticOutbox

theorem append_separated_inj {front back front' back' : Text} (clear : ':' ∉ back) (clear' : ':' ∉ back')
    (equal : front ++ ':' :: back = front' ++ ':' :: back') : front = front' ∧ back = back' := by
  rcases List.append_eq_append_iff.mp equal with ⟨gap, split, rest⟩ | ⟨gap, split, rest⟩
  · cases gap with
    | nil =>
        rw [List.append_nil] at split
        exact ⟨split.symm, (List.cons.inj rest).2⟩
    | cons separator gap =>
        have inside := (List.cons.inj rest).2
        exact absurd (inside ▸ List.mem_append_right gap List.mem_cons_self) clear
  · cases gap with
    | nil =>
        rw [List.append_nil] at split
        exact ⟨split, (List.cons.inj rest).2.symm⟩
    | cons separator gap =>
        have inside := (List.cons.inj rest).2
        exact absurd (inside ▸ List.mem_append_right gap List.mem_cons_self) clear'

theorem digits_clear (number : Nat) : ':' ∉ (toString number).toList := by
  rw [Nat.toString_eq_repr, Nat.toList_repr]
  intro member
  exact absurd (Nat.isDigit_of_mem_toDigits (by decide) (by decide) member) (by decide)

theorem digits_inj {first second : Nat} (equal : (toString first).toList = (toString second).toList) :
    first = second := by
  rw [Nat.toString_eq_repr, Nat.toString_eq_repr, Nat.toList_repr, Nat.toList_repr] at equal
  have value := congrArg (fun digits => Nat.ofDigitChars 10 digits 0) equal
  simpa only [Nat.ofDigitChars_ten_toDigits] using value

/-- In one round an identifier text determines the attempt, the kind and the number. -/
theorem identifierText_inj {roundId attemptId attemptId' : Text} {kind kind' : IdentifierKind}
    {sequence sequence' : Nat}
    (equal : identifierText roundId attemptId kind sequence = identifierText roundId attemptId' kind' sequence') :
    attemptId = attemptId' ∧ kind = kind' ∧ sequence = sequence' := by
  obtain ⟨named, numbered⟩ := append_separated_inj (digits_clear sequence) (digits_clear sequence') equal
  have clear (kind : IdentifierKind) : ':' ∉ kind.text := by cases kind <;> decide
  obtain ⟨attempted, kinds⟩ := append_separated_inj (clear kind) (clear kind') named
  have attempts := (List.cons.inj (List.append_cancel_left attempted)).2
  refine ⟨attempts, ?_, digits_inj numbered⟩
  cases kind <;> cases kind' <;> first | rfl | exact absurd kinds (by decide)

variable {digest : Text → Text} {outbox : DiagnosticOutbox}

/-- What an enqueue call may do: keep the event, count it, or nothing at all. -/
theorem enqueue_cases (origin code message : Text) (path : Option Text) :
    outbox.revision ≠ u64Max ∧ outbox.isFull = false ∧ outbox.enqueue digest origin code message path =
        (true, { outbox with
          revision := outbox.revision + 1
          nextEvent := outbox.nextEvent + 1
          pending := outbox.pending ++ [outbox.event digest origin code message path] }) ∨
      outbox.revision ≠ u64Max ∧ (outbox.isFull = true ∨ outbox.nextEvent = u64Max) ∧
        outbox.enqueue digest origin code message path = (false, { outbox with
          revision := outbox.revision + 1
          omittedCount := min (outbox.omittedCount + 1) u64Max }) ∨
      outbox.isFull = false ∧ outbox.enqueue digest origin code message path = (false, outbox) := by
  simp only [enqueue, isFull, Bool.and_eq_true, Bool.and_eq_false_iff, decide_eq_true_eq, decide_eq_false_iff_not]
  split
  · next exhausted => exact .inr (.inr ⟨.inl (not_not.mpr exhausted), rfl⟩)
  · next running =>
      split
      · next full =>
          refine .inr (.inl ⟨running, ?_, rfl⟩)
          rcases full with length | counter
          · exact .inl ⟨running, length⟩
          · exact .inr counter
      · next room => exact .inl ⟨running, .inr (not_or.mp room).1, rfl⟩

/-- Preparing repeats the batch in flight, puts the next one in flight, or does nothing. -/
theorem prepareBatch_cases :
    (∃ batch, outbox.inFlight = some batch ∧ outbox.prepareBatch digest = (some batch, outbox)) ∨
      outbox.inFlight = none ∧ outbox.revision ≠ u64Max ∧
        outbox.prepareBatch digest = (some (outbox.nextPrepared digest), { outbox with
          revision := outbox.revision + 1
          nextBatch := outbox.nextBatch + 1
          inFlight := some (outbox.nextPrepared digest) }) ∨
      outbox.inFlight = none ∧ outbox.prepareBatch digest = (none, outbox) := by
  cases flying : outbox.inFlight with
  | some batch =>
      refine .inl ⟨batch, rfl, ?_⟩
      simp only [prepareBatch, flying]
  | none =>
      simp only [prepareBatch, flying]
      split
      · exact .inr (.inr ⟨trivial, rfl⟩)
      · next ready => exact .inr (.inl ⟨trivial, (not_or.mp (not_or.mp ready).2).2, rfl⟩)

/-- Acknowledging drops the batch in flight or does nothing. -/
theorem ack_cases (batchId : Text) :
    (∃ batch, outbox.inFlight = some batch ∧ batch.batchId = batchId ∧ outbox.revision ≠ u64Max ∧
      outbox.ack batchId = (true, { outbox with
        pending := outbox.pending.drop batch.events.length
        omittedCount := outbox.omittedCount - batch.omittedCount
        inFlight := none
        revision := outbox.revision + 1 })) ∨
      outbox.ack batchId = (false, outbox) := by
  simp only [ack]
  split
  · exact .inr rfl
  · next running =>
      split
      · exact .inr rfl
      · next batch matching =>
          obtain ⟨flying, named⟩ := Option.filter_eq_some_iff.mp matching
          split
          · exact .inr rfl
          · exact .inl ⟨batch, flying, of_decide_eq_true named, running, rfl⟩

/-- The batch in flight is a known prefix of the pending events. -/
structure Sound (prepared : List DiagnosticBatch) (enqueued : List DiagnosticEvent)
    (outbox : DiagnosticOutbox) : Prop where
  counted : outbox.nextEvent ≤ outbox.revision
  bounded : outbox.revision ≤ u64Max
  tallied : outbox.omittedCount ≤ u64Max
  flying : ∀ batch ∈ outbox.inFlight, batch ∈ prepared ∧ batch.omittedCount ≤ outbox.omittedCount ∧
    outbox.pending.take batch.events.length = batch.events
  known : ∀ event ∈ outbox.pending, event ∈ enqueued

variable {prepared : List DiagnosticBatch} {enqueued : List DiagnosticEvent}

theorem Sound.mono (sound : outbox.Sound prepared enqueued) (batches : List DiagnosticBatch)
    (events : List DiagnosticEvent) : outbox.Sound (prepared ++ batches) (enqueued ++ events) where
  counted := sound.counted
  bounded := sound.bounded
  tallied := sound.tallied
  flying := fun batch member =>
    ⟨List.mem_append_left batches (sound.flying batch member).1, (sound.flying batch member).2⟩
  known := fun event member => List.mem_append_left events (sound.known event member)

theorem Sound.setAttempt (sound : outbox.Sound prepared enqueued) (attemptId : Text) :
    (outbox.setAttempt attemptId).Sound prepared enqueued :=
  ⟨sound.counted, sound.bounded, sound.tallied, sound.flying, sound.known⟩

theorem Sound.new (roundId attemptId : Text) (capacity batchSize : Nat) :
    (DiagnosticOutbox.new roundId attemptId capacity batchSize).Sound prepared enqueued where
  counted := Nat.le_refl 0
  bounded := Nat.zero_le _
  tallied := Nat.zero_le _
  flying := fun _ member => absurd member (by simp [DiagnosticOutbox.new])
  known := fun _ member => absurd member List.not_mem_nil

theorem Sound.keep (sound : outbox.Sound prepared enqueued) (running : outbox.revision ≠ u64Max)
    (event : DiagnosticEvent) :
    { outbox with
      revision := outbox.revision + 1
      nextEvent := outbox.nextEvent + 1
      pending := outbox.pending ++ [event] : DiagnosticOutbox }.Sound prepared (enqueued ++ [event]) where
  counted := Nat.succ_le_succ sound.counted
  bounded := Nat.lt_of_le_of_ne sound.bounded running
  tallied := sound.tallied
  flying := by
    intro batch member
    obtain ⟨listed, carried, isPrefix⟩ := sound.flying batch member
    refine ⟨listed, carried, ?_⟩
    have covers : batch.events.length ≤ outbox.pending.length := by
      rw [← isPrefix]
      exact List.length_take_le' _ _
    rw [List.take_append_of_le_length covers]
    exact isPrefix
  known := by
    intro other member
    rcases List.mem_append.mp member with earlier | last
    · exact List.mem_append_left _ (sound.known other earlier)
    · exact List.mem_append_right _ last

theorem Sound.omit (sound : outbox.Sound prepared enqueued) (running : outbox.revision ≠ u64Max) :
    { outbox with
      revision := outbox.revision + 1
      omittedCount := min (outbox.omittedCount + 1) u64Max : DiagnosticOutbox }.Sound prepared enqueued where
  counted := Nat.le_succ_of_le sound.counted
  bounded := Nat.lt_of_le_of_ne sound.bounded running
  tallied := Nat.min_le_right _ _
  flying := by
    intro batch member
    obtain ⟨listed, carried, isPrefix⟩ := sound.flying batch member
    exact ⟨listed, le_min (Nat.le_succ_of_le carried) (carried.trans sound.tallied), isPrefix⟩
  known := sound.known

theorem Sound.prepare (sound : outbox.Sound prepared enqueued) (running : outbox.revision ≠ u64Max) :
    { outbox with
      revision := outbox.revision + 1
      nextBatch := outbox.nextBatch + 1
      inFlight := some (outbox.nextPrepared digest) : DiagnosticOutbox }.Sound
        (prepared ++ [outbox.nextPrepared digest]) enqueued where
  counted := Nat.le_succ_of_le sound.counted
  bounded := Nat.lt_of_le_of_ne sound.bounded running
  tallied := sound.tallied
  flying := by
    intro batch member
    cases Option.mem_some_iff.mp member
    refine ⟨List.mem_append_right _ List.mem_cons_self, Nat.le_refl _, ?_⟩
    simp only [nextPrepared, List.length_take, List.take_eq_take_iff]
    omega
  known := sound.known

theorem Sound.acknowledge (sound : outbox.Sound prepared enqueued) (running : outbox.revision ≠ u64Max)
    (batch : DiagnosticBatch) :
    { outbox with
      pending := outbox.pending.drop batch.events.length
      omittedCount := outbox.omittedCount - batch.omittedCount
      inFlight := none
      revision := outbox.revision + 1 : DiagnosticOutbox }.Sound prepared enqueued where
  counted := Nat.le_succ_of_le sound.counted
  bounded := Nat.lt_of_le_of_ne sound.bounded running
  tallied := (Nat.sub_le _ _).trans sound.tallied
  flying := nofun
  known := fun event member => sound.known event (List.mem_of_mem_drop member)

/-- What is pending beyond an acknowledged batch stays pending. -/
theorem Sound.pending_drop (sound : outbox.Sound prepared enqueued) {batch : DiagnosticBatch}
    (flying : outbox.inFlight = some batch) {event : DiagnosticEvent} (member : event ∈ outbox.pending) :
    event ∈ batch.events ∨ event ∈ outbox.pending.drop batch.events.length := by
  obtain ⟨-, -, isPrefix⟩ := sound.flying batch flying
  rw [← List.take_append_drop batch.events.length outbox.pending, isPrefix] at member
  exact List.mem_append.mp member

/-- Room is refused only when the queue is full: the counter of events never runs ahead. -/
theorem Sound.full_of_refused (sound : outbox.Sound prepared enqueued) (running : outbox.revision ≠ u64Max)
    (refused : outbox.isFull = true ∨ outbox.nextEvent = u64Max) : outbox.isFull = true := by
  rcases refused with full | exhausted
  · exact full
  · have counted := sound.counted
    have bounded := sound.bounded
    omega

/-! The omitted count outside the batch in flight -/

theorem unbatched_omit (sound : outbox.Sound prepared enqueued) :
    outbox.unbatched ≤
        { outbox with
          revision := outbox.revision + 1
          omittedCount := min (outbox.omittedCount + 1) u64Max : DiagnosticOutbox }.unbatched ∧
      { outbox with
          revision := outbox.revision + 1
          omittedCount := min (outbox.omittedCount + 1) u64Max : DiagnosticOutbox }.unbatched ≤
        outbox.unbatched + 1 := by
  have tallied := sound.tallied
  simp only [unbatched]
  omega

theorem unbatched_prepare (none : outbox.inFlight = none) :
    (outbox.nextPrepared digest).omittedCount = outbox.unbatched ∧
      { outbox with
        revision := outbox.revision + 1
        nextBatch := outbox.nextBatch + 1
        inFlight := some (outbox.nextPrepared digest) : DiagnosticOutbox }.unbatched = 0 := by
  simp only [unbatched, none, nextPrepared, Option.map_none, Option.getD_none, Nat.sub_zero, Option.map_some,
    Option.getD_some, Nat.sub_self, and_self]

theorem unbatched_acknowledge {batch : DiagnosticBatch} (flying : outbox.inFlight = some batch) :
    { outbox with
      pending := outbox.pending.drop batch.events.length
      omittedCount := outbox.omittedCount - batch.omittedCount
      inFlight := none
      revision := outbox.revision + 1 : DiagnosticOutbox }.unbatched = outbox.unbatched := by
  simp only [unbatched, flying, Option.map_none, Option.getD_none, Nat.sub_zero, Option.map_some,
    Option.getD_some]

end DiagnosticOutbox

end Terrasync.App
