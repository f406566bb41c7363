import Terrasync.App.ScanInput

/-! What the prefetch keeps over any interleaving: the source's order, the account of its
permits, and that a reader short of permits waits for permits the consumer gives back. -/

set_option autoImplicit false

namespace Terrasync.App.ScanInput

variable {Item Error : Type} {isCheckpoint : Item → Bool}

theorem chunkLimit_pos (room : Nat) : 0 < chunkLimit room := by
  simp only [chunkLimit, prefetchChunk]
  omega

theorem chunkLimit_le {room : Nat} (positive : 0 < room) : chunkLimit room ≤ room := by
  simp only [chunkLimit, prefetchChunk]
  omega

theorem chunkLimit_small (room : Nat) : chunkLimit room < 2 ^ 32 := by
  simp only [chunkLimit, prefetchChunk]
  omega

theorem clampCapacity_pos (capacity : Nat) : 0 < clampCapacity capacity := by
  simp only [clampCapacity]
  omega

/-! ### The reader task -/

section Held

variable (batch part : List Item) (paid : PrefetchedBatch Item) (failure : Option Error) (wanted : Wanted)

@[simp] theorem Reader.held_reading : (Reader.reading batch part : Reader Item Error).held = batch ++ part := rfl
@[simp] theorem Reader.held_acquiring : (Reader.acquiring batch failure).held = batch := rfl
@[simp] theorem Reader.held_sending : (Reader.sending paid failure).held = paid.items := rfl
@[simp] theorem Reader.held_finished : (Reader.finished failure : Reader Item Error).held = [] := rfl
@[simp] theorem Reader.permits_reading : (Reader.reading batch part : Reader Item Error).permits = 0 := rfl
@[simp] theorem Reader.permits_acquiring : (Reader.acquiring batch failure).permits = 0 := rfl
@[simp] theorem Reader.permits_sending : (Reader.sending paid failure).permits = paid.permit := rfl
@[simp] theorem Consumer.held_idle : (Consumer.idle : Consumer Item).held = [] := rfl
@[simp] theorem Consumer.held_polling : (Consumer.polling wanted batch).held = batch := rfl
@[simp] theorem Consumer.held_receiving : (Consumer.receiving wanted batch).held = batch := rfl
@[simp] theorem Consumer.held_suspended : (Consumer.suspended wanted : Consumer Item).held = [] := rfl
@[simp] theorem Consumer.held_direct : (Consumer.direct : Consumer Item).held = [] := rfl

end Held

/-- A chunk keeps to its limit, a batch holds a permit for each item, and the source is
exhausted when the reader carries its error or has finished. -/
def Reader.Sound (limit : Nat) (remaining : List Item) : Reader Item Error → Prop
  | .reading batch part => (batch ++ part).length < limit
  | .acquiring batch failure =>
      batch ≠ [] ∧ batch.length ≤ limit ∧ (failure.isSome = true → remaining = [])
  | .sending batch failure =>
      batch.items ≠ [] ∧ batch.items.length = batch.permit ∧ (failure.isSome = true → remaining = [])
  | .finished _ => remaining = []

/-- The reader went on within a chunk: it holds these items and no permit. -/
structure Gathered (limit : Nat) (remaining held : List Item) (reader : Reader Item Error) : Prop where
  sound : reader.Sound limit remaining
  held : reader.held = held
  free : reader.permits = 0

theorem gathered_dispatch {limit : Nat} {remaining batch : List Item} {failure : Option Error}
    (positive : 0 < limit) (fits : batch.length ≤ limit) (closing : failure.isSome = true → remaining = []) :
    Gathered limit remaining batch (dispatch batch failure) := by
  unfold dispatch
  cases batch with
  | cons first rest => exact ⟨⟨by simp, fits, closing⟩, rfl, rfl⟩
  | nil =>
      cases failure with
      | none => exact ⟨positive, rfl, rfl⟩
      | some error => exact ⟨closing rfl, rfl, rfl⟩

theorem gathered_appendPart {limit : Nat} {remaining batch part : List Item} {failure : Option Error}
    (positive : 0 < limit) (fits : (batch ++ part).length ≤ limit)
    (closing : failure.isSome = true → remaining = []) :
    Gathered limit remaining (batch ++ part) (appendPart isCheckpoint limit batch part failure) := by
  unfold appendPart
  split
  · exact gathered_dispatch positive fits closing
  · rename_i goesOn
    have short : (batch ++ part).length < limit := by
      simp only [Bool.or_eq_true, decide_eq_true_eq, not_or] at goesOn
      omega
    exact ⟨by simpa [Reader.Sound] using short, List.append_nil _, rfl⟩

/-- A poll of the source moves at most one item, from the source to the reader. -/
theorem pull_gathered {limit : Nat} {state : State Item Error} {batch part : List Item}
    (positive : 0 < limit) (short : (batch ++ part).length < limit) :
    ∃ remaining held reader, pull isCheckpoint limit state batch part = { state with remaining, reader } ∧
      Gathered limit remaining held reader ∧ held ++ remaining = batch ++ part ++ state.remaining := by
  unfold pull
  split
  · rename_i item rest more
    have longer : (batch ++ (part ++ [item])).length ≤ limit := by
      simp only [List.length_append, List.length_cons, List.length_nil] at short ⊢
      omega
    refine ⟨rest, batch ++ (part ++ [item]), _, rfl, ?_, by simp [more]⟩
    split
    · exact gathered_appendPart positive longer nofun
    · rename_i goesOn
      refine ⟨?_, rfl, rfl⟩
      simp only [Reader.Sound, List.length_append, List.length_cons, List.length_nil] at goesOn ⊢
      simp only [List.length_append] at short
      omega
  · rename_i done
    have whole := Nat.le_of_lt short
    split
    · rename_i error _
      exact ⟨state.remaining, batch ++ part, _, rfl,
        gathered_appendPart positive whole fun _ => done, rfl⟩
    · refine ⟨state.remaining, batch ++ part, _, rfl, ?_, rfl⟩
      split
      · exact gathered_appendPart positive whole nofun
      · rename_i empty
        obtain rfl : part = [] := by simpa using empty
        rw [List.append_nil] at whole ⊢
        split
        · exact gathered_dispatch positive whole nofun
        · rename_i empty
          obtain rfl : batch = [] := by simpa using empty
          exact ⟨done, rfl, rfl⟩

/-- Behind a sent batch the reader holds nothing. -/
theorem afterSend_empty (failure : Option Error) :
    (if failure.isSome then .finished failure else .reading [] [] : Reader Item Error).held = [] ∧
      (if failure.isSome then .finished failure else .reading [] [] : Reader Item Error).permits = 0 := by
  split <;> exact ⟨rfl, rfl⟩

/-! ### The invariant -/

/-- The call waits for a batch of the reader. -/
def Consumer.Waits : Consumer Item → Prop
  | .receiving .. | .suspended _ | .direct => True
  | _ => False

structure Sound (items : List Item) (room : Nat) (state : State Item Error) : Prop where
  ordered : state.delivered ++ state.underway = items
  paid : state.available + state.permits = room
  reader : state.reader.Sound (chunkLimit room) state.remaining
  currentPaid : state.current.length ≤ state.permit.getD 0
  batches : ∀ batch ∈ state.channel, batch.items ≠ [] ∧ batch.items.length = batch.permit
  waiting : state.consumer.Waits → state.current = [] ∧ state.permit = none
  ended : state.ended = true → state.underway = []

theorem sound_start (items : List Item) (ending : Option Error) (capacity : Nat) :
    Sound items (clampCapacity capacity) (start items ending capacity) :=
  ⟨rfl, rfl, chunkLimit_pos _, Nat.le_refl _, nofun, nofun, nofun⟩

namespace Sound

variable {items : List Item} {room : Nat} {state next : State Item Error}

/-- The reader goes on within a chunk. -/
theorem gathered (sound : Sound items room state) {remaining held : List Item} {reader : Reader Item Error}
    (gathered : Gathered (chunkLimit room) remaining held reader)
    (same : held ++ remaining = state.reader.held ++ state.remaining) (free : state.reader.permits = 0) :
    Sound items room { state with remaining, reader } := by
  have underway : State.underway { state with remaining, reader } = state.underway := by
    simp only [State.underway, State.inChannel, gathered.held, List.append_assoc, same]
  refine ⟨by rw [underway]; exact sound.ordered, ?_, gathered.sound, sound.currentPaid, sound.batches,
    sound.waiting, fun ended => by rw [underway]; exact sound.ended ended⟩
  have paid := sound.paid
  simp only [State.permits, gathered.free, free] at paid ⊢
  exact paid

theorem pull (sound : Sound items room state) (stepped : step isCheckpoint room state .pull = some next) :
    Sound items room next := by
  simp only [step] at stepped
  split at stepped
  · rename_i batch part reading
    have short : (batch ++ part).length < chunkLimit room := by
      have reader := sound.reader
      rwa [reading] at reader
    obtain ⟨remaining, held, reader, same, gathered, moved⟩ :=
      @pull_gathered _ _ isCheckpoint _ state _ _ (chunkLimit_pos room) short
    rw [same] at stepped
    cases stepped
    exact sound.gathered gathered (by rw [reading]; exact moved) (by rw [reading]; rfl)
  · cases stepped

theorem partPending (sound : Sound items room state)
    (stepped : step isCheckpoint room state .partPending = some next) : Sound items room next := by
  simp only [step] at stepped
  split at stepped
  · rename_i batch first part reading
    cases stepped
    have short : (batch ++ first :: part).length < chunkLimit room := by
      have reader := sound.reader
      rwa [reading] at reader
    exact sound.gathered (gathered_appendPart (chunkLimit_pos room) (Nat.le_of_lt short) nofun)
      (by rw [reading]; rfl) (by rw [reading]; rfl)
  · cases stepped

theorem deadline (sound : Sound items room state)
    (stepped : step isCheckpoint room state .deadline = some next) : Sound items room next := by
  simp only [step] at stepped
  split at stepped
  · rename_i first batch reading
    cases stepped
    have short : (first :: batch).length < chunkLimit room := by
      have reader := sound.reader
      rw [reading] at reader
      simpa [Reader.Sound] using reader
    exact sound.gathered (gathered_dispatch (chunkLimit_pos room) (Nat.le_of_lt short) nofun)
      (by simp [reading]) (by rw [reading]; rfl)
  · cases stepped

theorem acquire (sound : Sound items room state)
    (stepped : step isCheckpoint room state .acquire = some next) : Sound items room next := by
  simp only [step] at stepped
  split at stepped
  · rename_i batch failure acquiring
    have reader := sound.reader
    rw [acquiring] at reader
    obtain ⟨nonempty, fits, closing⟩ := reader
    have small : batch.length % 2 ^ 32 = batch.length :=
      Nat.mod_eq_of_lt (Nat.lt_of_le_of_lt fits (chunkLimit_small room))
    rw [small] at stepped
    split at stepped
    · rename_i enough
      cases stepped
      refine ⟨?_, ?_, ⟨nonempty, rfl, closing⟩, sound.currentPaid, sound.batches, sound.waiting, ?_⟩
      · have ordered := sound.ordered
        simpa only [State.underway, State.inChannel, acquiring, Reader.held_acquiring, Reader.held_sending] using ordered
      · have paid := sound.paid
        simp only [State.permits, acquiring, Reader.permits_acquiring, Reader.permits_sending] at paid ⊢
        omega
      · have ended := sound.ended
        simpa only [State.underway, State.inChannel, acquiring, Reader.held_acquiring, Reader.held_sending] using ended
    · cases stepped
  · cases stepped

theorem send (sound : Sound items room state)
    (stepped : step isCheckpoint room state .send = some next) : Sound items room next := by
  simp only [step] at stepped
  split at stepped
  · rename_i batch failure sending
    have reader := sound.reader
    rw [sending] at reader
    obtain ⟨nonempty, covered, closing⟩ := reader
    split at stepped
    · cases stepped
      have underway : State.underway { state with
          channel := state.channel ++ [batch]
          reader := if failure.isSome then .finished failure else .reading [] [] } = state.underway := by
        simp [State.underway, State.inChannel, sending, (afterSend_empty failure).1]
      refine ⟨by rw [underway]; exact sound.ordered, ?_, ?_, sound.currentPaid, ?_, sound.waiting,
        fun ended => by rw [underway]; exact sound.ended ended⟩
      · have paid := sound.paid
        simp only [State.permits, sending, (afterSend_empty failure).2, Reader.permits_sending, List.map_append,
          List.sum_append, List.map_cons, List.map_nil, List.sum_cons, List.sum_nil] at paid ⊢
        omega
      · dsimp only
        split
        · exact closing ‹_›
        · exact chunkLimit_pos room
      · intro other member
        obtain before | same := List.mem_append.mp member
        · exact sound.batches other before
        · cases List.mem_singleton.mp same
          exact ⟨nonempty, covered⟩
    · cases stepped
  · cases stepped

/-- A call begins, is polled again or is given up: only the consumer's place changes. -/
theorem placed (sound : Sound items room state) {consumer : Consumer Item} (held : consumer.held = state.consumer.held)
    (waiting : consumer.Waits → state.current = [] ∧ state.permit = none) :
    Sound items room { state with consumer } := by
  have underway : State.underway { state with consumer } = state.underway := by
    simp only [State.underway, State.inChannel, held]
  exact ⟨by rw [underway]; exact sound.ordered, sound.paid, sound.reader, sound.currentPaid, sound.batches,
    waiting, fun ended => by rw [underway]; exact sound.ended ended⟩

/-- The permit of an empty iterator goes back. -/
theorem released (sound : Sound items room state) (empty : state.current = []) :
    Sound items room (releasePermit state) := by
  refine ⟨sound.ordered, ?_, sound.reader, by simp [releasePermit, empty], sound.batches,
    fun _ => ⟨empty, rfl⟩, sound.ended⟩
  have paid := sound.paid
  simp only [State.permits, releasePermit, Option.getD_none] at paid ⊢
  omega

/-- A call returns the items its poll has taken. -/
theorem answered (sound : Sound items room state) {batch : List Item} (held : state.consumer.held = batch) :
    Sound items room (answer state batch) := by
  have underway : state.underway = batch ++ (answer state batch).underway := by
    simp [State.underway, State.inChannel, answer, held]
  refine ⟨?_, sound.paid, sound.reader, sound.currentPaid, sound.batches, nofun, fun ended => ?_⟩
  · have ordered := sound.ordered
    rw [underway] at ordered
    rw [answer, List.append_assoc]
    exact ordered
  · have empty := sound.ended ended
    rw [underway] at empty
    exact (List.append_eq_nil_iff.mp empty).2

/-- A call returns `None`: nothing is left anywhere. -/
theorem answeredNone (sound : Sound items room state) {outcome : Option Error} (waits : state.consumer.Waits)
    (held : state.consumer.held = []) (closed : state.channel = []) (finished : state.reader = .finished outcome) :
    Sound items room (answerNone state) := by
  have exhausted : state.remaining = [] := by
    have reader := sound.reader
    rwa [finished] at reader
  have empty : state.underway = [] := by
    simp [State.underway, State.inChannel, held, (sound.waiting waits).1, closed, finished, exhausted]
  have same : (answerNone state).underway = state.underway := by
    simp [State.underway, State.inChannel, answerNone, held]
  exact ⟨by rw [same]; exact sound.ordered, sound.paid, sound.reader, sound.currentPaid, sound.batches, nofun,
    fun _ => by rw [same]; exact empty⟩

theorem takeItem (sound : Sound items room state) {wanted : Wanted} {batch rest : List Item} {item : Item}
    (polling : state.consumer = .polling wanted batch) (first : state.current = item :: rest) :
    Sound items room (takeItem state wanted batch item rest) := by
  have moved : Sound items room
      { state with current := rest, consumer := .polling wanted (batch ++ [item]) } := by
    have underway : State.underway { state with
        current := rest, consumer := .polling wanted (batch ++ [item]) } = state.underway := by
      simp [State.underway, State.inChannel, polling, first]
    have fits := sound.currentPaid
    rw [first] at fits
    exact ⟨by rw [underway]; exact sound.ordered, sound.paid, sound.reader, Nat.le_of_succ_le fits, sound.batches,
      nofun, fun ended => by rw [underway]; exact sound.ended ended⟩
  unfold ScanInput.takeItem
  dsimp only
  split
  · exact moved.answered rfl
  · exact moved

theorem breakOff (sound : Sound items room state) {batch : List Item} {otherwise : State Item Error}
    (held : state.consumer.held = batch) (other : batch = [] → Sound items room otherwise) :
    Sound items room (breakOff state batch otherwise) := by
  unfold ScanInput.breakOff
  split
  · rename_i empty
    exact other (List.isEmpty_iff.mp empty)
  · exact sound.answered held

/-- A batch leaves the channel for the iterator, or for the caller. -/
theorem received (sound : Sound items room state) {wanted : Wanted} {batch : List Item}
    {head : PrefetchedBatch Item} {channel : List (PrefetchedBatch Item)}
    (receiving : state.consumer = .receiving wanted batch) (first : state.channel = head :: channel) :
    Sound items room { state with
      channel, current := head.items, permit := some head.permit, consumer := .polling wanted batch } := by
  obtain ⟨empty, free⟩ := sound.waiting (by rw [receiving]; trivial)
  have underway : State.underway { state with
      channel, current := head.items, permit := some head.permit, consumer := .polling wanted batch } =
        state.underway := by
    simp [State.underway, State.inChannel, receiving, first, empty]
  have batches := sound.batches
  rw [first] at batches
  refine ⟨by rw [underway]; exact sound.ordered, ?_, sound.reader,
    Nat.le_of_eq (batches head List.mem_cons_self).2, fun other member => batches other (List.mem_cons_of_mem _ member),
    nofun, fun ended => by rw [underway]; exact sound.ended ended⟩
  have paid := sound.paid
  simp only [State.permits, free, first, Option.getD_none, Option.getD_some, List.map_cons, List.sum_cons] at paid ⊢
  omega

theorem handedOver (sound : Sound items room state) {head : PrefetchedBatch Item}
    {channel : List (PrefetchedBatch Item)} (direct : state.consumer = .direct) (first : state.channel = head :: channel) :
    Sound items room
      (answer { state with channel, available := state.available + head.permit } head.items) := by
  have moved : Sound items room { state with
      channel, available := state.available + head.permit, consumer := .polling .item head.items } := by
    obtain ⟨empty, free⟩ := sound.waiting (by rw [direct]; trivial)
    have underway : State.underway { state with
        channel, available := state.available + head.permit, consumer := .polling .item head.items } =
          state.underway := by
      simp [State.underway, State.inChannel, direct, first, empty]
    have batches := sound.batches
    rw [first] at batches
    refine ⟨by rw [underway]; exact sound.ordered, ?_, sound.reader, sound.currentPaid,
      fun other member => batches other (List.mem_cons_of_mem _ member), nofun,
      fun ended => by rw [underway]; exact sound.ended ended⟩
    have paid := sound.paid
    simp only [State.permits, first, List.map_cons, List.sum_cons] at paid ⊢
    omega
  exact moved.answered rfl

theorem callBatch (sound : Sound items room state) (idle : state.consumer = .idle) (limit : Nat) :
    Sound items room (callBatch state limit) := by
  unfold ScanInput.callBatch
  split
  · rename_i handOff
    have empty := List.length_eq_zero_iff.mp handOff.2.1
    exact (sound.released empty).placed (by rw [releasePermit, idle]; rfl) fun _ => ⟨empty, rfl⟩
  · exact sound.placed (by rw [idle]; rfl) nofun

theorem receive (sound : Sound items room state)
    (stepped : step isCheckpoint room state .receive = some next) : Sound items room next := by
  simp only [step] at stepped
  split at stepped
  · rename_i wanted batch head channel _ receiving first
    cases stepped
    exact sound.received receiving first
  · rename_i wanted batch outcome receiving closed finished
    cases stepped
    refine sound.breakOff (by rw [receiving]; rfl) fun empty => ?_
    exact sound.answeredNone (by rw [receiving]; trivial) (by rw [receiving, empty]; rfl) closed finished
  · rename_i head channel _ direct first
    cases stepped
    exact sound.handedOver direct first
  · rename_i outcome direct closed finished
    cases stepped
    exact sound.answeredNone (by rw [direct]; trivial) (by rw [direct]; rfl) closed finished
  · cases stepped

theorem step (sound : Sound items room state) {action : Action}
    (stepped : step isCheckpoint room state action = some next) : Sound items room next := by
  cases action with
  | pull => exact sound.pull stepped
  | partPending => exact sound.partPending stepped
  | deadline => exact sound.deadline stepped
  | acquire => exact sound.acquire stepped
  | send => exact sound.send stepped
  | receive => exact sound.receive stepped
  | callNext =>
      simp only [ScanInput.step] at stepped
      split at stepped
      · rename_i idle
        cases stepped
        exact sound.placed (by rw [idle]; rfl) nofun
      · cases stepped
  | callBatch limit =>
      simp only [ScanInput.step] at stepped
      split at stepped
      · rename_i idle
        cases stepped
        exact sound.callBatch idle limit
      · cases stepped
  | take =>
      simp only [ScanInput.step] at stepped
      split at stepped
      · rename_i polling first
        cases stepped
        exact sound.takeItem polling first
      · cases stepped
  | release =>
      simp only [ScanInput.step] at stepped
      split at stepped
      · rename_i polling empty
        cases stepped
        exact (sound.released empty).placed (by rw [releasePermit, polling]; rfl) fun _ => ⟨empty, rfl⟩
      · cases stepped
  | pending =>
      simp only [ScanInput.step] at stepped
      split at stepped
      · rename_i receiving
        cases stepped
        refine sound.breakOff (by rw [receiving]; rfl) fun empty => ?_
        exact sound.placed (by rw [receiving, empty]; rfl) fun _ => sound.waiting (by rw [receiving]; trivial)
      · cases stepped
  | poll =>
      simp only [ScanInput.step] at stepped
      split at stepped
      · rename_i suspended
        cases stepped
        exact sound.placed (by rw [suspended]; rfl) fun _ => sound.waiting (by rw [suspended]; trivial)
      · rename_i suspended
        cases stepped
        exact sound.placed (by rw [suspended]; rfl) nofun
      · cases stepped
  | cancel =>
      simp only [ScanInput.step] at stepped
      split at stepped
      · rename_i suspended
        cases stepped
        exact sound.placed (by rw [suspended]; rfl) nofun
      · rename_i direct
        cases stepped
        exact sound.placed (by rw [direct]; rfl) nofun
      · cases stepped

/-- The items of a batch in the channel are paid for. -/
theorem inChannel_paid (sound : Sound items room state) :
    state.inChannel.length = (state.channel.map PrefetchedBatch.permit).sum := by
  rw [State.inChannel, List.length_flatMap]
  exact congrArg List.sum (List.map_congr_left fun batch member => (sound.batches batch member).2)

theorem buffered_le (sound : Sound items room state) : state.buffered ≤ room := by
  have paid := sound.paid
  have current := sound.currentPaid
  simp only [State.permits] at paid
  rw [State.buffered, sound.inChannel_paid]
  omega

end Sound

/-! ### A reader short of permits -/

/-- What the consumer still has to go through to give all permits back. -/
def State.owed (state : State Item Error) : Nat :=
  3 * (state.inChannel.length + state.current.length + state.channel.length) +
    match state.consumer with
    | .idle | .suspended _ => 2
    | .polling .. => 1
    | .receiving .. | .direct => 0

section Progress

variable {items : List Item} {room : Nat} {state : State Item Error} {batch : List Item} {failure : Option Error}

/-- A consumer that waits at an empty channel owes no permit. -/
theorem acquire_enabled (isCheckpoint : Item → Bool) (sound : Sound items room state) (positive : 0 < room)
    (acquiring : state.reader = .acquiring batch failure) (waits : state.consumer.Waits)
    (empty : state.channel = []) : (step isCheckpoint room state .acquire).isSome := by
  have paid := sound.paid
  have reader := sound.reader
  rw [acquiring] at reader
  have fits := Nat.le_trans reader.2.1 (chunkLimit_le positive)
  have small : batch.length % 2 ^ 32 = batch.length :=
    Nat.mod_eq_of_lt (Nat.lt_of_le_of_lt reader.2.1 (chunkLimit_small room))
  simp only [State.permits, (sound.waiting waits).2, empty, acquiring, Option.getD_none, List.map_nil,
    List.sum_nil, Reader.permits_acquiring] at paid
  simp only [step, acquiring, small]
  rw [if_pos (by omega)]
  rfl

/-- Elsewhere the consumer has a step of its own that lowers what it owes. -/
theorem consumer_advances (isCheckpoint : Item → Bool) (sound : Sound items room state)
    (busy : ¬(state.consumer.Waits ∧ state.channel = [])) :
    ∃ action next, action.isConsumer = true ∧ step isCheckpoint room state action = some next ∧
      next.reader = state.reader ∧ next.owed < state.owed := by
  cases place : state.consumer with
  | idle =>
      exact ⟨.callNext, { state with consumer := .polling .item [] }, rfl, by simp only [step, place], rfl,
        by simp [State.owed, place, State.inChannel]⟩
  | polling wanted taken =>
      cases current : state.current with
      | nil =>
          exact ⟨.release, { releasePermit state with consumer := .receiving wanted taken }, rfl,
            by simp only [step, place, current], rfl,
            by simp [State.owed, place, State.inChannel, releasePermit]⟩
      | cons item rest =>
          refine ⟨.take, takeItem state wanted taken item rest, rfl, by simp only [step, place, current], ?_, ?_⟩
          · unfold takeItem
            dsimp only
            split <;> rfl
          · unfold takeItem
            dsimp only
            split <;> simp only [State.owed, place, State.inChannel, answer, current, List.length_cons] <;> omega
  | receiving wanted taken =>
      cases channel : state.channel with
      | nil => exact absurd ⟨by rw [place]; trivial, channel⟩ busy
      | cons head rest =>
          refine ⟨.receive, { state with
            channel := rest, current := head.items, permit := some head.permit, consumer := .polling wanted taken },
            rfl, by simp only [step, place, channel], rfl, ?_⟩
          have empty := (sound.waiting (by rw [place]; trivial)).1
          simp only [State.owed, place, State.inChannel, channel, empty, List.flatMap_cons, List.length_append,
            List.length_cons, List.length_nil]
          omega
  | suspended wanted =>
      cases wanted with
      | item =>
          exact ⟨.poll, { state with consumer := .receiving .item [] }, rfl, by simp only [step, place], rfl,
            by simp [State.owed, place, State.inChannel]⟩
      | batch limit =>
          exact ⟨.poll, { state with consumer := .polling (.batch limit) [] }, rfl, by simp only [step, place], rfl,
            by simp [State.owed, place, State.inChannel]⟩
  | direct =>
      cases channel : state.channel with
      | nil => exact absurd ⟨by rw [place]; trivial, channel⟩ busy
      | cons head rest =>
          refine ⟨.receive, answer { state with channel := rest, available := state.available + head.permit } head.items,
            rfl, by simp only [step, place, channel], rfl, ?_⟩
          simp only [State.owed, place, State.inChannel, channel, answer, List.flatMap_cons, List.length_append,
            List.length_cons]
          omega

/-- By steps of the consumer alone, a reader that waits for permits comes to get them. -/
theorem consumer_frees_reader {capacity : Nat} (sound : Sound items (clampCapacity capacity) state)
    (acquiring : state.reader = .acquiring batch failure) :
    ∃ actions later, (∀ action ∈ actions, action.isConsumer = true) ∧
      (machine isCheckpoint capacity).exec state actions = some later ∧
        ((machine isCheckpoint capacity).step later .acquire).isSome = true := by
  induction owed : state.owed using Nat.strongRecOn generalizing state with
  | ind measure ih =>
      subst owed
      by_cases waiting : state.consumer.Waits ∧ state.channel = []
      · exact ⟨[], state, nofun, rfl,
          acquire_enabled isCheckpoint sound (clampCapacity_pos capacity) acquiring waiting.1 waiting.2⟩
      · obtain ⟨action, next, own, stepped, reader, less⟩ :=
          consumer_advances isCheckpoint sound waiting
        obtain ⟨actions, later, owns, run, enabled⟩ :=
          ih next.owed less (sound.step stepped) (reader.trans acquiring) rfl
        refine ⟨action :: actions, later, List.forall_mem_cons.mpr ⟨own, owns⟩, ?_, enabled⟩
        simp only [Lib.Machine.exec, machine, stepped, Option.bind_some]
        exact run

end Progress

/-! ### The prefetch -/

/-- Any run hands on the source's items in order: what was returned, what is underway and what
the source still holds are the sequence, and a call answers `None` only when all was returned.
The buffers keep to the capacity, and the consumer alone can always free a waiting reader. -/
theorem prefetch_preserves_sequence {items : List Item} {ending : Option Error} {capacity : Nat}
    (positive : 1 ≤ capacity) {actions : List Action} {state : State Item Error}
    (run : (machine isCheckpoint capacity).exec (start items ending capacity) actions = some state) :
    state.delivered ++ state.underway = items ∧
      (state.ended = true → state.delivered = items) ∧
      state.buffered ≤ capacity ∧
      ∀ batch failure, state.reader = .acquiring batch failure →
        ∃ calls later, (∀ action ∈ calls, action.isConsumer = true) ∧
          (machine isCheckpoint capacity).exec state calls = some later ∧
            ((machine isCheckpoint capacity).step later .acquire).isSome = true := by
  have sound : Sound items (clampCapacity capacity) state :=
    Lib.Machine.exec_invariant (fun sound stepped => sound.step stepped) (sound_start items ending capacity) run
  refine ⟨sound.ordered, fun ended => ?_, ?_, fun batch failure acquiring => consumer_frees_reader sound acquiring⟩
  · have ordered := sound.ordered
    rwa [sound.ended ended, List.append_nil] at ordered
  · have within : clampCapacity capacity ≤ capacity := by
      simp only [clampCapacity]
      omega
    exact Nat.le_trans sound.buffered_le within

section Example

open Scan.VersionHistory (ResumableScanItem)

/-- A session that ends with an error. -/
def sessionItems : List (ResumableScanItem Unit Nat) := [.statistics 1, .checkpoint [9], .resumed (), .statistics 2]

/-- A hand-off, a wait that is given up, and single items. -/
def mixedCalls : List Action :=
  [.pull, .partPending, .callBatch 256, .pull, .acquire, .send, .receive, .callNext, .release, .pending, .cancel,
    .pull, .pull, .acquire, .send, .callNext, .release, .receive, .take, .pull, .callNext, .take, .callNext,
    .release, .receive]

theorem mixedCalls_enabled : ((machine ResumableScanItem.isCheckpoint 2).exec
    (start sessionItems (some "lost") 2) mixedCalls).isSome = true := by decide

theorem prefetch_preserves_sequence_mixed : ∃ state, (machine ResumableScanItem.isCheckpoint 2).exec
    (start sessionItems (some "lost") 2) mixedCalls = some state ∧ state.ended = true ∧
      state.delivered = sessionItems ∧ state.buffered ≤ 2 := by
  have run := (Option.some_get mixedCalls_enabled).symm
  have ended : (((machine ResumableScanItem.isCheckpoint 2).exec
    (start sessionItems (some "lost") 2) mixedCalls).get mixedCalls_enabled).ended = true := by decide
  obtain ⟨-, delivered, buffered, -⟩ := prefetch_preserves_sequence (by decide) run
  exact ⟨_, run, ended, delivered ended, buffered⟩

end Example

end Terrasync.App.ScanInput
