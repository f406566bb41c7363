import Terrasync.App.DiagnosticTextProperties
import Terrasync.App.DiagnosticsProperties
import Terrasync.Web.CallbackDiagnosticsProperties
import Mathlib.Algebra.Order.BigOperators.Group.List
import Mathlib.Algebra.Order.Group.Nat
import Mathlib.Data.List.Nodup

/-! Exactly-once delivery of diagnostics. Identifiers are fresh, what is pending or saved is
a prefix of what was enqueued, and what the receiver holds was put in flight. Omitted counts
are only safe while no checkpoint is restored behind a batch that carries them again. -/

set_option autoImplicit false

namespace Terrasync.App.CallbackState

/-- A process begins with an empty outbox of the round, or with the outbox of the saved copy. -/
theorem launch_cases {saved : Option CallbackState} {jobId roundId attemptId : Text} {round : Int} {now : Nat}
    {process : CallbackState} (launched : launch saved jobId round roundId attemptId now = some process)
    (sameRound : ∀ copy ∈ saved, copy.identity.roundId = scanRound jobId round) :
    process.identity.roundId = scanRound jobId round ∧ process.identity.attemptId = attemptId ∧
      ((saved = none ∧ process.outbox = .new (scanRound jobId round) attemptId 512 64) ∨
        ∃ copy, saved = some copy ∧ process.outbox = copy.outbox.setAttempt attemptId) := by
  cases saved with
  | none =>
      simp only [launch, Option.bind_some, initializeScan] at launched
      split at launched
      · cases launched
      · cases launched
        refine ⟨rfl, rfl, .inl ⟨rfl, ?_⟩⟩
        split
        · rfl
        · next same => exact congrArg (DiagnosticOutbox.new · attemptId 512 64) (not_not.mp same)
  | some copy =>
      have named := sameRound copy rfl
      simp only [launch, restoreCheckpoint] at launched
      split at launched
      · simp only [Option.bind_some, initializeScan, named, ne_eq, not_true_eq_false, if_false] at launched
        split at launched
        · cases launched
        · cases launched
          exact ⟨rfl, rfl, .inr ⟨copy, rfl, rfl⟩⟩
      · cases launched

end Terrasync.App.CallbackState

namespace Terrasync.Web

open App CallbackReceipt

namespace Delivery

variable {config : DeliveryConfig} {delivery : Delivery}

/-- The digests of these texts differ. -/
def NoCollision (digest : Text → Text) (texts : List Text) : Prop :=
  ∀ first ∈ texts, ∀ second ∈ texts, digest first = digest second → first = second

theorem NoCollision.mono {digest : Text → Text} {texts more : List Text}
    (distinct : NoCollision digest (texts ++ more)) : NoCollision digest texts :=
  fun first member second other => distinct first (List.mem_append_left more member) second
    (List.mem_append_left more other)

/-! Fresh identifiers -/

structure Minted (config : DeliveryConfig) (delivery : Delivery) : Prop where
  round : delivery.process.outbox.roundId = config.roundId
  identity : delivery.process.identity.roundId = config.roundId
  saved : ∀ copy ∈ delivery.saved, copy.identity.roundId = config.roundId ∧ copy.outbox.roundId = config.roundId
  attempt : delivery.process.outbox.attemptId ∈ delivery.attempts
  texts : ∀ text ∈ delivery.minted, ∃ attemptId ∈ delivery.attempts, ∃ kind sequence,
    text = DiagnosticOutbox.identifierText config.roundId attemptId kind sequence ∧
      (attemptId = delivery.process.outbox.attemptId → sequence ≤ delivery.process.outbox.counter kind)
  events : ∀ event ∈ delivery.enqueued, ∃ text ∈ delivery.minted, event.eventId = config.digest text
  batches : ∀ batch ∈ delivery.prepared, ∃ text ∈ delivery.minted, batch.batchId = config.digest text
  distinctEvents : (delivery.enqueued.map DiagnosticEvent.eventId).Nodup
  distinctBatches : (delivery.prepared.map DiagnosticBatch.batchId).Nodup

/-- The next identifier text of the running process has not been used. -/
theorem Minted.fresh (minted : delivery.Minted config) (kind : IdentifierKind) :
    delivery.process.outbox.nextText kind ∉ delivery.minted := by
  intro member
  obtain ⟨attemptId, -, used, sequence, same, below⟩ := minted.texts _ member
  rw [DiagnosticOutbox.nextText, minted.round] at same
  obtain ⟨sameAttempt, rfl, rfl⟩ := DiagnosticOutbox.identifierText_inj same
  exact absurd (below sameAttempt.symm) (Nat.not_succ_le_self _)

/-- Counting on in the same outbox keeps the texts accounted for. -/
theorem Minted.extend (minted : delivery.Minted config) (kind : IdentifierKind) {outbox : DiagnosticOutbox}
    (attempt : outbox.attemptId = delivery.process.outbox.attemptId)
    (counted : outbox.counter kind = delivery.process.outbox.counter kind + 1)
    (others : ∀ other, delivery.process.outbox.counter other ≤ outbox.counter other) :
    ∀ text ∈ delivery.minted ++ [delivery.process.outbox.nextText kind], ∃ attemptId ∈ delivery.attempts,
      ∃ used sequence, text = DiagnosticOutbox.identifierText config.roundId attemptId used sequence ∧
        (attemptId = outbox.attemptId → sequence ≤ outbox.counter used) := by
  intro text member
  rcases List.mem_append.mp member with earlier | last
  · obtain ⟨attemptId, listed, used, sequence, named, below⟩ := minted.texts text earlier
    refine ⟨attemptId, listed, used, sequence, named, ?_⟩
    intro same
    exact (below (same.trans attempt)).trans (others used)
  · cases List.mem_singleton.mp last
    refine ⟨_, minted.attempt, kind, _, ?_, fun _ => Nat.le_of_eq counted.symm⟩
    rw [DiagnosticOutbox.nextText, minted.round]

/-- Adding one identifier that has not been used keeps a list of identifiers distinct. -/
theorem nodup_mint {Item : Type} {digest : Text → Text} {items : List Item} {ids : Item → Text}
    {texts : List Text} {text : Text} {item : Item} (distinct : (items.map ids).Nodup)
    (known : ∀ item ∈ items, ∃ text ∈ texts, ids item = digest text)
    (noCollision : NoCollision digest (texts ++ [text])) (fresh : text ∉ texts)
    (named : ids item = digest text) : ((items ++ [item]).map ids).Nodup := by
  rw [List.map_append, List.map_singleton]
  apply List.nodup_append.mpr
  refine ⟨distinct, List.nodup_cons.mpr ⟨List.not_mem_nil, List.nodup_nil⟩, ?_⟩
  intro id member last single same
  cases List.mem_singleton.mp single
  obtain ⟨other, listed, rfl⟩ := List.mem_map.mp member
  obtain ⟨used, member, digested⟩ := known other listed
  have equal := noCollision used (List.mem_append_left _ member) text
    (List.mem_append_right _ List.mem_cons_self) (digested.symm.trans (same.trans named))
  exact fresh (equal ▸ member)

theorem known_mint {Item : Type} {digest : Text → Text} {items : List Item} {ids : Item → Text}
    {texts : List Text} {text : Text} {item : Item}
    (known : ∀ item ∈ items, ∃ text ∈ texts, ids item = digest text) (named : ids item = digest text) :
    ∀ other ∈ items ++ [item], ∃ used ∈ texts ++ [text], ids other = digest used := by
  intro other member
  rcases List.mem_append.mp member with earlier | last
  · obtain ⟨used, listed, digested⟩ := known other earlier
    exact ⟨used, List.mem_append_left _ listed, digested⟩
  · cases List.mem_singleton.mp last
    exact ⟨text, List.mem_append_right _ List.mem_cons_self, named⟩

theorem known_mono {Item : Type} {digest : Text → Text} {items : List Item} {ids : Item → Text}
    {texts : List Text} (more : List Text) (known : ∀ item ∈ items, ∃ text ∈ texts, ids item = digest text) :
    ∀ item ∈ items, ∃ text ∈ texts ++ more, ids item = digest text := by
  intro item member
  obtain ⟨text, listed, digested⟩ := known item member
  exact ⟨text, List.mem_append_left more listed, digested⟩

/-! Events between the outbox and the tables -/

def Stored (tables : Tables) (taskId : Text) (event : DiagnosticEvent) : Prop :=
  tables.events taskId event.eventId = some event

structure Custody (config : DeliveryConfig) (delivery : Delivery) : Prop where
  process : delivery.process.outbox.Sound delivery.prepared delivery.enqueued
  saved : ∀ copy ∈ delivery.saved, copy.outbox.Sound delivery.prepared delivery.enqueued
  members : ∀ batch ∈ delivery.prepared, ∀ event ∈ batch.events, event ∈ delivery.enqueued
  stable : ∀ event ∈ delivery.enqueued, event.sanitize = event
  requests : ∀ report ∈ delivery.requests, ∀ batch ∈ report.diagnostics, batch ∈ delivery.prepared
  acks : ∀ batchId ∈ delivery.acks, ∃ batch, delivery.tables.batches config.taskId batchId = some batch
  batches : ∀ {batchId batch}, delivery.tables.batches config.taskId batchId = some batch →
    batch ∈ delivery.prepared ∧ batch.batchId = batchId ∧
      ∀ event ∈ batch.events, Stored delivery.tables config.taskId event
  events : ∀ {eventId event}, delivery.tables.events config.taskId eventId = some event →
    event ∈ delivery.enqueued ∧ event.eventId = eventId
  live : ∀ event ∈ delivery.live,
    Stored delivery.tables config.taskId event ∨ event ∈ delivery.process.outbox.pending
  savedLive : ∀ event ∈ delivery.savedLive,
    Stored delivery.tables config.taskId event ∨ ∃ copy ∈ delivery.saved, event ∈ copy.outbox.pending
  covered : ∀ event ∈ delivery.savedLive, event ∈ delivery.live

/-! The omitted count -/

def carried (batches : List DiagnosticBatch) : Nat := (batches.map DiagnosticBatch.omittedCount).sum

/-- The batches of this history that the receiver holds. -/
def received (config : DeliveryConfig) (delivery : Delivery) : List DiagnosticBatch :=
  delivery.prepared.filter fun batch => (delivery.tables.batches config.taskId batch.batchId).isSome

structure Accounted (config : DeliveryConfig) (delivery : Delivery) : Prop where
  conserved : carried delivery.prepared + delivery.process.outbox.unbatched ≤ delivery.rejected
  total : (delivery.tables.omitted config.taskId).getD 0 ≤ carried (delivery.received config)
  since : ∀ copy ∈ delivery.saved, copy.outbox.nextBatch ≤ delivery.process.outbox.nextBatch ∧
    (copy.outbox.nextBatch = delivery.process.outbox.nextBatch →
      copy.outbox.unbatched ≤ delivery.process.outbox.unbatched)

structure Facts (config : DeliveryConfig) (delivery : Delivery) : Prop where
  minted : delivery.Minted config
  custody : delivery.Custody config
  accounted : delivery.Accounted config

/-- Every enqueue that finds room records texts that end cleanly, and no checkpoint is
restored whose unbatched omissions a later batch has already carried. -/
def Keeps (delivery : Delivery) : Action → Prop
  | .enqueue origin code message path =>
      delivery.process.outbox.revision ≠ u64Max → delivery.process.outbox.isFull = false →
        EndsCleanly origin code message path
  | .crash _ _ _ => ∀ copy ∈ delivery.saved,
      copy.outbox.unbatched = 0 ∨ copy.outbox.nextBatch = delivery.process.outbox.nextBatch
  | _ => True

instance decidableKeeps (delivery : Delivery) : (action : Action) → Decidable (delivery.Keeps action)
  | .enqueue _ _ _ _ => inferInstanceAs (Decidable (_ → _ → _))
  | .crash _ _ _ => inferInstanceAs (Decidable (∀ copy ∈ delivery.saved, _ ∨ _))
  | .post _ _ | .deliver _ _ _ _ | .answer _ | .save | .environment _ _ => inferInstanceAs (Decidable True)

/-! One lemma for each action -/

theorem facts_enqueue (facts : delivery.Facts config) {origin code message : Text} {path : Option Text}
    (keeps : delivery.Keeps (.enqueue origin code message path))
    (noCollision : NoCollision config.digest (delivery.enqueue config origin code message path).minted) :
    (delivery.enqueue config origin code message path).Facts config := by
  obtain ⟨minted, custody, accounted⟩ := facts
  rcases @DiagnosticOutbox.enqueue_cases config.digest _ origin code message path with
    ⟨running, room, kept⟩ | ⟨running, refused, counted⟩ | ⟨room, exhausted⟩
  · have clean := keeps running room
    simp only [enqueue, kept, if_true] at noCollision ⊢
    have named : (delivery.process.outbox.event config.digest origin code message path).eventId =
        config.digest (delivery.process.outbox.nextText .event) := rfl
    refine ⟨⟨minted.round, minted.identity, minted.saved, minted.attempt, ?_, ?_, ?_, ?_, minted.distinctBatches⟩,
      ⟨custody.process.keep running _, ?_, ?_, ?_, custody.requests, custody.acks, custody.batches, ?_, ?_,
        custody.savedLive, fun event member => List.mem_append_left _ (custody.covered event member)⟩, ⟨accounted.conserved, accounted.total, accounted.since⟩⟩
    · refine minted.extend .event ?_ ?_ ?_
      · rfl
      · rfl
      · intro other
        cases other with
        | event => exact Nat.le_succ _
        | batch => exact Nat.le_refl _
    · exact known_mint minted.events named
    · exact known_mono _ minted.batches
    · exact nodup_mint minted.distinctEvents minted.events noCollision (minted.fresh .event) named
    · intro copy member
      have wider := (custody.saved copy member).mono [] [delivery.process.outbox.event config.digest origin code message path]
      rw [List.append_nil] at wider
      exact wider
    · intro batch listed event member
      exact List.mem_append_left _ (custody.members batch listed event member)
    · intro event member
      rcases List.mem_append.mp member with earlier | last
      · exact custody.stable event earlier
      · cases List.mem_singleton.mp last
        exact delivery.process.outbox.event_sanitize config.digest clean
    · intro eventId event found
      obtain ⟨listed, same⟩ := custody.events found
      exact ⟨List.mem_append_left _ listed, same⟩
    · intro event member
      rcases List.mem_append.mp member with earlier | last
      · rcases custody.live event earlier with stored | waiting
        · exact .inl stored
        · exact .inr (List.mem_append_left _ waiting)
      · exact .inr (List.mem_append_right _ last)
  · have full := custody.process.full_of_refused running refused
    obtain ⟨grown, bounded⟩ := DiagnosticOutbox.unbatched_omit custody.process
    simp only [enqueue, counted, Bool.false_eq_true, if_false, full, if_true]
    refine ⟨⟨minted.round, minted.identity, minted.saved, minted.attempt, minted.texts, minted.events,
        minted.batches, minted.distinctEvents, minted.distinctBatches⟩,
      ⟨custody.process.omit running, custody.saved, custody.members, custody.stable, custody.requests,
        custody.acks, custody.batches, custody.events, custody.live, custody.savedLive, custody.covered⟩,
      ⟨?_, accounted.total, ?_⟩⟩
    · have conserved := accounted.conserved
      dsimp only at bounded ⊢
      omega
    · intro copy member
      obtain ⟨ahead, since⟩ := accounted.since copy member
      exact ⟨ahead, fun same => (since same).trans grown⟩
  · simp only [enqueue, exhausted, Bool.false_eq_true, if_false, room]
    exact ⟨⟨minted.round, minted.identity, minted.saved, minted.attempt, minted.texts, minted.events,
        minted.batches, minted.distinctEvents, minted.distinctBatches⟩,
      ⟨custody.process, custody.saved, custody.members, custody.stable, custody.requests,
        custody.acks, custody.batches, custody.events, custody.live, custody.savedLive, custody.covered⟩,
      ⟨accounted.conserved, accounted.total, accounted.since⟩⟩

theorem carried_snoc (batches : List DiagnosticBatch) (batch : DiagnosticBatch) :
    carried (batches ++ [batch]) = carried batches + batch.omittedCount := by
  simp only [carried, List.map_append, List.map_cons, List.map_nil, List.sum_append, List.sum_cons,
    List.sum_nil, Nat.add_zero]

theorem carried_mono {some more : List DiagnosticBatch} (sublist : some.Sublist more) :
    carried some ≤ carried more :=
  (sublist.map DiagnosticBatch.omittedCount).sum_le_sum fun _ _ => Nat.zero_le _

theorem requests_append {requests : List ProgressReport} {prepared : List DiagnosticBatch}
    {report : ProgressReport} (known : ∀ report ∈ requests, ∀ batch ∈ report.diagnostics, batch ∈ prepared)
    (last : ∀ batch ∈ report.diagnostics, batch ∈ prepared) :
    ∀ other ∈ requests ++ [report], ∀ batch ∈ other.diagnostics, batch ∈ prepared := by
  intro other member batch carries
  rcases List.mem_append.mp member with earlier | single
  · exact known other earlier batch carries
  · cases List.mem_singleton.mp single
    exact last batch carries

theorem facts_post (facts : delivery.Facts config) {isFinal : Bool} {content : Text}
    (noCollision : NoCollision config.digest (delivery.post config isFinal content).minted) :
    (delivery.post config isFinal content).Facts config := by
  obtain ⟨minted, custody, accounted⟩ := facts
  rcases @DiagnosticOutbox.prepareBatch_cases config.digest delivery.process.outbox with
    ⟨batch, flying, repeated⟩ | ⟨landed, running, prepared⟩ | ⟨landed, idle⟩
  · simp only [post, CallbackState.prepare, repeated, flying, reduceCtorEq, false_and, if_false]
    refine ⟨⟨minted.round, minted.identity, minted.saved, minted.attempt, minted.texts, minted.events,
        minted.batches, minted.distinctEvents, minted.distinctBatches⟩,
      ⟨custody.process, custody.saved, custody.members, custody.stable, ?_,
        custody.acks, custody.batches, custody.events, custody.live, custody.savedLive, custody.covered⟩,
      ⟨accounted.conserved, accounted.total, accounted.since⟩⟩
    refine requests_append custody.requests ?_
    intro other carries
    cases Option.mem_some_iff.mp carries
    exact (custody.process.flying batch flying).1
  · simp only [post, CallbackState.prepare, prepared, landed, Option.isSome_some, and_self, if_true]
      at noCollision ⊢
    obtain ⟨carries, emptied⟩ := @DiagnosticOutbox.unbatched_prepare config.digest _ landed
    have named : (delivery.process.outbox.nextPrepared config.digest).batchId =
        config.digest (delivery.process.outbox.nextText .batch) := rfl
    refine ⟨⟨minted.round, minted.identity, minted.saved, minted.attempt, ?_, ?_, ?_, minted.distinctEvents, ?_⟩,
      ⟨custody.process.prepare running, ?_, ?_, custody.stable, ?_, custody.acks, ?_, custody.events,
        custody.live, custody.savedLive, custody.covered⟩, ⟨?_, ?_, ?_⟩⟩
    · refine minted.extend .batch ?_ ?_ ?_
      · rfl
      · rfl
      · intro other
        cases other with
        | event => exact Nat.le_refl _
        | batch => exact Nat.le_succ _
    · exact known_mono _ minted.events
    · exact known_mint minted.batches named
    · exact nodup_mint minted.distinctBatches minted.batches noCollision (minted.fresh .batch) named
    · intro copy member
      have wider := (custody.saved copy member).mono [delivery.process.outbox.nextPrepared config.digest] []
      rw [List.append_nil] at wider
      exact wider
    · intro batch listed event member
      rcases List.mem_append.mp listed with earlier | last
      · exact custody.members batch earlier event member
      · cases List.mem_singleton.mp last
        exact custody.process.known event (List.mem_of_mem_take member)
    · refine requests_append ?_ ?_
      · intro report listed batch carries
        exact List.mem_append_left _ (custody.requests report listed batch carries)
      · intro batch carries
        cases Option.mem_some_iff.mp carries
        exact List.mem_append_right _ List.mem_cons_self
    · intro batchId batch found
      obtain ⟨listed, rest⟩ := custody.batches found
      exact ⟨List.mem_append_left _ listed, rest⟩
    · have conserved := accounted.conserved
      rw [carried_snoc]
      dsimp only at emptied ⊢
      rw [emptied, carries, Nat.add_zero]
      exact conserved
    · have total := accounted.total
      exact total.trans (carried_mono ((List.sublist_append_left _ _).filter _))
    · intro copy member
      have ahead := (accounted.since copy member).1
      refine ⟨Nat.le_succ_of_le ahead, ?_⟩
      intro same
      exact absurd (same ▸ ahead) (Nat.not_succ_le_self _)
  · simp only [post, CallbackState.prepare, idle, Option.isSome_none, Bool.false_eq_true, and_false, if_false]
    refine ⟨⟨minted.round, minted.identity, minted.saved, minted.attempt, minted.texts, minted.events,
        minted.batches, minted.distinctEvents, minted.distinctBatches⟩,
      ⟨custody.process, custody.saved, custody.members, custody.stable, ?_,
        custody.acks, custody.batches, custody.events, custody.live, custody.savedLive, custody.covered⟩,
      ⟨accounted.conserved, accounted.total, accounted.since⟩⟩
    exact requests_append custody.requests nofun

/-- Nothing changes for the diagnostics of the task, but known batches may be acknowledged. -/
theorem facts_same (facts : delivery.Facts config) {written : Tables} {acks : List Text}
    (same : SameDiagnostics delivery.tables written)
    (known : ∀ batchId ∈ acks, ∃ batch, delivery.tables.batches config.taskId batchId = some batch) :
    Facts config { delivery with tables := written, acks } := by
  obtain ⟨minted, custody, accounted⟩ := facts
  obtain ⟨events, batches, omitted⟩ := same
  cases written
  cases events
  cases batches
  cases omitted
  exact ⟨⟨minted.round, minted.identity, minted.saved, minted.attempt, minted.texts, minted.events,
      minted.batches, minted.distinctEvents, minted.distinctBatches⟩,
    ⟨custody.process, custody.saved, custody.members, custody.stable, custody.requests, known,
      custody.batches, custody.events, custody.live, custody.savedLive, custody.covered⟩,
    ⟨accounted.conserved, accounted.total, accounted.since⟩⟩

/-- One more batch counts its omissions once. -/
theorem carried_received {batches : List DiagnosticBatch} {batch : DiagnosticBatch} {known : Text → Bool}
    (distinct : (batches.map DiagnosticBatch.batchId).Nodup) (member : batch ∈ batches)
    (absent : known batch.batchId = false) {grown : Text → Bool}
    (same : ∀ batchId, grown batchId = (known batchId || decide (batchId = batch.batchId))) :
    carried (batches.filter fun other => grown other.batchId) =
      carried (batches.filter fun other => known other.batchId) + batch.omittedCount := by
  induction batches with
  | nil => cases member
  | cons head rest ih =>
      obtain ⟨fresh, later⟩ := List.nodup_cons.mp distinct
      rcases List.mem_cons.mp member with rfl | inside
      · have others : rest.filter (fun other => grown other.batchId) =
            rest.filter fun other => known other.batchId := by
          apply List.filter_congr
          intro other listed
          rw [same, decide_eq_false, Bool.or_false]
          intro equal
          exact fresh (List.mem_map.mpr ⟨other, listed, equal⟩)
        have taken : grown batch.batchId = true := by rw [same, decide_eq_true rfl, Bool.or_true]
        simp only [List.filter_cons, taken, absent, others, if_true, Bool.false_eq_true, if_false]
        exact Nat.add_comm _ _
      · have other : head.batchId ≠ batch.batchId := by
          intro equal
          exact fresh (List.mem_map.mpr ⟨batch, inside, equal.symm⟩)
        have agrees : grown head.batchId = known head.batchId := by
          rw [same, decide_eq_false other, Bool.or_false]
        cases kept : known head.batchId with
        | true =>
            simp only [List.filter_cons, agrees, kept, if_true]
            simp only [carried, List.map_cons, List.sum_cons] at ih ⊢
            rw [ih later inside, Nat.add_assoc]
        | false =>
            simp only [List.filter_cons, agrees, kept, Bool.false_eq_true, if_false]
            exact ih later inside

/-- A batch the receiver has not seen is stored with its events. -/
theorem facts_fresh (facts : delivery.Facts config) {batch : DiagnosticBatch} (listed : batch ∈ delivery.prepared)
    {written : Tables} (absent : delivery.tables.batches config.taskId batch.batchId = none)
    (events : Gathers (delivery.tables.events config.taskId) (written.events config.taskId) batch.events)
    (batches : written.batches config.taskId =
      Function.update (delivery.tables.batches config.taskId) batch.batchId (some batch))
    (omitted : written.omitted config.taskId =
      some (min ((delivery.tables.omitted config.taskId).getD 0 + batch.omittedCount) u64Max)) :
    Facts config { delivery with tables := written, acks := delivery.acks ++ [batch.batchId] } := by
  obtain ⟨minted, custody, accounted⟩ := facts
  have held : written.batches config.taskId batch.batchId = some batch := by
    rw [batches]
    exact Function.update_self ..
  have others {batchId : Text} (different : batchId ≠ batch.batchId) :
      written.batches config.taskId batchId = delivery.tables.batches config.taskId batchId := by
    rw [batches]
    exact Function.update_of_ne different ..
  have stays {event : DiagnosticEvent} (stored : Stored delivery.tables config.taskId event) :
      Stored written config.taskId event := events.kept stored
  refine ⟨⟨minted.round, minted.identity, minted.saved, minted.attempt, minted.texts, minted.events,
      minted.batches, minted.distinctEvents, minted.distinctBatches⟩,
    ⟨custody.process, custody.saved, custody.members, custody.stable, custody.requests, ?_, ?_, ?_, ?_, ?_,
      custody.covered⟩,
    ⟨accounted.conserved, ?_, accounted.since⟩⟩
  · intro batchId member
    by_cases same : batchId = batch.batchId
    · cases same
      exact ⟨batch, held⟩
    · rcases List.mem_append.mp member with earlier | last
      · obtain ⟨known, found⟩ := custody.acks batchId earlier
        exact ⟨known, (others same).trans found⟩
      · exact absurd (List.mem_singleton.mp last) same
  · intro batchId other found
    by_cases same : batchId = batch.batchId
    · cases same
      cases held.symm.trans found
      exact ⟨listed, rfl, events.added⟩
    · obtain ⟨known, named, stored⟩ := custody.batches ((others same).symm.trans found)
      exact ⟨known, named, fun event member => stays (stored event member)⟩
  · intro eventId event found
    rcases events.only found with before | ⟨member, named⟩
    · exact custody.events before
    · exact ⟨custody.members batch listed event member, named⟩
  · intro event member
    exact (custody.live event member).imp stays id
  · intro event member
    exact (custody.savedLive event member).imp stays id
  · have grown := @carried_received _ _ (fun batchId => (delivery.tables.batches config.taskId batchId).isSome)
      minted.distinctBatches listed (by rw [absent]; rfl)
      (fun batchId => (written.batches config.taskId batchId).isSome) (by
        intro batchId
        by_cases same : batchId = batch.batchId
        · cases same
          rw [held, decide_eq_true rfl, Bool.or_true]
          rfl
        · rw [others same, decide_eq_false same, Bool.or_false])
    have total := accounted.total
    rw [omitted, Option.getD_some, received, grown]
    exact (Nat.min_le_left _ _).trans (Nat.add_le_add_right total _)

theorem facts_deliver (facts : delivery.Facts config) {report : ProgressReport}
    (sent : report ∈ delivery.requests) (faults : Faults) (executionId : Option Text) (updatedAt : Nat) :
    (delivery.deliver config report faults executionId updatedAt).Facts config := by
  have receives := TaskService.updateProgress_receives faults delivery.tables config.taskId report executionId
    updatedAt
  simp only [deliver]
  generalize TaskService.updateProgress faults delivery.tables config.taskId report executionId updatedAt =
    outcome at receives ⊢
  obtain ⟨answer, written⟩ := outcome
  cases receives with
  | failed reason same =>
      cases same
      exact facts_same facts ⟨rfl, rfl, rfl⟩ facts.custody.acks
  | plain bare same =>
      simp only [bare, Option.map_none, if_true, Option.toList_none, List.append_nil]
      exact facts_same facts same facts.custody.acks
  | batch batch carried stored stores same =>
      have listed := facts.custody.requests report sent batch carried
      have stable : sanitizeBatch batch = batch := by
        have events : batch.events.map DiagnosticEvent.sanitize = batch.events.map id :=
          List.map_congr_left fun event member =>
            facts.custody.stable event (facts.custody.members batch listed event member)
        rw [List.map_id] at events
        rw [sanitizeBatch, events]
      rw [stable, stable] at stores
      simp only [carried, Option.map_some, if_true, Option.toList_some]
      cases stores with
      | known existing unchanged =>
          cases unchanged
          refine facts_same facts same ?_
          intro batchId member
          rcases List.mem_append.mp member with earlier | last
          · exact facts.custody.acks batchId earlier
          · cases List.mem_singleton.mp last
            exact ⟨batch, existing⟩
      | fresh absent events batches omitted =>
          rw [← same.events] at events
          rw [← same.batches] at batches
          rw [← same.omitted] at omitted
          exact facts_fresh facts listed absent events batches omitted

theorem facts_answer (facts : delivery.Facts config) {batchId : Text} (answered : batchId ∈ delivery.acks) :
    Facts config { delivery with
      process := { delivery.process with outbox := (delivery.process.outbox.ack batchId).2 } } := by
  obtain ⟨minted, custody, accounted⟩ := facts
  rcases delivery.process.outbox.ack_cases batchId with ⟨batch, flying, named, running, dropped⟩ | unchanged
  · simp only [dropped]
    have landed := DiagnosticOutbox.unbatched_acknowledge flying
    obtain ⟨held, found⟩ := custody.acks batchId answered
    obtain ⟨known, heldNamed, stored⟩ := custody.batches found
    have same : held = batch := List.inj_on_of_nodup_map minted.distinctBatches known
      (custody.process.flying batch flying).1 (heldNamed.trans named.symm)
    cases same
    refine ⟨⟨minted.round, minted.identity, minted.saved, minted.attempt, minted.texts, minted.events,
        minted.batches, minted.distinctEvents, minted.distinctBatches⟩,
      ⟨custody.process.acknowledge running batch, custody.saved, custody.members, custody.stable,
        custody.requests, custody.acks, custody.batches, custody.events, ?_, custody.savedLive, custody.covered⟩,
      ⟨?_, accounted.total, ?_⟩⟩
    · intro event member
      rcases custody.live event member with before | waiting
      · exact .inl before
      · exact (custody.process.pending_drop flying waiting).imp (stored event) id
    · rw [landed]
      exact accounted.conserved
    · rw [landed]
      exact accounted.since
  · simp only [unchanged]
    exact ⟨minted, custody, accounted⟩

theorem facts_save (facts : delivery.Facts config) :
    Facts config { delivery with saved := some delivery.process, savedLive := delivery.live } := by
  obtain ⟨minted, custody, accounted⟩ := facts
  refine ⟨⟨minted.round, minted.identity, ?_, minted.attempt, minted.texts, minted.events,
      minted.batches, minted.distinctEvents, minted.distinctBatches⟩,
    ⟨custody.process, ?_, custody.members, custody.stable, custody.requests, custody.acks, custody.batches,
      custody.events, custody.live, ?_, fun _ member => member⟩,
    ⟨accounted.conserved, accounted.total, ?_⟩⟩
  · intro copy member
    cases Option.mem_some_iff.mp member
    exact ⟨minted.identity, minted.round⟩
  · intro copy member
    cases Option.mem_some_iff.mp member
    exact custody.process
  · intro event member
    exact (custody.live event member).imp id fun waiting => ⟨_, rfl, waiting⟩
  · intro copy member
    cases Option.mem_some_iff.mp member
    exact ⟨Nat.le_refl _, fun _ => Nat.le_refl _⟩

theorem facts_crash (facts : delivery.Facts config) {roundId attemptId : Text} {now : Nat}
    (keeps : delivery.Keeps (.crash roundId attemptId now)) (unused : attemptId ∉ delivery.attempts)
    {process : CallbackState}
    (launched : CallbackState.launch delivery.saved config.jobId config.round roundId attemptId now = some process) :
    Facts config { delivery with
      process
      live := delivery.savedLive
      attempts := delivery.attempts ++ [attemptId] } := by
  obtain ⟨minted, custody, accounted⟩ := facts
  have texts {outbox : DiagnosticOutbox} (attempt : outbox.attemptId = attemptId) :
      ∀ text ∈ delivery.minted, ∃ used ∈ delivery.attempts ++ [attemptId], ∃ kind sequence,
        text = DiagnosticOutbox.identifierText config.roundId used kind sequence ∧
          (used = outbox.attemptId → sequence ≤ outbox.counter kind) := by
    intro text member
    obtain ⟨used, listed, kind, sequence, named, -⟩ := minted.texts text member
    refine ⟨used, List.mem_append_left _ listed, kind, sequence, named, ?_⟩
    rintro rfl
    exact absurd (attempt ▸ listed) unused
  have newest : attemptId ∈ delivery.attempts ++ [attemptId] := List.mem_append_right _ List.mem_cons_self
  obtain ⟨round, -, ⟨nothing, outbox⟩ | ⟨copy, restored, outbox⟩⟩ := CallbackState.launch_cases launched
    fun copy member => (minted.saved copy member).1
  · have attempt : process.outbox.attemptId = attemptId := by rw [outbox]; rfl
    refine ⟨⟨?_, round, minted.saved, ?_, texts attempt, minted.events, minted.batches, minted.distinctEvents,
        minted.distinctBatches⟩,
      ⟨?_, custody.saved, custody.members, custody.stable, custody.requests, custody.acks, custody.batches,
        custody.events, ?_, custody.savedLive, fun _ member => member⟩, ⟨?_, accounted.total, ?_⟩⟩
    · rw [outbox]
      rfl
    · rw [attempt]
      exact newest
    · rw [outbox]
      exact .new _ _ _ _
    · intro event member
      rcases custody.savedLive event member with stored | ⟨copy, impossible, -⟩
      · exact .inl stored
      · rw [nothing] at impossible
        cases impossible
    · have conserved := accounted.conserved
      rw [outbox]
      exact (Nat.add_le_add_left (Nat.zero_le _) _).trans conserved
    · rw [nothing]
      exact nofun
  · have attempt : process.outbox.attemptId = attemptId := by rw [outbox]; rfl
    refine ⟨⟨?_, round, minted.saved, ?_, texts attempt, minted.events, minted.batches, minted.distinctEvents,
        minted.distinctBatches⟩,
      ⟨?_, custody.saved, custody.members, custody.stable, custody.requests, custody.acks, custody.batches,
        custody.events, ?_, custody.savedLive, fun _ member => member⟩, ⟨?_, accounted.total, ?_⟩⟩
    · rw [outbox]
      exact (minted.saved copy restored).2
    · rw [attempt]
      exact newest
    · rw [outbox]
      exact (custody.saved copy restored).setAttempt attemptId
    · intro event member
      rw [outbox]
      rcases custody.savedLive event member with stored | ⟨other, same, waiting⟩
      · exact .inl stored
      · rw [restored] at same
        cases Option.mem_some_iff.mp same
        exact .inr waiting
    · have conserved := accounted.conserved
      have since := (accounted.since copy restored).2
      have kept : copy.outbox.unbatched ≤ delivery.process.outbox.unbatched := by
        rcases keeps copy restored with none | same
        · rw [none]
          exact Nat.zero_le _
        · exact since same
      rw [outbox]
      exact (Nat.add_le_add_left kept _).trans conserved
    · intro other same
      rw [restored] at same
      cases Option.mem_some_iff.mp same
      rw [outbox]
      exact ⟨Nat.le_refl _, fun _ => Nat.le_refl _⟩

end Delivery

end Terrasync.Web
