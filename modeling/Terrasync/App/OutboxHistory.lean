import Mathlib.Data.List.Nodup
import Mathlib.Data.List.Perm.Basic
import Terrasync.App.DiagnosticTextProperties
import Terrasync.App.DiagnosticsProperties

/-! An outbox under any calls, with what it has accepted, handed out and dropped. Its state
restores under its own identity as long as no pending event was enqueued under an empty
attempt identifier. -/

set_option autoImplicit false

namespace Terrasync.App

inductive OutboxCall where
  | enqueue (origin code message : Text) (path : Option Text)
  | prepareBatch
  | ack (batchId : Text)
  | setAttempt (attemptId : Text)
deriving DecidableEq, Repr

structure OutboxHistory where
  outbox : DiagnosticOutbox
  /-- The events of the enqueue calls that returned true, in order. -/
  accepted : List DiagnosticEvent
  /-- The events that acknowledgements took off the queue, in order. -/
  removed : List DiagnosticEvent
  /-- The batches that were put in flight, in order. -/
  prepared : List DiagnosticBatch
  /-- The batches that left flight, in order. -/
  acknowledged : List DiagnosticBatch
  /-- The texts whose digests name these events and batches, in order. -/
  named : List Text

namespace OutboxHistory

section Calls

variable (digest : Text → Text)

def new (roundId attemptId : Text) (capacity batchSize : Nat) : OutboxHistory :=
  ⟨.new roundId attemptId capacity batchSize, [], [], [], [], []⟩

def enqueue (history : OutboxHistory) (origin code message : Text) (path : Option Text) : OutboxHistory :=
  let result := history.outbox.enqueue digest origin code message path
  { history with
    outbox := result.2
    accepted := history.accepted ++ if result.1 then result.2.pending.getLast?.toList else []
    named := history.named ++ if result.1 then [history.outbox.nextText .event] else [] }

def prepareBatch (history : OutboxHistory) : OutboxHistory :=
  let result := history.outbox.prepareBatch digest
  let fresh := if history.outbox.inFlight = none then result.1 else none
  { history with
    outbox := result.2
    prepared := history.prepared ++ fresh.toList
    named := history.named ++ if fresh.isSome then [history.outbox.nextText .batch] else [] }

def ack (history : OutboxHistory) (batchId : Text) : OutboxHistory :=
  let result := history.outbox.ack batchId
  { history with
    outbox := result.2
    removed := history.removed ++
      history.outbox.pending.take (history.outbox.pending.length - result.2.pending.length)
    acknowledged := history.acknowledged ++ if result.1 then history.outbox.inFlight.toList else [] }

def step (history : OutboxHistory) : OutboxCall → OutboxHistory
  | .enqueue origin code message path => history.enqueue digest origin code message path
  | .prepareBatch => history.prepareBatch digest
  | .ack batchId => history.ack batchId
  | .setAttempt attemptId => { history with outbox := history.outbox.setAttempt attemptId }

def run (history : OutboxHistory) (calls : List OutboxCall) : OutboxHistory := calls.foldl (step digest) history

end Calls

/-- What the revision counts the changes of: everything but the attempt. -/
def content (outbox : DiagnosticOutbox) :
    List DiagnosticEvent × Option DiagnosticBatch × Nat × Nat × Nat :=
  (outbox.pending, outbox.inFlight, outbox.omittedCount, outbox.nextEvent, outbox.nextBatch)

/-- The digests of these texts differ. -/
def CollisionFree (digest : Text → Text) (texts : List Text) : Prop :=
  ∀ first ∈ texts, ∀ second ∈ texts, digest first = digest second → first = second

/-! ### What every call keeps -/

variable {digest : Text → Text} {history : OutboxHistory}

structure Kept (digest : Text → Text) (history : OutboxHistory) : Prop where
  sound : history.outbox.Sound history.prepared history.accepted
  capacity : history.outbox.capacity ≤ maxDiagnosticQueueEvents
  batchSize : 1 ≤ history.outbox.batchSize ∧ history.outbox.batchSize ≤ maxDiagnosticBatchEvents
  room : history.outbox.pending.length ≤ history.outbox.capacity
  order : history.removed ++ history.outbox.pending = history.accepted
  batches : history.acknowledged ++ history.outbox.inFlight.toList = history.prepared
  flying : ∀ batch ∈ history.outbox.inFlight,
    batch.batchId.isDigest = true ∧ batch.events.length ≤ history.outbox.batchSize
  events : ∀ event ∈ history.outbox.pending,
    event.roundId = history.outbox.roundId ∧ event.isBounded = true
  texts : ∀ text ∈ history.named, ∃ attemptId kind sequence,
    text = DiagnosticOutbox.identifierText history.outbox.roundId attemptId kind sequence ∧
      sequence ≤ history.outbox.counter kind
  unrepeated : history.named.Nodup
  identified : (history.accepted.map DiagnosticEvent.eventId ++
    history.prepared.map DiagnosticBatch.batchId).Perm (history.named.map digest)

theorem kept_new (roundId attemptId : Text) (capacity batchSize : Nat) :
    Kept digest (new roundId attemptId capacity batchSize) where
  sound := .new roundId attemptId capacity batchSize
  capacity := Nat.min_le_right _ _
  batchSize := ⟨Nat.le_max_left _ _, Nat.max_le.mpr ⟨by decide, Nat.min_le_right _ _⟩⟩
  room := Nat.zero_le _
  order := rfl
  batches := rfl
  flying := fun _ member => absurd member (by simp [new, DiagnosticOutbox.new])
  events := fun _ member => absurd member List.not_mem_nil
  texts := fun _ member => absurd member List.not_mem_nil
  unrepeated := List.nodup_nil
  identified := .refl _

/-- The next identifier text has not been digested before. -/
theorem Kept.fresh (kept : history.Kept digest) (kind : IdentifierKind) :
    history.outbox.nextText kind ∉ history.named := by
  intro member
  obtain ⟨attemptId, used, sequence, same, below⟩ := kept.texts _ member
  obtain ⟨-, rfl, rfl⟩ := DiagnosticOutbox.identifierText_inj same
  exact absurd below (Nat.not_succ_le_self _)

/-- One more text keeps the texts accounted for when its counter moves on. -/
theorem Kept.extend (kept : history.Kept digest) (kind : IdentifierKind) {outbox : DiagnosticOutbox}
    (round : outbox.roundId = history.outbox.roundId)
    (counted : outbox.counter kind = history.outbox.counter kind + 1)
    (others : ∀ other, history.outbox.counter other ≤ outbox.counter other) :
    ∀ text ∈ history.named ++ [history.outbox.nextText kind], ∃ attemptId used sequence,
      text = DiagnosticOutbox.identifierText outbox.roundId attemptId used sequence ∧
        sequence ≤ outbox.counter used := by
  intro text member
  rw [round]
  rcases List.mem_append.mp member with earlier | last
  · obtain ⟨attemptId, used, sequence, named, below⟩ := kept.texts text earlier
    exact ⟨attemptId, used, sequence, named, below.trans (others used)⟩
  · cases List.mem_singleton.mp last
    exact ⟨_, kind, _, rfl, Nat.le_of_eq counted.symm⟩

theorem Kept.unrepeated_snoc (kept : history.Kept digest) (kind : IdentifierKind) :
    (history.named ++ [history.outbox.nextText kind]).Nodup := by
  refine List.nodup_append.mpr ⟨kept.unrepeated, List.nodup_singleton _, ?_⟩
  intro text member other single same
  cases List.mem_singleton.mp single
  exact kept.fresh kind (same ▸ member)

theorem event_isBounded (digests : ∀ text, (digest text).isDigest = true) (outbox : DiagnosticOutbox)
    (origin code message : Text) (path : Option Text) :
    (outbox.event digest origin code message path).isBounded = true := by
  have label (text : Text) : (safeDiagnosticLabel text).byteLength ≤ maxDiagnosticLabelBytes :=
    Text.byteTake_length _ _
  have text (text : Text) : (safeDiagnosticText text).byteLength ≤ maxDiagnosticTextBytes :=
    Text.byteTake_length _ _
  simp only [DiagnosticEvent.isBounded, DiagnosticOutbox.event, DiagnosticOutbox.identifier, digests, label,
    text, decide_true, Bool.true_and, Option.all_map]
  cases path with
  | none => rfl
  | some path => rfl

theorem Kept.enqueue (digests : ∀ text, (digest text).isDigest = true) (kept : history.Kept digest)
    (origin code message : Text) (path : Option Text) :
    (history.enqueue digest origin code message path).Kept digest := by
  rcases @DiagnosticOutbox.enqueue_cases digest history.outbox origin code message path with
    ⟨running, room, outcome⟩ | ⟨running, -, outcome⟩ | ⟨-, outcome⟩
  · have event := event_isBounded digests history.outbox origin code message path
    simp only [OutboxHistory.enqueue, outcome, if_true, List.getLast?_concat, Option.toList_some]
    generalize named : history.outbox.event digest origin code message path = added at event
    have free : history.outbox.pending.length < history.outbox.capacity := by
      simp only [DiagnosticOutbox.isFull, ne_eq, running, not_false_eq_true, decide_true, Bool.true_and,
        decide_eq_false_iff_not] at room
      exact Nat.lt_of_not_le room
    constructor
    case sound => exact kept.sound.keep running added
    case capacity => exact kept.capacity
    case batchSize => exact kept.batchSize
    case room =>
      rw [List.length_append, List.length_singleton]
      exact free
    case order => rw [← List.append_assoc, kept.order]
    case batches => exact kept.batches
    case flying => exact kept.flying
    case events =>
      refine List.forall_mem_append.mpr ⟨kept.events, List.forall_mem_singleton.mpr ⟨?_, event⟩⟩
      rw [← named]
      rfl
    case texts =>
      refine @Kept.extend _ _ kept .event { history.outbox with nextEvent := _ } rfl rfl fun other => ?_
      cases other with
      | event => exact Nat.le_succ _
      | batch => exact Nat.le_refl _
    case unrepeated => exact kept.unrepeated_snoc .event
    case identified =>
      have one : [added].map DiagnosticEvent.eventId = [history.outbox.nextText .event].map digest := by
        rw [← named]
        rfl
      rw [List.map_append, List.map_append, List.append_assoc, one]
      refine (List.perm_append_comm.append_left _).trans ?_
      rw [← List.append_assoc]
      exact kept.identified.append_right _
  · simp only [OutboxHistory.enqueue, outcome, Bool.false_eq_true, if_false, List.append_nil]
    exact ⟨kept.sound.omit running, kept.capacity, kept.batchSize, kept.room, kept.order, kept.batches,
      kept.flying, kept.events, kept.texts, kept.unrepeated, kept.identified⟩
  · simp only [OutboxHistory.enqueue, outcome, Bool.false_eq_true, if_false, List.append_nil]
    exact kept

theorem Kept.prepareBatch (digests : ∀ text, (digest text).isDigest = true) (kept : history.Kept digest) :
    (history.prepareBatch digest).Kept digest := by
  rcases @DiagnosticOutbox.prepareBatch_cases digest history.outbox with
    ⟨batch, flying, outcome⟩ | ⟨landed, running, outcome⟩ | ⟨landed, outcome⟩
  · simp only [OutboxHistory.prepareBatch, outcome, flying, reduceCtorEq, if_false, Option.isSome_none,
      Option.toList_none, List.append_nil, Bool.false_eq_true]
    exact kept
  · simp only [OutboxHistory.prepareBatch, outcome, landed, if_true, Option.isSome_some, Option.toList_some]
    have none := kept.batches
    rw [landed, Option.toList_none, List.append_nil] at none
    constructor
    case sound => exact kept.sound.prepare running
    case capacity => exact kept.capacity
    case batchSize => exact kept.batchSize
    case room => exact kept.room
    case order => exact kept.order
    case batches => rw [none, Option.toList_some]
    case flying =>
      intro batch member
      cases Option.mem_some_iff.mp member
      exact ⟨digests _, List.length_take_le _ _⟩
    case events => exact kept.events
    case texts =>
      refine @Kept.extend _ _ kept .batch { history.outbox with nextBatch := _ } rfl rfl fun other => ?_
      cases other with
      | event => exact Nat.le_refl _
      | batch => exact Nat.le_succ _
    case unrepeated => exact kept.unrepeated_snoc .batch
    case identified =>
      rw [List.map_append, List.map_append, ← List.append_assoc]
      exact kept.identified.append (.refl _)
  · simp only [OutboxHistory.prepareBatch, outcome, ite_self, Option.isSome_none, Option.toList_none,
      List.append_nil, Bool.false_eq_true, if_false]
    exact kept

theorem Kept.ack (kept : history.Kept digest) (batchId : Text) : (history.ack batchId).Kept digest := by
  rcases history.outbox.ack_cases batchId with ⟨batch, flying, -, running, outcome⟩ | outcome
  · obtain ⟨-, -, isPrefix⟩ := kept.sound.flying batch flying
    have covers : batch.events.length ≤ history.outbox.pending.length := by
      rw [← isPrefix]
      exact List.length_take_le' _ _
    have taken : history.outbox.pending.length - (history.outbox.pending.length - batch.events.length) =
        batch.events.length := Nat.sub_sub_self covers
    simp only [OutboxHistory.ack, outcome, if_true, List.length_drop, taken, flying, Option.toList_some]
    have all := kept.batches
    rw [flying, Option.toList_some] at all
    constructor
    case sound => exact kept.sound.acknowledge running batch
    case capacity => exact kept.capacity
    case batchSize => exact kept.batchSize
    case room =>
      rw [List.length_drop]
      exact (Nat.sub_le _ _).trans kept.room
    case order => rw [List.append_assoc, List.take_append_drop, kept.order]
    case batches => rw [Option.toList_none, List.append_nil, all]
    case flying => exact fun _ member => absurd member (by simp)
    case events => exact fun event member => kept.events event (List.mem_of_mem_drop member)
    case texts => exact kept.texts
    case unrepeated => exact kept.unrepeated
    case identified => exact kept.identified
  · simp only [OutboxHistory.ack, outcome, Nat.sub_self, List.take_zero, List.append_nil, Bool.false_eq_true,
      if_false]
    exact kept

theorem Kept.setAttempt (kept : history.Kept digest) (attemptId : Text) :
    Kept digest { history with outbox := history.outbox.setAttempt attemptId } where
  sound := kept.sound.setAttempt attemptId
  capacity := kept.capacity
  batchSize := kept.batchSize
  room := kept.room
  order := kept.order
  batches := kept.batches
  flying := kept.flying
  events := kept.events
  texts := fun text member => by
    obtain ⟨used, kind, sequence, named, below⟩ := kept.texts text member
    exact ⟨used, kind, sequence, named, by cases kind <;> exact below⟩
  unrepeated := kept.unrepeated
  identified := kept.identified

theorem kept_step (digests : ∀ text, (digest text).isDigest = true) (kept : history.Kept digest)
    (call : OutboxCall) : (history.step digest call).Kept digest := by
  cases call with
  | enqueue origin code message path => exact kept.enqueue digests origin code message path
  | prepareBatch => exact kept.prepareBatch digests
  | ack batchId => exact kept.ack batchId
  | setAttempt attemptId => exact kept.setAttempt attemptId

theorem kept_run (digests : ∀ text, (digest text).isDigest = true) (kept : history.Kept digest)
    (calls : List OutboxCall) : (history.run digest calls).Kept digest := by
  induction calls generalizing history with
  | nil => exact kept
  | cons call rest ih => exact ih (kept_step digests kept call)

/-! ### Identity, revision and the batch in flight -/

/-- Own identity is refused for the attempt of a pending event only. -/
theorem Kept.validateIdentity_iff (kept : history.Kept digest) :
    history.outbox.validateIdentity history.outbox.roundId history.outbox.attemptId = true ↔
      ∀ event ∈ history.outbox.pending, event.attemptId ≠ [] := by
  have flying : (history.outbox.inFlight.all fun batch =>
      batch.batchId.isDigest && batch.events.length ≤ history.outbox.batchSize &&
        batch.omittedCount ≤ history.outbox.omittedCount &&
        history.outbox.pending.take batch.events.length = batch.events) = true := by
    rw [Option.all_eq_true]
    intro batch member
    obtain ⟨digests, short⟩ := kept.flying batch member
    obtain ⟨-, carried, isPrefix⟩ := kept.sound.flying batch member
    simp only [digests, decide_eq_true short, decide_eq_true carried, decide_eq_true isPrefix, Bool.and_self]
  simp only [DiagnosticOutbox.validateIdentity, decide_eq_true kept.capacity, decide_eq_true kept.batchSize.1,
    decide_eq_true kept.batchSize.2, decide_eq_true kept.room, flying, decide_true, Bool.true_and,
    Bool.and_true, List.all_eq_true, Bool.and_eq_true, decide_eq_true_eq]
  constructor
  · exact fun accepted event member => (accepted event member).1.2
  · exact fun attempts event member =>
      ⟨⟨(kept.events event member).1, attempts event member⟩, (kept.events event member).2⟩

/-- A call that changes the content moves the revision on. -/
theorem step_revision (call : OutboxCall)
    (changed : content (history.step digest call).outbox ≠ content history.outbox) :
    history.outbox.revision < (history.step digest call).outbox.revision := by
  cases call with
  | enqueue origin code message path =>
      simp only [step, enqueue] at changed ⊢
      rcases @DiagnosticOutbox.enqueue_cases digest history.outbox origin code message path with
        ⟨-, -, outcome⟩ | ⟨-, -, outcome⟩ | ⟨-, outcome⟩
      · rw [outcome]
        exact Nat.lt_succ_self _
      · rw [outcome]
        exact Nat.lt_succ_self _
      · rw [outcome] at changed
        exact absurd rfl changed
  | prepareBatch =>
      simp only [step, prepareBatch] at changed ⊢
      rcases @DiagnosticOutbox.prepareBatch_cases digest history.outbox with
        ⟨batch, -, outcome⟩ | ⟨-, -, outcome⟩ | ⟨-, outcome⟩
      · rw [outcome] at changed
        exact absurd rfl changed
      · rw [outcome]
        exact Nat.lt_succ_self _
      · rw [outcome] at changed
        exact absurd rfl changed
  | ack batchId =>
      simp only [step, ack] at changed ⊢
      rcases history.outbox.ack_cases batchId with ⟨batch, -, -, -, outcome⟩ | outcome
      · rw [outcome]
        exact Nat.lt_succ_self _
      · rw [outcome] at changed
        exact absurd rfl changed
  | setAttempt attemptId => exact absurd rfl changed

theorem acknowledged_step (call : OutboxCall) :
    history.acknowledged <+: (history.step digest call).acknowledged := by
  cases call with
  | ack batchId => exact List.prefix_append _ _
  | enqueue | prepareBatch | setAttempt => exact List.prefix_rfl

theorem acknowledged_run (calls : List OutboxCall) :
    history.acknowledged <+: (history.run digest calls).acknowledged := by
  induction calls generalizing history with
  | nil => exact List.prefix_rfl
  | cons call rest ih => exact (acknowledged_step call).trans ih

/-- A batch stays in flight until it is acknowledged. -/
theorem inFlight_step {batch : DiagnosticBatch} (flying : history.outbox.inFlight = some batch)
    (call : OutboxCall) : (history.step digest call).outbox.inFlight = some batch ∨
      batch ∈ (history.step digest call).acknowledged := by
  cases call with
  | enqueue origin code message path =>
      refine .inl ?_
      simp only [step, enqueue]
      rcases @DiagnosticOutbox.enqueue_cases digest history.outbox origin code message path with
        ⟨-, -, outcome⟩ | ⟨-, -, outcome⟩ | ⟨-, outcome⟩
      all_goals
        rw [outcome]
        exact flying
  | prepareBatch =>
      refine .inl ?_
      simp only [step, prepareBatch, DiagnosticOutbox.prepareBatch, flying]
  | ack batchId =>
      simp only [step, ack]
      rcases history.outbox.ack_cases batchId with ⟨other, -, -, -, outcome⟩ | outcome
      · refine .inr ?_
        rw [outcome, if_pos rfl, flying]
        exact List.mem_append_right _ List.mem_cons_self
      · rw [outcome]
        exact .inl flying
  | setAttempt attemptId => exact .inl flying

theorem inFlight_run {batch : DiagnosticBatch} (flying : history.outbox.inFlight = some batch)
    (calls : List OutboxCall) : (history.run digest calls).outbox.inFlight = some batch ∨
      batch ∈ (history.run digest calls).acknowledged := by
  induction calls generalizing history with
  | nil => exact .inl flying
  | cons call rest ih =>
      rcases @inFlight_step digest history batch flying call with still | gone
      · exact ih still
      · exact .inr ((acknowledged_run rest).subset gone)

theorem prepareBatch_inFlight {batch : DiagnosticBatch}
    (shown : (history.outbox.prepareBatch digest).1 = some batch) :
    (history.step digest .prepareBatch).outbox.inFlight = some batch := by
  simp only [step, prepareBatch]
  rcases @DiagnosticOutbox.prepareBatch_cases digest history.outbox with
    ⟨other, flying, outcome⟩ | ⟨-, -, outcome⟩ | ⟨-, outcome⟩
  · rw [outcome] at shown ⊢
    exact flying.trans shown
  · rw [outcome] at shown ⊢
    exact shown
  · rw [outcome] at shown
    cases shown

theorem identity_step (call : OutboxCall) :
    (history.step digest call).outbox.roundId = history.outbox.roundId ∧
      (history.step digest call).outbox.capacity = history.outbox.capacity := by
  cases call with
  | enqueue origin code message path =>
      simp only [step, enqueue]
      rcases @DiagnosticOutbox.enqueue_cases digest history.outbox origin code message path with
        ⟨-, -, outcome⟩ | ⟨-, -, outcome⟩ | ⟨-, outcome⟩
      all_goals
        rw [outcome]
        exact ⟨rfl, rfl⟩
  | prepareBatch =>
      simp only [step, prepareBatch]
      rcases @DiagnosticOutbox.prepareBatch_cases digest history.outbox with
        ⟨batch, -, outcome⟩ | ⟨-, -, outcome⟩ | ⟨-, outcome⟩
      all_goals
        rw [outcome]
        exact ⟨rfl, rfl⟩
  | ack batchId =>
      simp only [step, ack]
      rcases history.outbox.ack_cases batchId with ⟨batch, -, -, -, outcome⟩ | outcome
      all_goals
        rw [outcome]
        exact ⟨rfl, rfl⟩
  | setAttempt attemptId => exact ⟨rfl, rfl⟩

theorem identity_run (calls : List OutboxCall) :
    (history.run digest calls).outbox.roundId = history.outbox.roundId ∧
      (history.run digest calls).outbox.capacity = history.outbox.capacity := by
  induction calls generalizing history with
  | nil => exact ⟨rfl, rfl⟩
  | cons call rest ih =>
      obtain ⟨round, capacity⟩ := @identity_step digest history call
      obtain ⟨laterRound, laterCapacity⟩ := @ih (history.step digest call)
      exact ⟨laterRound.trans round, laterCapacity.trans capacity⟩

/-! ### Attempts with a name -/

/-- The outbox and its pending events belong to named attempts. -/
def Named (outbox : DiagnosticOutbox) : Prop :=
  outbox.attemptId ≠ [] ∧ ∀ event ∈ outbox.pending, event.attemptId ≠ []

theorem named_step (named : Named history.outbox) {call : OutboxCall}
    (attempts : ∀ attemptId, call = .setAttempt attemptId → attemptId ≠ []) :
    Named (history.step digest call).outbox := by
  obtain ⟨own, events⟩ := named
  cases call with
  | enqueue origin code message path =>
      simp only [step, enqueue]
      rcases @DiagnosticOutbox.enqueue_cases digest history.outbox origin code message path with
        ⟨-, -, outcome⟩ | ⟨-, -, outcome⟩ | ⟨-, outcome⟩
      · rw [outcome]
        exact ⟨own, List.forall_mem_append.mpr ⟨events, List.forall_mem_singleton.mpr own⟩⟩
      · rw [outcome]
        exact ⟨own, events⟩
      · rw [outcome]
        exact ⟨own, events⟩
  | prepareBatch =>
      simp only [step, prepareBatch]
      rcases @DiagnosticOutbox.prepareBatch_cases digest history.outbox with
        ⟨batch, -, outcome⟩ | ⟨-, -, outcome⟩ | ⟨-, outcome⟩
      all_goals
        rw [outcome]
        exact ⟨own, events⟩
  | ack batchId =>
      simp only [step, ack]
      rcases history.outbox.ack_cases batchId with ⟨batch, -, -, -, outcome⟩ | outcome
      · rw [outcome]
        exact ⟨own, fun event member => events event (List.mem_of_mem_drop member)⟩
      · rw [outcome]
        exact ⟨own, events⟩
  | setAttempt attemptId => exact ⟨attempts attemptId rfl, events⟩

theorem named_run (named : Named history.outbox) {calls : List OutboxCall}
    (attempts : ∀ attemptId, .setAttempt attemptId ∈ calls → attemptId ≠ []) :
    Named (history.run digest calls).outbox := by
  induction calls generalizing history with
  | nil => exact named
  | cons call rest ih =>
      refine ih (named_step named fun attemptId same => attempts attemptId ?_) fun attemptId member =>
        attempts attemptId (List.mem_cons_of_mem _ member)
      rw [same]
      exact List.mem_cons_self

/-- Under any calls the queue is bounded, the batch in flight is a prefix of it and is repeated
until it is acknowledged, no accepted event is lost or moved, identifiers are distinct, and the
revision counts every change. The state restores under its own identity exactly when no pending
event was enqueued under an empty attempt identifier. -/
theorem outbox_consistent (digest : Text → Text) (digests : ∀ text, (digest text).isDigest = true)
    (roundId attemptId : Text) (capacity batchSize : Nat) (calls : List OutboxCall)
    (collisionFree : CollisionFree digest ((new roundId attemptId capacity batchSize).run digest calls).named) :
    let history := (new roundId attemptId capacity batchSize).run digest calls
    let outbox := history.outbox
    outbox.pending.length ≤ min capacity maxDiagnosticQueueEvents ∧
      (∀ batch ∈ outbox.inFlight, batch.events <+: outbox.pending ∧
        batch.omittedCount ≤ outbox.omittedCount) ∧
      (∀ batch later, (outbox.prepareBatch digest).1 = some batch →
        batch ∉ ((history.step digest .prepareBatch).run digest later).acknowledged →
          (((history.step digest .prepareBatch).run digest later).outbox.prepareBatch digest).1 = some batch) ∧
      history.removed ++ outbox.pending = history.accepted ∧
      (history.accepted.map DiagnosticEvent.eventId ++
        history.prepared.map DiagnosticBatch.batchId).Nodup ∧
      (∀ call, content (history.step digest call).outbox ≠ content outbox →
        outbox.revision < (history.step digest call).outbox.revision) ∧
      (outbox.validateIdentity roundId outbox.attemptId = true ↔
        ∀ event ∈ outbox.pending, event.attemptId ≠ []) ∧
      (attemptId ≠ [] → (∀ other, .setAttempt other ∈ calls → other ≠ []) →
        outbox.validateIdentity roundId outbox.attemptId = true) := by
  have kept := kept_run digests (@kept_new digest roundId attemptId capacity batchSize) calls
  obtain ⟨round, size⟩ := @identity_run digest (new roundId attemptId capacity batchSize) calls
  have restorable := kept.validateIdentity_iff
  rw [round] at restorable
  refine ⟨?_, fun batch member => ?_, fun batch later shown held => ?_, kept.order, ?_,
    fun call changed => step_revision call changed, restorable, fun own attempts => restorable.mpr ?_⟩
  · have room := kept.room
    rw [size] at room
    exact room
  · obtain ⟨-, carried, isPrefix⟩ := kept.sound.flying batch member
    refine ⟨?_, carried⟩
    rw [← isPrefix]
    exact List.take_prefix _ _
  · rcases @inFlight_run digest _ _ (prepareBatch_inFlight shown) later with still | gone
    · simp only [DiagnosticOutbox.prepareBatch, still]
    · exact absurd gone held
  · rw [kept.identified.nodup_iff]
    exact kept.unrepeated.map_on fun first member second other same =>
      collisionFree first member second other same
  · have start : Named (new roundId attemptId capacity batchSize).outbox :=
      ⟨own, fun _ member => absurd member List.not_mem_nil⟩
    exact (named_run start attempts).2

/-- The characters of a text as digits of one number, in sixty-four hexadecimal places. -/
def placesDigest (text : Text) : Text :=
  (List.range 64).map fun place =>
    Nat.digitChar ((text.foldl (fun number character => number * 128 + character.toNat) 0) / 16 ^ place % 16)

theorem digitChar_hex : ∀ digit < 16, (Nat.digitChar digit).utf8Size = 1 ∧
    ((Nat.digitChar digit).isDigit || ('a' ≤ Nat.digitChar digit && Nat.digitChar digit ≤ 'f') ||
      ('A' ≤ Nat.digitChar digit && Nat.digitChar digit ≤ 'F')) = true := by decide

theorem placesDigest_isDigest (text : Text) : (placesDigest text).isDigest = true := by
  have place (number : Nat) : number % 16 < 16 := Nat.mod_lt _ (by decide)
  simp only [Text.isDigest, Bool.and_eq_true, decide_eq_true_eq, List.all_eq_true]
  constructor
  · have ones : (placesDigest text).map Char.utf8Size = List.replicate 64 1 := by
      refine List.eq_replicate_iff.mpr ⟨by simp [placesDigest], fun size member => ?_⟩
      simp only [placesDigest, List.map_map, List.mem_map, Function.comp_apply] at member
      obtain ⟨digit, -, rfl⟩ := member
      exact (digitChar_hex _ (place _)).1
    rw [Text.byteLength, ones]
    rfl
  · intro character member
    obtain ⟨digit, -, rfl⟩ := List.mem_map.mp member
    exact (digitChar_hex _ (place _)).2

/-- Two events; the batch of the first is acknowledged, that of the second is in flight. -/
def sampleCalls : List OutboxCall :=
  [.enqueue "scan".toList "reset".toList "first".toList none,
    .enqueue "copy".toList "denied".toList "second".toList (some "a".toList), .prepareBatch,
    .ack (placesDigest (DiagnosticOutbox.identifierText "round".toList "first".toList .batch 1)), .prepareBatch,
    .setAttempt "second".toList]

/-- The history of these calls, with batches of one event. -/
def sampleHistory : OutboxHistory := (new "round".toList "first".toList 4 1).run placesDigest sampleCalls

theorem outbox_consistent_sample :
    (sampleHistory.removed.length, sampleHistory.outbox.pending.length, sampleHistory.acknowledged.length,
        sampleHistory.prepared.length) = (1, 1, 1, 2) ∧
      sampleHistory.removed ++ sampleHistory.outbox.pending = sampleHistory.accepted ∧
      (sampleHistory.accepted.map DiagnosticEvent.eventId ++
        sampleHistory.prepared.map DiagnosticBatch.batchId).Nodup ∧
      (sampleHistory.outbox.validateIdentity "round".toList sampleHistory.outbox.attemptId = true ↔
        ∀ event ∈ sampleHistory.outbox.pending, event.attemptId ≠ []) := by
  obtain ⟨-, -, -, order, distinct, -, restores, -⟩ :=
    outbox_consistent placesDigest placesDigest_isDigest "round".toList "first".toList 4 1 sampleCalls
      (by unfold CollisionFree; decide +kernel)
  exact ⟨by decide +kernel, order, distinct, restores⟩

/-- An event of an attempt with an empty identifier makes the outbox refuse its own identity. -/
theorem empty_attempt_refused :
    let history := (new "round".toList [] 4 2).run placesDigest
      [.enqueue "scan".toList "reset".toList "first".toList none]
    CollisionFree placesDigest history.named ∧ history.outbox.attemptId = [] ∧
      history.outbox.validateIdentity "round".toList [] = false := by
  refine ⟨?_, by decide +kernel, by decide +kernel⟩
  unfold CollisionFree
  decide +kernel

end OutboxHistory

end Terrasync.App
