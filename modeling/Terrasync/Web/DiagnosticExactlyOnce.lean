import Terrasync.Web.DiagnosticDeliveryProperties

/-! Exactly-once delivery over whole runs, and the run that counts an omission twice: a
checkpoint with unbatched omissions is restored after a batch has carried them. -/

set_option autoImplicit false

namespace Terrasync.Web

open App CallbackReceipt

namespace Delivery

variable {config : DeliveryConfig} {delivery : Delivery}

theorem facts_step {next : Delivery} {action : Action}
    (facts : NoCollision config.digest delivery.minted → delivery.Facts config) (keeps : delivery.Keeps action)
    (stepped : delivery.step config action = some next) :
    NoCollision config.digest next.minted → next.Facts config := by
  intro noCollision
  cases action with
  | enqueue origin code message path =>
      cases stepped
      refine facts_enqueue (facts ?_) keeps noCollision
      simp only [enqueue] at noCollision
      split at noCollision
      · exact noCollision.mono
      · split at noCollision <;> exact noCollision
  | post isFinal content =>
      cases stepped
      refine facts_post (facts ?_) noCollision
      simp only [post] at noCollision
      split at noCollision
      · exact noCollision.mono
      · exact noCollision
  | deliver index faults executionId updatedAt =>
      obtain ⟨report, sent, rfl⟩ := Option.map_eq_some_iff.mp stepped
      exact facts_deliver (facts noCollision) (List.mem_of_getElem? sent) faults executionId updatedAt
  | answer index =>
      obtain ⟨batchId, answered, rfl⟩ := Option.map_eq_some_iff.mp stepped
      exact facts_answer (facts noCollision) (List.mem_of_getElem? answered)
  | save =>
      cases stepped
      exact facts_save (facts noCollision)
  | crash roundId attemptId now =>
      simp only [step] at stepped
      split at stepped
      · cases stepped
      · next unused =>
          obtain ⟨process, launched, rfl⟩ := Option.map_eq_some_iff.mp stepped
          exact facts_crash (facts noCollision) keeps unused launched
  | environment tasks executions =>
      cases stepped
      have known := facts noCollision
      exact facts_same known ⟨rfl, rfl, rfl⟩ known.custody.acks

/-- The receiver holds no diagnostics of the task. -/
structure Unseen (tables : Tables) (taskId : Text) : Prop where
  events : tables.events taskId = fun _ => none
  batches : tables.batches taskId = fun _ => none
  omitted : tables.omitted taskId = none

theorem facts_start {process : CallbackState} {tables : Tables} {roundId attemptId : Text} {now : Nat}
    (launched : CallbackState.launch none config.jobId config.round roundId attemptId now = some process)
    (unseen : Unseen tables config.taskId) : (start process tables).Facts config := by
  obtain ⟨round, attempt, ⟨-, outbox⟩ | ⟨copy, impossible, -⟩⟩ := CallbackState.launch_cases launched nofun
  · refine ⟨⟨?_, round, nofun, ?_, ?_, ?_, ?_, .nil, .nil⟩,
      ⟨?_, nofun, ?_, ?_, ?_, ?_, ?_, ?_, ?_, ?_, ?_⟩, ⟨?_, ?_, nofun⟩⟩
    · rw [start, outbox]
      rfl
    · rw [start, outbox, attempt]
      exact List.mem_cons_self
    · exact fun _ member => absurd member List.not_mem_nil
    · exact fun _ member => absurd member List.not_mem_nil
    · exact fun _ member => absurd member List.not_mem_nil
    · rw [start, outbox]
      exact .new _ _ _ _
    · exact fun _ member => absurd member List.not_mem_nil
    · exact fun _ member => absurd member List.not_mem_nil
    · exact fun _ member => absurd member List.not_mem_nil
    · exact fun _ member => absurd member List.not_mem_nil
    · intro batchId batch found
      rw [start, unseen.batches] at found
      cases found
    · intro eventId event found
      rw [start, unseen.events] at found
      cases found
    · exact fun _ member => absurd member List.not_mem_nil
    · exact fun _ member => absurd member List.not_mem_nil
    · exact fun _ member => absurd member List.not_mem_nil
    · rw [start, outbox]
      exact Nat.le_refl _
    · rw [start, unseen.omitted]
      exact Nat.zero_le _
  · cases impossible

/-- Exactly-once delivery, read off one state of the system. -/
structure ExactlyOnce (config : DeliveryConfig) (delivery : Delivery) : Prop where
  covered : ∀ event ∈ delivery.savedLive, event ∈ delivery.live
  neverLost : ∀ event ∈ delivery.live,
    Stored delivery.tables config.taskId event ∨ event ∈ delivery.process.outbox.pending
  distinct : (delivery.enqueued.map DiagnosticEvent.eventId).Nodup
  stored : ∀ eventId event, delivery.tables.events config.taskId eventId = some event →
    event ∈ delivery.enqueued ∧ event.eventId = eventId
  omitted : (delivery.tables.omitted config.taskId).getD 0 ≤ delivery.rejected

theorem Facts.exactlyOnce (facts : delivery.Facts config) : delivery.ExactlyOnce config where
  covered := facts.custody.covered
  neverLost := facts.custody.live
  distinct := facts.minted.distinctEvents
  stored := fun _ _ found => facts.custody.events found
  omitted := by
    have within := carried_mono (@List.filter_sublist _ (fun batch : DiagnosticBatch =>
      (delivery.tables.batches config.taskId batch.batchId).isSome) delivery.prepared)
    exact (facts.accounted.total.trans within).trans
      ((Nat.le_add_right _ _).trans facts.accounted.conserved)

/-- While its steps keep the condition, every run delivers diagnostics exactly once. -/
theorem diagnostics_exactly_once {process : CallbackState} {tables : Tables} {roundId attemptId : Text}
    {now : Nat} {actions : List Action} {final : Delivery}
    (launched : CallbackState.launch none config.jobId config.round roundId attemptId now = some process)
    (unseen : Unseen tables config.taskId)
    (along : (machine config).Along Keeps (start process tables) actions)
    (run : (machine config).exec (start process tables) actions = some final)
    (noCollision : NoCollision config.digest final.minted) : final.ExactlyOnce config := by
  have facts := @Lib.Machine.exec_invariant_along _ _ (machine config)
    (fun delivery => NoCollision config.digest delivery.minted → delivery.Facts config) Keeps
    (fun known keeps stepped => facts_step known keeps stepped) _ _ _ (fun _ => facts_start launched unseen)
    along run
  exact (facts noCollision).exactlyOnce

/-! A digest for concrete runs: the number at the end of a text behind a code of the rest. -/

def trailingNumber (text : Text) : Nat :=
  Nat.ofDigitChars 10 (text.reverse.takeWhile Char.isDigit).reverse 0

def leadingCode (text : Text) : Nat :=
  (text.reverse.dropWhile Char.isDigit).foldl (fun code character => code * 128 + character.toNat) 0 % 10 ^ 40

def sampleNumber (text : Text) : Nat := leadingCode text * 10 ^ 20 + trailingNumber text % 10 ^ 20

def sampleDigest (text : Text) : Text :=
  List.replicate (64 - (Nat.toDigits 10 (sampleNumber text)).length) '0' ++ Nat.toDigits 10 (sampleNumber text)

theorem sampleDigest_value (text : Text) : Nat.ofDigitChars 10 (sampleDigest text) 0 = sampleNumber text := by
  rw [sampleDigest, Nat.ofDigitChars_append, Nat.ofDigitChars_replicate_zero, Nat.mul_zero,
    Nat.ofDigitChars_ten_toDigits]

theorem sampleDigest_digits (text : Text) : ∀ character ∈ sampleDigest text, character.isDigit = true := by
  intro character member
  rcases List.mem_append.mp member with zero | digit
  · rw [List.eq_of_mem_replicate zero]
    rfl
  · exact Nat.isDigit_of_mem_toDigits (by decide) (by decide) digit

theorem sampleDigest_length (text : Text) : (sampleDigest text).length = 64 := by
  have code : leadingCode text < 10 ^ 40 := Nat.mod_lt _ (by decide)
  have number : trailingNumber text % 10 ^ 20 < 10 ^ 20 := Nat.mod_lt _ (by decide)
  have short : (Nat.toDigits 10 (sampleNumber text)).length ≤ 64 := by
    rw [Nat.length_toDigits_le_iff (by decide) (by decide), sampleNumber]
    omega
  rw [sampleDigest, List.length_append, List.length_replicate, Nat.sub_add_cancel short]

theorem digit_utf8Size {character : Char} (digit : character.isDigit = true) : character.utf8Size = 1 := by
  have below : character.val ≤ 0x7f := by
    simp only [Char.isDigit, Bool.and_eq_true, decide_eq_true_eq] at digit
    exact UInt32.le_trans digit.2 (by decide)
  rw [Char.utf8Size]
  exact if_pos below

theorem digits_byteLength {text : Text} (digits : ∀ character ∈ text, character.isDigit = true) :
    text.byteLength = text.length := by
  have sizes : text.map Char.utf8Size = text.map fun _ => 1 :=
    List.map_congr_left fun character member => digit_utf8Size (digits character member)
  rw [Text.byteLength, sizes]
  simp only [List.map_const', List.sum_replicate_nat, Nat.mul_one]

theorem sampleDigest_isDigest (text : Text) : (sampleDigest text).isDigest = true := by
  have digits := sampleDigest_digits text
  rw [Text.isDigest, digits_byteLength digits, sampleDigest_length]
  simp only [decide_true, Bool.true_and, List.all_eq_true, Bool.or_eq_true]
  intro character member
  exact .inl (.inl (digits character member))

theorem sampleDigest_validId (text : Text) : validId (sampleDigest text) = true := by
  have digits := sampleDigest_digits text
  have nonempty : sampleDigest text ≠ [] := by
    intro empty
    have length := sampleDigest_length text
    rw [empty] at length
    cases length
  rw [validId, digits_byteLength digits, sampleDigest_length]
  simp only [ne_eq, nonempty, not_false_eq_true, decide_true, Bool.true_and, List.all_eq_true, Bool.or_eq_true,
    Nat.reduceLeDiff]
  intro character member
  refine .inl ?_
  rw [Char.isAlphanum, digits character member, Bool.or_true]

/-- Behind the separator an identifier text ends in its number. -/
theorem sampleNumber_identifierText (roundId attemptId : Text) (kind : IdentifierKind) (sequence : Nat) :
    sampleNumber (DiagnosticOutbox.identifierText roundId attemptId kind sequence) =
      leadingCode (DiagnosticOutbox.identifierText roundId attemptId kind 0) * 10 ^ 20 + sequence % 10 ^ 20 := by
  have digits (number : Nat) : ∀ character ∈ (Nat.toDigits 10 number).reverse, character.isDigit = true := by
    intro character member
    exact Nat.isDigit_of_mem_toDigits (by decide) (by decide) (List.mem_reverse.mp member)
  have split (front : Text) (number : Nat) :
      (front ++ ':' :: (toString number).toList).reverse = (Nat.toDigits 10 number).reverse ++ ':' :: front.reverse := by
    rw [Nat.toString_eq_repr, Nat.toList_repr, List.reverse_append, List.reverse_cons, List.append_assoc,
      List.singleton_append]
  simp only [sampleNumber, leadingCode, trailingNumber, DiagnosticOutbox.identifierText, split]
  rw [List.takeWhile_append_of_pos (digits sequence), List.dropWhile_append_of_pos (digits sequence),
    List.dropWhile_append_of_pos (digits 0), List.takeWhile_cons_of_neg (by decide), List.append_nil,
    List.reverse_reverse, Nat.ofDigitChars_ten_toDigits, List.dropWhile_cons_of_neg (by decide)]

/-! A run with two attempts of one round. The queue is full when an event is omitted. -/

def sampleConfig : DeliveryConfig where
  digest := sampleDigest
  jobId := ['s']
  round := 1000000
  taskId := ['t']

def sampleTables : Tables where
  tasks := fun id => if id = ['t'] then some .running else none
  executions := { rows := [], keyed := .nil }
  progress := fun _ => none
  cursor := fun _ => none
  events := fun _ _ => none
  batches := fun _ _ => none
  omitted := fun _ => none

def sampleProcess : CallbackState where
  identity := ⟨sampleConfig.roundId, ['a'], 1, 1, 0⟩
  outbox := .new sampleConfig.roundId ['a'] 512 64

def sampleEnqueue : Action := .enqueue ['o'] ['c'] ['m'] none

/-- One event is delivered and acknowledged; a restored process enqueues the next. -/
def sampleActions : List Action :=
  [sampleEnqueue, .post false [], .deliver 0 (fun _ => false) none 0, .answer 0, .save, .crash ['v'] ['b'] 2,
    sampleEnqueue]

theorem sampleActions_enabled :
    ((machine sampleConfig).exec (start sampleProcess sampleTables) sampleActions).isSome = true := by decide +kernel

theorem diagnostics_exactly_once_sample : ExactlyOnce sampleConfig
    (((machine sampleConfig).exec (start sampleProcess sampleTables) sampleActions).get sampleActions_enabled) :=
  @diagnostics_exactly_once sampleConfig sampleProcess sampleTables ['u'] ['a'] 1 sampleActions _ rfl ⟨rfl, rfl, rfl⟩
    (by decide +kernel) (Option.some_get sampleActions_enabled).symm (by unfold NoCollision; decide +kernel)

def sampleText (index : Nat) : Text :=
  DiagnosticOutbox.identifierText sampleConfig.roundId ['a'] .event (index + 1)

def sampleEvent (index : Nat) : DiagnosticEvent where
  eventId := sampleDigest (sampleText index)
  roundId := sampleConfig.roundId
  attemptId := ['a']
  origin := ['o']
  code := ['c']
  message := ['m']
  path := none

def sampleEvents (count : Nat) : List DiagnosticEvent := (List.range count).map sampleEvent

/-- The process after some events have been kept. -/
def queued (events : List DiagnosticEvent) (texts : List Text) (count : Nat) : Delivery :=
  { start sampleProcess sampleTables with
    process := { sampleProcess with outbox := { sampleProcess.outbox with
      revision := count
      nextEvent := count
      pending := events } }
    live := events
    enqueued := events
    minted := texts }

def filled (count : Nat) : Delivery := queued (sampleEvents count) ((List.range count).map sampleText) count

theorem sampleEvents_succ (count : Nat) : sampleEvents (count + 1) = sampleEvents count ++ [sampleEvent count] := by
  rw [sampleEvents, List.range_succ, List.map_append, List.map_singleton]
  rfl

theorem sampleEvents_length (count : Nat) : (sampleEvents count).length = count := by
  rw [sampleEvents, List.length_map, List.length_range]

theorem sampleEvent_sanitize (index : Nat) : (sampleEvent index).sanitize = sampleEvent index := by
  have label : safeDiagnosticLabel ['o'] = ['o'] ∧ safeDiagnosticLabel ['c'] = ['c'] ∧
      safeDiagnosticText ['m'] = ['m'] := by decide
  simp only [DiagnosticEvent.sanitize, sampleEvent, label, Option.map_none]

theorem sampleEvent_inj {first second : Nat} (firstSmall : first < 512) (secondSmall : second < 512)
    (same : (sampleEvent first).eventId = (sampleEvent second).eventId) : first = second := by
  have values := congrArg (fun digits => Nat.ofDigitChars 10 digits 0) same
  simp only [sampleEvent, sampleDigest_value, sampleText, sampleNumber_identifierText] at values
  omega

theorem filled_step {count : Nat} (room : count < 512) :
    (filled count).step sampleConfig sampleEnqueue = some (filled (count + 1)) := by
  have label : safeDiagnosticLabel ['o'] = ['o'] ∧ safeDiagnosticLabel ['c'] = ['c'] ∧
      safeDiagnosticText ['m'] = ['m'] := by decide
  have running : ¬(filled count).process.outbox.revision = u64Max := by
    intro exhausted
    rw [show count = u64Max from exhausted] at room
    exact absurd room (by decide)
  have kept : (filled count).process.outbox.event sampleDigest ['o'] ['c'] ['m'] none = sampleEvent count := by
    simp only [DiagnosticOutbox.event, label, Option.map_none]
    rfl
  have enqueued : (filled count).process.outbox.enqueue sampleDigest ['o'] ['c'] ['m'] none =
      (true, (filled (count + 1)).process.outbox) := by
    have open_ : ¬((filled count).process.outbox.capacity ≤ (filled count).process.outbox.pending.length ∨
        (filled count).process.outbox.nextEvent = u64Max) := by
      have length : (filled count).process.outbox.pending.length = count := sampleEvents_length count
      rw [length, not_or]
      exact ⟨Nat.not_le.mpr room, running⟩
    simp only [DiagnosticOutbox.enqueue, kept, if_neg running, if_neg open_]
    simp only [filled, queued, sampleEvents_succ]
  simp only [step, sampleEnqueue, enqueue]
  rw [show sampleConfig.digest = sampleDigest from rfl, enqueued, kept]
  simp only [if_true, filled, queued, sampleEvents_succ, List.range_succ, List.map_append, List.map_singleton]
  rfl

theorem exec_filled {count : Nat} (room : count ≤ 512) :
    (machine sampleConfig).exec (filled 0) (List.replicate count sampleEnqueue) = some (filled count) := by
  induction count with
  | zero => rfl
  | succ count ih =>
      rw [List.replicate_succ', Lib.Machine.exec_append, ih (Nat.le_of_succ_le room), Option.bind_some]
      have stepped := filled_step room
      simp only [Lib.Machine.exec, machine, stepped, Option.bind_some]

/-- A full queue of sample events. -/
structure SampleQueue (events : List DiagnosticEvent) : Prop where
  length : events.length = 512
  drawn : ∀ event ∈ events, ∃ index, index < 512 ∧ event = sampleEvent index

theorem sampleQueue : SampleQueue (sampleEvents 512) where
  length := sampleEvents_length 512
  drawn := by
    intro event member
    obtain ⟨index, within, rfl⟩ := List.mem_map.mp member
    exact ⟨index, List.mem_range.mp within, rfl⟩

variable {events : List DiagnosticEvent} {texts : List Text}

def overflowingOutbox (events : List DiagnosticEvent) : DiagnosticOutbox :=
  { sampleProcess.outbox with
    revision := 513
    nextEvent := 512
    omittedCount := 1
    pending := events }

/-- One event more finds the queue full. -/
def overflowing (events : List DiagnosticEvent) (texts : List Text) : Delivery :=
  { queued events texts 512 with
    process := { sampleProcess with outbox := overflowingOutbox events }
    rejected := 1 }

theorem queued_overflows (queue : SampleQueue events) :
    (queued events texts 512).step sampleConfig sampleEnqueue = some (overflowing events texts) := by
  have running : ¬(queued events texts 512).process.outbox.revision = u64Max :=
    show ¬512 = u64Max by decide
  have full : (queued events texts 512).process.outbox.capacity ≤
        (queued events texts 512).process.outbox.pending.length ∨
      (queued events texts 512).process.outbox.nextEvent = u64Max := .inl (Nat.le_of_eq queue.length.symm)
  have refused : (queued events texts 512).process.outbox.isFull = true := by
    rw [DiagnosticOutbox.isFull, show (queued events texts 512).process.outbox.pending.length = 512 from queue.length]
    rfl
  have enqueued : (queued events texts 512).process.outbox.enqueue sampleDigest ['o'] ['c'] ['m'] none =
      (false, overflowingOutbox events) := by
    simp only [DiagnosticOutbox.enqueue, if_neg running, if_pos full]
    rfl
  simp only [step, sampleEnqueue, enqueue]
  rw [show sampleConfig.digest = sampleDigest from rfl, enqueued, refused]
  rfl

def sampleBatch (events : List DiagnosticEvent) (attemptId : Text) : DiagnosticBatch where
  batchId := sampleDigest (DiagnosticOutbox.identifierText sampleConfig.roundId attemptId .batch 1)
  events := events.take 64
  omittedCount := 1

def sampleIdentity (attemptId : Text) (now sequence : Nat) : CallbackIdentity :=
  ⟨sampleConfig.roundId, attemptId, 1, now, sequence⟩

def sampleReport (events : List DiagnosticEvent) (attemptId : Text) (now : Nat) : ProgressReport where
  callbackIdentity := some (sampleIdentity attemptId now 1)
  diagnostics := some (sampleBatch events attemptId)
  isFinal := false
  content := []

/-- The process at the checkpoint, or an attempt that continues it. -/
def sampleCopy (events : List DiagnosticEvent) (attemptId : Text) (now : Nat) : CallbackState where
  identity := sampleIdentity attemptId now 0
  outbox := (overflowingOutbox events).setAttempt attemptId

/-- It has put its first batch in flight. -/
def sampleCallback (events : List DiagnosticEvent) (attemptId : Text) (now : Nat) : CallbackState where
  identity := sampleIdentity attemptId now 1
  outbox := { overflowingOutbox events with
    attemptId
    revision := 514
    nextBatch := 1
    inFlight := some (sampleBatch events attemptId) }

theorem sampleCopy_prepares (attemptId : Text) (now : Nat) :
    CallbackState.prepare sampleDigest (sampleCopy events attemptId now) =
      (some (sampleBatch events attemptId), sampleCallback events attemptId now) := by
  have ready : ¬((events = [] ∧ (overflowingOutbox events).omittedCount = 0) ∨
      (overflowingOutbox events).nextBatch = u64Max ∨ (overflowingOutbox events).revision = u64Max) := by
    rintro (⟨-, counted⟩ | batch | revision)
    · exact absurd counted Nat.one_ne_zero
    · exact absurd batch (show ¬0 = u64Max by decide)
    · exact absurd revision (show ¬513 = u64Max by decide)
  have prepared : ((overflowingOutbox events).setAttempt attemptId).prepareBatch sampleDigest =
      (some (sampleBatch events attemptId), (sampleCallback events attemptId now).outbox) := by
    simp only [DiagnosticOutbox.prepareBatch, DiagnosticOutbox.setAttempt]
    exact if_neg ready
  rw [CallbackState.prepare, sampleCopy, prepared]
  rfl

theorem sampleBatch_mem (queue : SampleQueue events) {attemptId : Text} {event : DiagnosticEvent}
    (member : event ∈ (sampleBatch events attemptId).events) : ∃ index, index < 512 ∧ event = sampleEvent index :=
  queue.drawn event (List.mem_of_mem_take member)

theorem sampleBatch_stable (queue : SampleQueue events) (attemptId : Text) :
    sanitizeBatch (sampleBatch events attemptId) = sampleBatch events attemptId := by
  have same : (sampleBatch events attemptId).events.map DiagnosticEvent.sanitize =
      (sampleBatch events attemptId).events := by
    refine (List.map_congr_left fun event member => ?_).trans (List.map_id _)
    obtain ⟨index, -, rfl⟩ := sampleBatch_mem queue member
    exact sampleEvent_sanitize index
  rw [sanitizeBatch, same]

theorem sampleBatch_valid (queue : SampleQueue events) (attemptId : Text) (now : Nat) :
    validateBatch (some (sampleIdentity attemptId now 1)) (sampleBatch events attemptId) = true := by
  have valid : ((sampleBatch events attemptId).events.all fun event =>
      validId event.eventId && validId event.roundId && validId event.attemptId &&
        (some (sampleIdentity attemptId now 1)).any fun identity => identity.roundId = event.roundId) = true := by
    rw [List.all_eq_true]
    intro event member
    obtain ⟨index, -, rfl⟩ := sampleBatch_mem queue member
    simp only [sampleEvent, sampleDigest_validId, Bool.true_and]
    have ids : validId sampleConfig.roundId = true ∧ validId ['a'] = true := by decide
    rw [ids.1, ids.2]
    rfl
  have short : (sampleBatch events attemptId).events.length ≤ maxDiagnosticBatchEvents := List.length_take_le _ _
  rw [validateBatch, valid, show validId (sampleBatch events attemptId).batchId = true from sampleDigest_validId _,
    decide_eq_true short]
  rfl

theorem sampleBatch_among (queue : SampleQueue events) (attemptId : Text) :
    ∀ event ∈ (sampleBatch events attemptId).events, ∀ other ∈ (sampleBatch events attemptId).events,
      event.eventId = other.eventId → event = other := by
  intro event member other listed same
  obtain ⟨first, firstSmall, rfl⟩ := sampleBatch_mem queue member
  obtain ⟨second, secondSmall, rfl⟩ := sampleBatch_mem queue listed
  rw [sampleEvent_inj firstSmall secondSmall same]

/-- A restart from the checkpoint is accepted. -/
theorem sampleCopy_restores (queue : SampleQueue events) :
    CallbackState.launch (some (sampleCopy events ['a'] 1)) ['s'] 1000000 ['v'] ['b'] 2 =
      some (sampleCopy events ['b'] 2) := by
  have bounded : (events.all fun event => event.roundId = sampleConfig.roundId && event.attemptId ≠ [] &&
      event.isBounded) = true := by
    rw [List.all_eq_true]
    intro event member
    obtain ⟨index, -, rfl⟩ := queue.drawn event member
    have bounded : (sampleEvent index).isBounded = true := by
      rw [DiagnosticEvent.isBounded, show (sampleEvent index).eventId.isDigest = true from sampleDigest_isDigest _]
      rfl
    rw [bounded]
    rfl
  have valid : (sampleCopy events ['a'] 1).outbox.validateIdentity (sampleCopy events ['a'] 1).identity.roundId
      (sampleCopy events ['a'] 1).identity.attemptId = true := by
    have pending : (sampleCopy events ['a'] 1).outbox.pending = events := rfl
    have round : (sampleCopy events ['a'] 1).outbox.roundId = sampleConfig.roundId := rfl
    rw [DiagnosticOutbox.validateIdentity, pending, round, bounded, queue.length]
    rfl
  simp only [CallbackState.launch, CallbackState.restoreCheckpoint, valid, if_true]
  rfl

/-- An attempt that continues the checkpoint puts the omission in flight. -/
def posted (delivery : Delivery) (events : List DiagnosticEvent) (attemptId : Text) (now : Nat) :
    Delivery :=
  { delivery with
    process := sampleCallback events attemptId now
    requests := delivery.requests ++ [sampleReport events attemptId now]
    prepared := delivery.prepared ++ [sampleBatch events attemptId]
    minted := delivery.minted ++
      [DiagnosticOutbox.identifierText sampleConfig.roundId attemptId .batch 1] }

theorem step_posted {delivery : Delivery} {attemptId : Text} {now : Nat}
    (process : delivery.process = sampleCopy events attemptId now) :
    delivery.step sampleConfig (.post false []) = some (posted delivery events attemptId now) := by
  have prepared : CallbackState.prepare sampleConfig.digest delivery.process =
      (some (sampleBatch events attemptId), sampleCallback events attemptId now) := by
    rw [process]
    exact sampleCopy_prepares attemptId now
  have landed : delivery.process.outbox.inFlight = none := by
    rw [process]
    rfl
  simp only [step, post, prepared, landed, Option.isSome_some, and_self, if_true]
  rw [process]
  rfl

/-- The checkpoint is taken before its omission is in flight; the batch is then delivered. -/
def beforeCrash (events : List DiagnosticEvent) (texts : List Text) : Delivery :=
  (posted { overflowing events texts with saved := some (sampleCopy events ['a'] 1), savedLive := events }
    events ['a'] 1).deliver sampleConfig (sampleReport events ['a'] 1) (fun _ => false) none 0

/-- The restored process carries the omission in a batch of its own. -/
def afterCrash (events : List DiagnosticEvent) (texts : List Text) : Delivery :=
  (posted { beforeCrash events texts with
      process := sampleCopy events ['b'] 2
      live := events
      attempts := [['a'], ['b']]
      tables := { (beforeCrash events texts).tables with
        tasks := sampleTables.tasks
        executions := sampleTables.executions } }
    events ['b'] 2).deliver sampleConfig (sampleReport events ['b'] 2) (fun _ => false) none 0

def sampleRestart : List Action :=
  [.save, .post false [], .deliver 0 (fun _ => false) none 0, .crash ['v'] ['b'] 2,
    .environment sampleTables.tasks sampleTables.executions, .post false [],
    .deliver 1 (fun _ => false) none 0]

theorem overflowing_restarts (queue : SampleQueue events) :
    (machine sampleConfig).exec (overflowing events texts) sampleRestart = some (afterCrash events texts) := by
  have restored : (machine sampleConfig).step (beforeCrash events texts) (.crash ['v'] ['b'] 2) = some
      { beforeCrash events texts with
        process := sampleCopy events ['b'] 2
        live := events
        attempts := [['a'], ['b']] } := by
    have unused : ['b'] ∉ (beforeCrash events texts).attempts := show ['b'] ∉ [['a']] by decide
    simp only [machine, step, if_neg unused]
    rw [show CallbackState.launch (beforeCrash events texts).saved sampleConfig.jobId sampleConfig.round ['v'] ['b'] 2 =
      some (sampleCopy events ['b'] 2) from sampleCopy_restores queue]
    rfl
  simp only [sampleRestart, Lib.Machine.exec]
  rw [show (machine sampleConfig).step (overflowing events texts) .save = some { overflowing events texts with
      saved := some (sampleCopy events ['a'] 1), savedLive := events } from rfl, Option.bind_some,
    show (machine sampleConfig).step _ (.post false []) = _ from
      @step_posted events { overflowing events texts with
        saved := some (sampleCopy events ['a'] 1), savedLive := events } ['a'] 1 rfl, Option.bind_some,
    show (machine sampleConfig).step _ (.deliver 0 (fun _ => false) none 0) = some (beforeCrash events texts) from rfl,
    Option.bind_some, restored, Option.bind_some,
    show (machine sampleConfig).step _ (.environment sampleTables.tasks sampleTables.executions) = some _ from rfl,
    Option.bind_some, show (machine sampleConfig).step _ (.post false []) = _ from
      @step_posted events _ ['b'] 2 rfl, Option.bind_some]
  rfl

/-- The texts behind the identifiers of the run are told apart. -/
theorem sampleCode_inj : ∀ first ∈ [['a'], ['b']], ∀ kind ∈ [IdentifierKind.event, .batch],
    ∀ second ∈ [['a'], ['b']], ∀ other ∈ [IdentifierKind.event, .batch],
      leadingCode (DiagnosticOutbox.identifierText sampleConfig.roundId first kind 0) =
        leadingCode (DiagnosticOutbox.identifierText sampleConfig.roundId second other 0) →
      first = second ∧ kind = other := by
  decide

theorem sampleDigest_inj {first second : Text} {kind other : IdentifierKind} {sequence number : Nat}
    (firstKnown : first ∈ [['a'], ['b']]) (secondKnown : second ∈ [['a'], ['b']]) (small : sequence < 10 ^ 20)
    (smallToo : number < 10 ^ 20)
    (same : sampleDigest (DiagnosticOutbox.identifierText sampleConfig.roundId first kind sequence) =
      sampleDigest (DiagnosticOutbox.identifierText sampleConfig.roundId second other number)) :
    first = second ∧ kind = other ∧ sequence = number := by
  have every (kind : IdentifierKind) : kind ∈ [IdentifierKind.event, .batch] := by cases kind <;> decide
  have values := congrArg (fun digits => Nat.ofDigitChars 10 digits 0) same
  simp only [sampleDigest_value, sampleNumber_identifierText] at values
  obtain ⟨sameAttempt, sameKind⟩ := sampleCode_inj first firstKnown kind (every kind) second secondKnown other
    (every other) (by omega)
  exact ⟨sameAttempt, sameKind, by omega⟩

/-- A delivered sample batch adds its omission to what the receiver has counted. -/
theorem sample_counts (queue : SampleQueue events) {attemptId : Text} {now : Nat} {tables : Tables} {counted : Nat}
    (running : tables.tasks ['t'] = some .running)
    (valid : validateIdentity (sampleIdentity attemptId now 1) = true)
    (absent : tables.batches ['t'] (sampleBatch events attemptId).batchId = none)
    (known : ∀ {eventId event}, tables.events ['t'] eventId = some event →
      event ∈ (sampleBatch events attemptId).events ∧ event.eventId = eventId)
    (before : (tables.omitted ['t']).getD 0 = counted) (small : counted + 1 ≤ u64Max) :
    ∀ written, (TaskService.updateProgress (fun _ => false) tables ['t'] (sampleReport events attemptId now) none 0).2 =
        written →
      written.omitted ['t'] = some (counted + 1) ∧
      written.batches ['t'] = Function.update (tables.batches ['t']) (sampleBatch events attemptId).batchId
        (some (sampleBatch events attemptId)) ∧
      ∀ {eventId event}, written.events ['t'] eventId = some event →
        event ∈ (sampleBatch events attemptId).events ∧ event.eventId = eventId := by
  have consistent : Consistent (tables.events ['t']) (sampleBatch events attemptId).events := by
    refine ⟨?_, sampleBatch_among queue attemptId⟩
    intro event member existing found
    obtain ⟨listed, named⟩ := known found
    exact sampleBatch_among queue attemptId existing listed event member named
  obtain ⟨stored, stores, same, -⟩ := @TaskService.updateProgress_stores tables ['t']
    (sampleReport events attemptId now) .running _ _ 0 running rfl rfl valid (sampleBatch_valid queue attemptId now)
    (sampleBatch_stable queue attemptId) absent consistent
  rintro written rfl
  cases stores with
  | known existing =>
      rw [absent] at existing
      cases existing
  | fresh _ gathers batches omitted =>
      refine ⟨?_, ?_, ?_⟩
      · rw [same.omitted, omitted, before]
        exact congrArg some (Nat.min_eq_left small)
      · rw [same.batches, batches]
      · intro eventId event found
        rw [same.events] at found
        rcases gathers.only found with earlier | listed
        · exact known earlier
        · exact listed

/-- Both batches are stored, and both count the one omission. -/
theorem afterCrash_omitted (queue : SampleQueue events) :
    (afterCrash events texts).tables.omitted ['t'] = some 2 := by
  obtain ⟨counted, batches, held⟩ := @sample_counts events queue ['a'] 1 sampleTables 0 rfl (by decide) rfl nofun rfl
    (by decide) _ rfl
  have fresh : (sampleBatch events ['b']).batchId ≠ (sampleBatch events ['a']).batchId := by
    intro same
    have attempts := sampleDigest_inj (by decide) (by decide) (by decide) (by decide) same
    exact absurd attempts.1 (by decide)
  exact (@sample_counts events queue ['b'] 2
    { (beforeCrash events texts).tables with
      tasks := sampleTables.tasks
      executions := sampleTables.executions } 1 rfl (by decide)
    ((congrFun batches _).trans (Function.update_of_ne fresh ..)) held (congrArg (Option.getD · 0) counted)
    (by decide) _ rfl).1

theorem afterCrash_twice (queue : SampleQueue events) : ¬(afterCrash events texts).ExactlyOnce sampleConfig := by
  intro once
  have within : ((afterCrash events texts).tables.omitted ['t']).getD 0 ≤ 1 := once.omitted
  rw [afterCrash_omitted queue] at within
  exact absurd within (by decide)

theorem sampleRun_noCollision (queue : ∀ text ∈ texts, ∃ index, index < 512 ∧ text = sampleText index) :
    NoCollision sampleDigest (afterCrash events texts).minted := by
  have named : ∀ text ∈ (afterCrash events texts).minted, ∃ attemptId ∈ [['a'], ['b']], ∃ kind sequence,
      sequence < 10 ^ 20 ∧ text = DiagnosticOutbox.identifierText sampleConfig.roundId attemptId kind sequence := by
    intro text member
    rcases List.mem_append.mp member with earlier | last
    · rcases List.mem_append.mp earlier with event | batch
      · obtain ⟨index, small, rfl⟩ := queue text event
        exact ⟨['a'], by decide, .event, index + 1, by omega, rfl⟩
      · exact ⟨['a'], by decide, .batch, 1, by decide, List.mem_singleton.mp batch⟩
    · exact ⟨['b'], by decide, .batch, 1, by decide, List.mem_singleton.mp last⟩
  intro first member second other same
  obtain ⟨attemptId, known, kind, sequence, small, rfl⟩ := named first member
  obtain ⟨otherId, otherKnown, otherKind, number, otherSmall, rfl⟩ := named second other
  obtain ⟨rfl, rfl, rfl⟩ := sampleDigest_inj known otherKnown small otherSmall same
  rfl

/-- One omitted event is counted twice: the queue overflows, a checkpoint is saved, the
omission is delivered, and the process restored from the checkpoint delivers it again. -/
theorem restored_omission_counts_twice :
    CallbackState.launch none sampleConfig.jobId sampleConfig.round ['u'] ['a'] 1 = some sampleProcess ∧
      Unseen sampleTables sampleConfig.taskId ∧
      ∃ actions final, (machine sampleConfig).exec (start sampleProcess sampleTables) actions = some final ∧
        NoCollision sampleConfig.digest final.minted ∧ ¬final.ExactlyOnce sampleConfig := by
  refine ⟨rfl, ⟨rfl, rfl, rfl⟩, List.replicate 512 sampleEnqueue ++ sampleEnqueue :: sampleRestart,
    afterCrash (sampleEvents 512) ((List.range 512).map sampleText), ?_, ?_, ?_⟩
  · have first : (machine sampleConfig).exec (start sampleProcess sampleTables) (List.replicate 512 sampleEnqueue) =
      some (filled 512) := exec_filled (Nat.le_refl 512)
    rw [Lib.Machine.exec_append, first, Option.bind_some, Lib.Machine.exec,
      show (machine sampleConfig).step (filled 512) sampleEnqueue = _ from queued_overflows sampleQueue,
      Option.bind_some]
    exact overflowing_restarts sampleQueue
  · apply sampleRun_noCollision
    intro text member
    obtain ⟨index, within, rfl⟩ := List.mem_map.mp member
    exact ⟨index, List.mem_range.mp within, rfl⟩
  · exact afterCrash_twice sampleQueue

end Delivery

end Terrasync.Web
