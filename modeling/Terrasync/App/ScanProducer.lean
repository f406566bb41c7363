import Terrasync.App.ScanTallies

/-! The producer keeps the accounts at every wait of its loop, of `send`, of `barrier` and of
`save`. -/

set_option autoImplicit false

namespace Terrasync.App.ScanPipeline

open Lib (Delivery Stage contents SameOrder)
open Scan (ScanResumeState StatisticsCheckpoint)
open Scan.Statistics (EntryKindMethods)

/-! ### Steps of the producer -/

/-- The barriers are where they were, and no new answer is needed. -/
structure ProducerPhase.Follows (before later : ProducerPhase) : Prop where
  told : ∀ announced, before.told announced → later.told announced
  counted : ∀ announced, before.counted announced → later.counted announced
  heard : later.heard → before.heard
  drained : later.drained → before.drained

theorem ProducerPhase.Follows.refl (phase : ProducerPhase) : phase.Follows phase :=
  ⟨fun _ => id, fun _ => id, id, id⟩

section Produce

variable {methods : EntryKindMethods} {origin : Origin} {hash : RelativePath → Nat} {batchSize : Nat}
  {state next : State} {delivered sealed : Entries} {executed : List Cut}

theorem StatisticsLane.relax {statistics : Statistics} {snapshot : Scan.Statistics.ScanSnapshot}
    {phase later : ProducerPhase} {ticket : Nat} {resuming resuming' : Bool} {book book' : Ledger}
    (lane : StatisticsLane statistics phase ticket resuming book delivered) (alive : phase ≠ .failed)
    (counted : ∀ announced, phase.counted announced → later.counted announced)
    (drained : later.drained → phase.drained)
    (complete : snapshot.distributionsComplete = true → statistics.snapshot.distributionsComplete = true)
    (settled : later ≠ .failed → resuming' = false →
      resuming = false ∧ book'.base = book.base ∧ book'.distributions = book.distributions) :
    StatisticsLane { statistics with snapshot } later ticket resuming' book' delivered := by
  obtain ⟨announced, here, stage⟩ := lane.stage
  constructor
  · intro running unresumed full
    obtain ⟨same, base, distributions⟩ := settled running unresumed
    rw [base, distributions]
    exact lane.counted alive same (complete full)
  · exact ⟨announced, counted announced here, stage⟩
  · exact fun reached => lane.drained (drained reached)

/-- A step that sends nothing and hears nothing. -/
theorem Inv.goOn {later : Producer} {port : Port} {statistics : Statistics}
    (inv : Inv methods origin hash state delivered sealed executed)
    (follows : state.producer.phase.Follows later.phase) (ticket : later.ticket = state.producer.ticket)
    (queue : port.queue = state.port.queue) (acknowledged : port.acknowledged = state.port.acknowledged)
    (database : port.database = state.port.database)
    (control : port.control.isSome = true → state.producer.phase.drained ∨ state.port.control.isSome = true)
    (cuts : ∃ rest : List Cut, rest.length ≤ 1 ∧ (ledger methods origin later.consumed).cuts = executed ++ rest)
    (single : port.control.isSome = true → port.reply = none)
    (asked : ∀ command, port.control = some command →
      Asked port.database (ledger methods origin later.consumed) delivered sealed executed command.state
        command.action)
    (lane : StatisticsLane statistics later.phase state.producer.ticket later.resuming
      (ledger methods origin later.consumed) delivered)
    (tallied : Tallied methods origin { state with producer := later, port, statistics })
    (account : later.phase ≠ .failed →
      Account methods origin { state with producer := later, port, statistics } delivered sealed executed) :
    Inv methods origin hash { state with producer := later, port, statistics } delivered sealed executed := by
  constructor
  · dsimp only
    rw [database]
    exact inv.manifests
  · exact cuts
  · exact asked
  · exact single
  · exact account
  · intro running
    dsimp only
    rw [ticket]
    apply (inv.lane running).relax queue acknowledged database follows.told follows.heard
    rintro (reached | asked)
    · exact .inl (follows.drained reached)
    · exact control asked
  · dsimp only
    rw [ticket]
    exact lane
  · exact tallied

/-- A step that does not concern the source or the statistics either. -/
theorem Inv.quiet {later : Producer} {port : Port} (inv : Inv methods origin hash state delivered sealed executed)
    (alive : state.producer.phase ≠ .failed) (follows : state.producer.phase.Follows later.phase)
    (ticket : later.ticket = state.producer.ticket)
    (queue : port.queue = state.port.queue) (acknowledged : port.acknowledged = state.port.acknowledged)
    (database : port.database = state.port.database)
    (control : port.control.isSome = true → state.producer.phase.drained ∨ state.port.control.isSome = true)
    (consumed : later.consumed = state.producer.consumed) (saving : later.saving = state.producer.saving)
    (progress : later.progress = state.producer.progress)
    (stamped : later.phase.stamped = state.producer.phase.stamped)
    (single : port.control.isSome = true → port.reply = none)
    (asked : ∀ command, port.control = some command →
      Asked port.database (ledger methods origin state.producer.consumed) delivered sealed executed command.state
        command.action)
    (account : later.phase ≠ .failed →
      Account methods origin { state with producer := later, port } delivered sealed executed) :
    Inv methods origin hash { state with producer := later, port } delivered sealed executed := by
  refine inv.goOn follows ticket queue acknowledged database control ?_ single ?_ ?_
    (inv.tallied.same alive consumed saving progress stamped rfl) account
  · rw [consumed]
    exact inv.cuts
  · rw [consumed]
    exact asked
  · apply inv.statistics.relax alive follows.counted follows.drained id
    intro _ unresumed
    rw [consumed]
    exact ⟨by rwa [Producer.resuming, saving] at unresumed, rfl, rfl⟩

/-- A producer that waits for nothing has settled its accounts. -/
structure Settled (methods : EntryKindMethods) (origin : Origin) (state : State) (delivered sealed : Entries)
    (executed : List Cut) : Prop where
  phase : state.producer.phase = .ready
  deliver : state.producer.deliver = false
  saving : state.producer.saving = none
  control : state.port.control = none
  reply : state.port.reply = none
  current : (ledger methods origin state.producer.consumed).current = delivered ++ state.producer.pending
  saved : (ledger methods origin state.producer.consumed).saved = sealed
  cuts : (ledger methods origin state.producer.consumed).cuts = executed

theorem Account.quiet (account : Account methods origin state delivered sealed executed)
    (distinct : state.producer.phase ≠ .confirming) :
    state.port.control = none ∧ state.port.reply = none := by
  constructor
  · apply Option.not_isSome_iff_eq_none.1
    exact fun found => distinct (account.confirming.1 (.inl found))
  · apply Option.not_isSome_iff_eq_none.1
    exact fun found => distinct (account.confirming.1 (.inr found))

theorem Account.settled (account : Account methods origin state delivered sealed executed)
    (idle : state.producer.idle = true) : Settled methods origin state delivered sealed executed := by
  simp only [Producer.idle, Bool.and_eq_true, decide_eq_true_eq, Bool.not_eq_true', Option.isNone_iff_eq_none]
    at idle
  obtain ⟨⟨phase, deliver⟩, saving⟩ := idle
  obtain ⟨control, reply⟩ := account.quiet (by rw [phase]; exact ProducerPhase.noConfusion)
  have book := account.book
  rw [State.due, saving, ite_self, Producer.flight, phase] at book
  cases book with
  | settled current saved cuts => exact ⟨phase, deliver, saving, control, reply, current, saved, cuts⟩

/-- A step from one point between two calls to another. -/
theorem Settled.goOn {later : Producer} {statistics : Statistics}
    (settled : Settled methods origin state delivered sealed executed)
    (account : Account methods origin state delivered sealed executed)
    (phase : later.phase = .ready) (same : later.state = state.producer.state)
    (book : Book (ledger methods origin later.consumed) later.pending delivered sealed executed later.saving)
    (unchanged : later.snapshotMatchesFacts = true → later.saving.any SaveCause.resumes = false →
      delivered = sealed ∧ later.pending = [])
    (emptied : later.saving.isSome = true → later.deliver = false → later.pending = []) :
    Account methods origin { state with producer := later, statistics } delivered sealed executed := by
  have due : State.due { state with producer := later, statistics } = later.saving := by
    rw [State.due, settled.reply]
    rfl
  have flight : later.flight = later.pending := by
    rw [Producer.flight, phase]
    rfl
  constructor
  · rw [due, flight]
    exact book
  · rw [due, flight]
    exact unchanged
  · exact fun _ => phase
  · rw [phase]
    exact False.elim
  · exact emptied
  · rw [phase]
    exact fun found => by cases found
  · rw [phase, settled.control, settled.reply]
    simp
  · rw [phase]
    exact fun _ found => by cases found
  · dsimp only
    rw [same]
    exact account.sealing
  · rw [settled.reply]
    exact fun _ found => by cases found

theorem Account.idle_unchanged (account : Account methods origin state delivered sealed executed)
    (settled : Settled methods origin state delivered sealed executed) (facts : state.producer.snapshotMatchesFacts = true) :
    delivered = sealed ∧ state.producer.pending = [] := by
  have known := account.unchanged facts (by rw [State.due, settled.saving, ite_self]; rfl)
  rw [Producer.flight, settled.phase] at known
  exact known

/-- A checkpoint of the source, or its end, asks for what is pending and then for a save. -/
theorem Settled.cut {item : Option ScanItem} {items : List ScanItem}
    (settled : Settled methods origin state delivered sealed executed) (cause : SaveCause)
    (account : Account methods origin state delivered sealed executed) (distinct : cause.resumes = false)
    {scan : Option Scan.Statistics.State}
    (taken : (ledger methods origin state.producer.consumed).take methods item =
      (ledger methods origin state.producer.consumed).cut cause.cursor scan) :
    Account methods origin { state with producer := { state.producer with
      deliver := true, saving := some cause, items, consumed := state.producer.consumed ++ [item] } }
      delivered sealed executed := by
  apply settled.goOn account
  · exact settled.phase
  · rfl
  · rw [ledger_concat, taken]
    exact .cutting cause _ distinct settled.current rfl (by rw [← settled.cuts]; rfl)
  · exact fun facts _ => account.idle_unchanged settled facts
  · exact fun _ waiting => by cases waiting

/-- The next call: the producer starts to send what is pending, or to announce the barrier. -/
theorem Account.call {later : Producer} (account : Account methods origin state delivered sealed executed)
    (called : state.producer.call = some later) :
    Account methods origin { state with producer := later } delivered sealed executed ∧
      state.producer.phase.Follows later.phase ∧ later.ticket = state.producer.ticket ∧
        later.consumed = state.producer.consumed ∧ later.saving = state.producer.saving ∧
          later.progress = state.producer.progress ∧
            later.phase.stamped = state.producer.phase.stamped := by
  unfold Producer.call at called
  split at called
  · cases called
  · rename_i phase
    have ready : state.producer.phase = .ready := not_not.1 phase
    obtain ⟨control, reply⟩ := account.quiet (by rw [ready]; exact ProducerPhase.noConfusion)
    have quiet {phase : ProducerPhase} (distinct : phase ≠ .confirming) :
        state.port.control.isSome = true ∨ state.port.reply.isSome = true ↔ phase = .confirming := by
      rw [control, reply]
      simp [distinct]
    have unreplied {goal : ScanResumeState → Prop} : ∀ saved, state.port.reply = some saved → goal saved := by
      rw [reply]
      exact fun _ found => by cases found
    have flight : state.producer.flight = state.producer.pending := by
      rw [Producer.flight, ready]
      rfl
    have book := account.book
    have unchanged := account.unchanged
    rw [flight] at book unchanged
    split at called
    · rename_i deliver
      split at called
      · rename_i nothing
        cases called
        refine ⟨?_, ?_, rfl, rfl, rfl, rfl, rfl⟩
        · constructor
          · exact account.book
          · exact account.unchanged
          · exact fun found => by cases found
          · exact account.saving
          · exact fun _ _ => List.isEmpty_iff.1 nothing
          · exact account.finished
          · exact account.confirming
          · exact account.submitting
          · exact account.sealing
          · exact account.replied
        · exact .refl _
      · cases called
        have moved (producer : Producer) (phase : producer.phase = .reserving 0 state.producer.pending)
            (pending : producer.pending = []) : producer.flight = state.producer.pending := by
          rw [Producer.flight, phase, pending, List.append_nil]
          rfl
        refine ⟨?_, ?_, rfl, rfl, rfl, rfl, by rw [ready]; rfl⟩
        · constructor
          · rw [moved _ rfl rfl]
            exact book
          · rw [moved _ rfl rfl]
            exact unchanged
          · exact fun found => by cases found
          · exact False.elim
          · exact fun _ _ => rfl
          · exact fun found => by cases found
          · exact quiet ProducerPhase.noConfusion
          · exact fun _ found => by cases found
          · exact account.sealing
          · exact unreplied
        · rw [ready]
          exact ⟨fun _ => id, fun _ => id, id, id⟩
    · rename_i idle
      obtain ⟨cause, saving, rfl⟩ := Option.map_eq_some_iff.1 called
      refine ⟨?_, ?_, rfl, rfl, rfl, rfl, by rw [ready]; rfl⟩
      · constructor
        · exact book
        · exact unchanged
        · exact fun found => absurd found idle
        · exact fun _ => by dsimp only; rw [saving]; rfl
        · exact account.emptied
        · exact fun found => by cases found
        · exact quiet ProducerPhase.noConfusion
        · exact fun _ found => by cases found
        · exact account.sealing
        · exact unreplied
      · rw [ready]
        exact ⟨fun _ => id, fun _ => id, id, id⟩

/-- Inside `send` or `barrier`. -/
def ProducerPhase.inside : ProducerPhase → Prop
  | .reserving _ _ | .announcing _ | .awaiting _ | .stamping => True
  | _ => False

/-- A step inside a call; the accounts do not look at the channels. -/
theorem Account.inside {later : ProducerPhase} {ticket : Nat} {port : Port} {statistics : Statistics}
    (account : Account methods origin state delivered sealed executed) (before : state.producer.phase.inside)
    (after : later.inside) (chunk : later.chunk = state.producer.phase.chunk)
    (saving : later.saving → state.producer.phase.saving) (control : port.control = state.port.control)
    (reply : port.reply = state.port.reply) (database : port.database = state.port.database) :
    Account methods origin { state with producer := { state.producer with phase := later, ticket }, port, statistics }
      delivered sealed executed := by
  have out {phase : ProducerPhase} (there : ¬phase.inside) : state.producer.phase ≠ phase ∧ later ≠ phase :=
    ⟨fun found => there (found ▸ before), fun found => there (found ▸ after)⟩
  have flight : (Producer.flight { state.producer with phase := later, ticket }) = state.producer.flight := by
    rw [Producer.flight, chunk]
    rfl
  have due : State.due { state with producer := { state.producer with phase := later, ticket }, port, statistics } =
      state.due := by
    rw [State.due, reply]
    rfl
  constructor
  · rw [due, flight]
    exact account.book
  · rw [due, flight]
    exact account.unchanged
  · exact fun deliver => absurd (account.delivering deliver) (out id).1
  · exact fun reached => account.saving (saving reached)
  · exact account.emptied
  · exact fun found => absurd found (out id).2
  · dsimp only
    rw [control, reply, account.confirming]
    exact ⟨fun found => absurd found (out id).1, fun found => absurd found (out id).2⟩
  · exact fun action found => absurd found (out id).2
  · dsimp only
    rw [reply, database]
    exact account.sealing
  · rw [reply, database, flight]
    exact account.replied

/-- A call that has no chunk in hand has sent everything. -/
theorem Account.emptyHanded (account : Account methods origin state delivered sealed executed)
    (saving : state.producer.phase.saving) (chunk : state.producer.phase.chunk = []) :
    state.producer.flight = [] := by
  have asking := account.saving saving
  have waiting : state.producer.deliver = false := by
    cases deliver : state.producer.deliver with
    | false => rfl
    | true =>
        rw [account.delivering deliver] at saving
        exact saving.elim
  rw [Producer.flight, chunk, account.emptied asking waiting]
  rfl

/-- What the producer is about to save is what the source had delivered. -/
theorem Account.stamp {cause : SaveCause} {statistics : Statistics} {after : ScanResumeState} {action : SaveAction}
    (account : Account methods origin state delivered sealed executed) (stamping : state.producer.phase = .stamping)
    (saving : state.producer.saving = some cause)
    (records : cause.resumes = false → ∀ cuts cut,
      (ledger methods origin state.producer.consumed).cuts = cuts ++ [cut] → Records after cut.counted)
    (stamped : state.producer.stamp methods state.statistics cause = some (after, action)) :
    Account methods origin { state with
      producer := { state.producer with state := after, phase := .submitting action }, statistics }
      delivered sealed executed := by
  obtain ⟨control, reply⟩ := account.quiet (by rw [stamping]; exact ProducerPhase.noConfusion)
  have nothing := account.emptyHanded (by rw [stamping]; trivial) (by rw [stamping]; rfl)
  have due : state.due = some cause := by rw [State.due, reply, saving]; rfl
  have book := account.book
  have unchanged := account.unchanged
  have sealing := account.sealing reply
  rw [due, nothing] at book unchanged
  have kept (same : after.checkpointSnapshot = state.producer.state.checkpointSnapshot) :
      Seals state.port.database after sealed := by
    rw [Seals, same]
    exact sealing
  -- a snapshot is taken unless the last one still shows the tables
  have choose (distinct : cause.resumes = false) (seals : Seals state.port.database after sealed)
      (named : ∀ counted, Records after counted → Stamped after ⟨cause.cursor, delivered, counted⟩) :
      Asked state.port.database (ledger methods origin state.producer.consumed) delivered sealed executed after
        (if state.producer.snapshotMatchesFacts then .manifestOnly else .capture) := by
    cases book with
    | restoring => cases distinct
    | cutting _ counted _ current saved grown =>
        rw [List.append_nil] at current
        rw [current] at grown
        have stamps := named counted (records distinct _ _ grown)
        split
        · rename_i facts
          have same := (unchanged facts (by simpa using distinct)).1
          exact .manifestOnly _ grown stamps rfl same seals
        · exact .capture _ grown stamps rfl
  have asked : Asked state.port.database (ledger methods origin state.producer.consumed) delivered sealed executed
      after action ∧ Seals state.port.database after sealed := by
    cases cause with
    | resumed =>
        cases stamped
        cases book with
        | restoring _ flight current saved cuts => exact ⟨.restore cuts sealing, sealing⟩
        | cutting _ _ distinct => cases distinct
    | checkpoint cursor =>
        obtain ⟨counts, -, made⟩ := Option.bind_eq_some_iff.1 stamped
        obtain ⟨later, advanced, same⟩ := Option.map_eq_some_iff.1 made
        have moved := ScanResumeState.advance_eq advanced
        cases same
        have seals := kept (by rw [moved])
        exact ⟨choose rfl seals fun _ kept => ⟨by rw [moved]; rfl, kept⟩, seals⟩
    | final =>
        simp only [Producer.stamp] at stamped
        split at stamped
        · cases stamped
        · obtain ⟨later, advanced, same⟩ := Option.map_eq_some_iff.1 stamped
          have moved := ScanResumeState.advance_eq advanced
          cases same
          have seals := kept (by rw [moved])
          exact ⟨choose rfl seals fun _ kept => ⟨by rw [moved]; rfl, kept⟩, seals⟩
  have flight : Producer.flight { state.producer with state := after, phase := .submitting action } =
      state.producer.flight := by
    rw [Producer.flight, Producer.flight, stamping]
    rfl
  constructor
  · rw [flight]
    exact account.book
  · rw [flight]
    exact account.unchanged
  · intro deliver
    have ready := account.delivering deliver
    rw [stamping] at ready
    cases ready
  · intro _
    dsimp only
    rw [saving]
    rfl
  · exact account.emptied
  · exact fun found => by cases found
  · dsimp only
    rw [control, reply]
    simp
  · intro other found
    cases found
    exact asked.1
  · exact fun _ => asked.2
  · dsimp only
    rw [reply]
    exact fun _ found => by cases found

/-- The producer sends its command. -/
theorem Account.submit {action : SaveAction} (account : Account methods origin state delivered sealed executed)
    (submitting : state.producer.phase = .submitting action) :
    Account methods origin { state with
      producer := { state.producer with phase := .confirming }
      port := { state.port with control := some ⟨state.producer.state, action⟩, reply := none } }
        delivered sealed executed := by
  obtain ⟨-, reply⟩ := account.quiet (by rw [submitting]; exact ProducerPhase.noConfusion)
  have flight : Producer.flight { state.producer with phase := .confirming } = state.producer.flight := by
    rw [Producer.flight, Producer.flight, submitting]
    rfl
  have book := account.book
  have unchanged := account.unchanged
  rw [State.due, reply] at book unchanged
  constructor
  · rw [flight]
    exact book
  · rw [flight]
    exact unchanged
  · intro deliver
    have ready := account.delivering deliver
    rw [submitting] at ready
    cases ready
  · exact fun _ => account.saving (by rw [submitting]; trivial)
  · exact account.emptied
  · exact fun found => by cases found
  · exact ⟨fun _ => rfl, fun _ => .inl rfl⟩
  · exact fun _ found => by cases found
  · exact fun _ => account.sealing reply
  · exact fun _ found => by cases found

/-- The producer is told that its save was executed. -/
theorem Account.confirm {saved : ScanResumeState} {closed : Bool} {progress : Scan.Statistics.ScanProgress}
    {statistics : Statistics} (account : Account methods origin state delivered sealed executed)
    (confirming : state.producer.phase = .confirming) (control : state.port.control = none)
    (replied : state.port.reply = some saved) :
    Account methods origin { state with
      producer := { state.producer.saved saved with progress }
      port := { state.port with reply := none, closed }
      statistics } delivered sealed executed := by
  obtain ⟨seals, same, nothing⟩ := account.replied saved replied
  have empty : state.producer.pending = [] := by
    rw [Producer.flight] at nothing
    exact (List.append_eq_nil_iff.1 nothing).2
  have flight : Producer.flight { state.producer.saved saved with progress } = [] := by
    rw [Producer.flight, Producer.saved, empty]
    dsimp only
    split <;> rfl
  have book := account.book
  rw [State.due, replied, nothing] at book
  have after : (state.producer.saved saved).phase = .finished ∨ (state.producer.saved saved).phase = .ready := by
    unfold Producer.saved
    dsimp only
    split
    · exact .inl rfl
    · exact .inr rfl
  constructor
  · rw [flight]
    exact book
  · rw [flight]
    exact fun _ _ => ⟨same, rfl⟩
  · intro deliver
    have ready := account.delivering deliver
    rw [confirming] at ready
    cases ready
  · rcases after with phase | phase <;> rw [phase] <;> exact False.elim
  · exact fun found => by cases found
  · exact fun _ => ⟨rfl, empty⟩
  · dsimp only
    rw [control]
    rcases after with phase | phase <;> rw [phase] <;> simp
  · rcases after with phase | phase <;> rw [phase] <;> exact fun _ found => by cases found
  · exact fun _ => seals
  · exact fun _ found => by cases found

/-- Both channels take the chunk. -/
theorem Inv.send {permits : Nat} {chunk : Entries} (inv : Inv methods origin hash state delivered sealed executed)
    (reserving : state.producer.phase = .reserving permits chunk) :
    Inv methods origin hash { state with
      producer := { state.producer with phase := .ready }
      port := { state.port with queue := state.port.queue ++ [.data chunk] }
      statistics := { state.statistics with queue := state.statistics.queue ++ [.data chunk] } }
        (delivered ++ chunk) sealed executed := by
  have alive : state.producer.phase ≠ .failed := by rw [reserving]; exact ProducerPhase.noConfusion
  have account := inv.account alive
  obtain ⟨control, reply⟩ := account.quiet (by rw [reserving]; exact ProducerPhase.noConfusion)
  have flight : state.producer.flight = chunk ++ state.producer.pending := by
    rw [Producer.flight, reserving]
    rfl
  have book := account.book
  have unchanged := account.unchanged
  rw [flight] at book unchanged
  constructor
  · exact inv.manifests
  · exact inv.cuts
  · dsimp only
    rw [control]
    exact fun _ found => by cases found
  · exact fun _ => reply
  · intro _
    constructor
    · dsimp only [State.due]
      rw [State.due] at book
      generalize due : (if state.port.reply.isSome then none else state.producer.saving) = saving at book
      cases book with
      | settled current saved cuts =>
          refine .settled ?_ saved cuts
          rw [current, List.append_assoc]
          rfl
      | restoring checkpoint empty current saved cuts =>
          refine .restoring checkpoint ?_ current saved cuts
          exact (List.append_eq_nil_iff.1 empty).2
      | cutting cause counted distinct current saved cuts =>
          refine .cutting cause counted distinct ?_ saved cuts
          rw [current, List.append_assoc]
          rfl
    · intro facts distinct
      obtain ⟨same, empty⟩ := unchanged facts distinct
      obtain ⟨nothing, left⟩ := List.append_eq_nil_iff.1 empty
      rw [nothing, List.append_nil]
      exact ⟨same, left⟩
    · exact fun _ => rfl
    · exact False.elim
    · exact account.emptied
    · exact fun found => by cases found
    · dsimp only
      rw [control, reply]
      simp
    · exact fun _ found => by cases found
    · exact account.sealing
    · dsimp only
      rw [reply]
      exact fun _ found => by cases found
  · intro running
    have lane := inv.lane running
    obtain ⟨announced, told, stage⟩ := lane.stage
    rw [reserving] at told
    cases told
    constructor
    · exact lane.sound
    · intro here
      dsimp only
      rw [Lib.contents_append, entriesAt_append, entriesAt_append, ← lane.conserved here, Lib.contents_cons,
        Lib.contents_nil, List.append_nil, ← List.append_assoc]
      rfl
    · exact ⟨false, rfl, stage.send chunk _⟩
    · exact False.elim
    · dsimp only
      rw [control]
      rintro (reached | found)
      · exact reached.elim
      · cases found
  · obtain ⟨announced, counted, stage⟩ := inv.statistics.stage
    rw [reserving] at counted
    cases counted
    constructor
    · intro _ unresumed complete
      obtain ⟨fresh, same, known⟩ := inv.statistics.counted alive unresumed complete
      refine ⟨fresh ++ chunk, by rw [same, List.append_assoc], ?_⟩
      dsimp only
      rw [plain_append fresh, ← List.append_assoc, ← known, Lib.contents_append, Lib.contents_cons, Lib.contents_nil,
        List.append_nil, plain_append (contents _), ← List.append_assoc]
      rfl
    · exact ⟨false, rfl, stage.send chunk _⟩
    · exact False.elim
  · exact inv.tallied.same alive rfl rfl rfl (by rw [reserving]; rfl) rfl

/-- The barrier goes behind what was sent to the writer. -/
theorem Inv.announceWriter (inv : Inv methods origin hash state delivered sealed executed)
    (announcing : state.producer.phase = .announcing 0) :
    Inv methods origin hash { state with
      producer := { state.producer with phase := .announcing 1 }
      port := { state.port with queue := state.port.queue ++ [.barrier state.producer.ticket] } }
        delivered sealed executed := by
  have alive : state.producer.phase ≠ .failed := by rw [announcing]; exact ProducerPhase.noConfusion
  have account := inv.account alive
  obtain ⟨control, reply⟩ := account.quiet (by rw [announcing]; exact ProducerPhase.noConfusion)
  constructor
  · exact inv.manifests
  · exact inv.cuts
  · exact inv.asked
  · exact inv.single
  · intro _
    apply account.inside
    · rw [announcing]
      trivial
    · trivial
    · rw [announcing]
      rfl
    · rw [announcing]
      exact id
    · rfl
    · rfl
    · rfl
  · intro running
    have lane := inv.lane running
    obtain ⟨announced, told, stage⟩ := lane.stage
    rw [announcing] at told
    cases told
    constructor
    · exact lane.sound
    · intro here
      dsimp only
      rw [Lib.contents_append, Lib.contents_cons, Lib.contents_nil, List.append_nil, ← lane.conserved here]
      exact congrArg _ (congrArg _ (List.append_nil _))
    · exact ⟨true, rfl, stage.announce _⟩
    · exact False.elim
    · dsimp only
      rw [control]
      rintro (reached | found)
      · exact reached.elim
      · cases found
  · apply inv.statistics.relax alive _ _ id
    · exact fun _ unresumed => ⟨unresumed, rfl, rfl⟩
    · rw [announcing]
      exact fun _ => id
    · exact False.elim
  · exact inv.tallied.same alive rfl rfl rfl (by rw [announcing]; rfl) rfl

/-- The barrier goes behind what was sent to the statistics. -/
theorem Inv.announceStatistics {told : Nat} (inv : Inv methods origin hash state delivered sealed executed)
    (announcing : state.producer.phase = .announcing (told + 1)) :
    Inv methods origin hash { state with
      producer := { state.producer with phase := .awaiting 0 }
      statistics := { state.statistics with
        queue := state.statistics.queue ++ [.barrier state.producer.ticket] } } delivered sealed executed := by
  have alive : state.producer.phase ≠ .failed := by rw [announcing]; exact ProducerPhase.noConfusion
  have account := inv.account alive
  constructor
  · exact inv.manifests
  · exact inv.cuts
  · exact inv.asked
  · exact inv.single
  · intro _
    apply account.inside
    · rw [announcing]
      trivial
    · trivial
    · rw [announcing]
      rfl
    · rw [announcing]
      exact id
    · rfl
    · rfl
    · rfl
  · intro running
    apply (inv.lane running).relax rfl rfl rfl
    · rw [announcing]
      exact fun _ same => same.trans (decide_eq_true (Nat.succ_pos told))
    · exact False.elim
    · rintro (reached | found)
      · exact reached.elim
      · exact .inr found
  · obtain ⟨announced, counted, stage⟩ := inv.statistics.stage
    rw [announcing] at counted
    cases counted
    constructor
    · intro _ unresumed complete
      obtain ⟨fresh, same, known⟩ := inv.statistics.counted alive unresumed complete
      refine ⟨fresh, same, ?_⟩
      dsimp only
      rw [← known, Lib.contents_append, Lib.contents_cons, Lib.contents_nil, List.append_nil]
      exact congrArg (fun left => _ ++ plain left) (List.append_nil _)
    · exact ⟨true, rfl, stage.announce _⟩
    · exact False.elim
  · exact inv.tallied.same alive rfl rfl rfl (by rw [announcing]; rfl) rfl

/-- The writer has answered. -/
theorem Inv.hearWriter (inv : Inv methods origin hash state delivered sealed executed)
    (awaiting : state.producer.phase = .awaiting 0) (answer : state.producer.ticket ∈ state.port.acknowledged) :
    Inv methods origin hash { state with producer := { state.producer with phase := .awaiting 1 } } delivered sealed executed := by
  have alive : state.producer.phase ≠ .failed := by rw [awaiting]; exact ProducerPhase.noConfusion
  have account := inv.account alive
  constructor
  · exact inv.manifests
  · exact inv.cuts
  · exact inv.asked
  · exact inv.single
  · intro _
    apply account.inside
    · rw [awaiting]
      trivial
    · trivial
    · rw [awaiting]
      rfl
    · rw [awaiting]
      exact id
    · rfl
    · rfl
    · rfl
  · intro running
    have lane := inv.lane running
    obtain ⟨announced, told, stage⟩ := lane.stage
    rw [awaiting] at told
    constructor
    · exact lane.sound
    · exact lane.conserved
    · exact ⟨announced, told, stage⟩
    · exact fun _ => answer
    · rintro (reached | found)
      · exact reached.elim
      · exact lane.drained (.inr found)
  · apply inv.statistics.relax alive _ _ id
    · exact fun _ unresumed => ⟨unresumed, rfl, rfl⟩
    · rw [awaiting]
      exact fun _ => id
    · exact False.elim
  · exact inv.tallied.same alive rfl rfl rfl (by rw [awaiting]; rfl) rfl

/-- Both have answered, so both have empty hands. -/
theorem Inv.hearStatistics {heard : Nat} (inv : Inv methods origin hash state delivered sealed executed)
    (awaiting : state.producer.phase = .awaiting (heard + 1))
    (answer : state.producer.ticket ∈ state.statistics.acknowledged) :
    Inv methods origin hash { state with producer := { state.producer with
      phase := .stamping, ticket := state.producer.ticket + 1 } } delivered sealed executed := by
  have alive : state.producer.phase ≠ .failed := by rw [awaiting]; exact ProducerPhase.noConfusion
  have account := inv.account alive
  constructor
  · exact inv.manifests
  · exact inv.cuts
  · exact inv.asked
  · exact inv.single
  · intro _
    apply account.inside
    · rw [awaiting]
      trivial
    · trivial
    · rw [awaiting]
      rfl
    · rw [awaiting]
      exact id
    · rfl
    · rfl
    · rfl
  · intro running
    have lane := inv.lane running
    obtain ⟨announced, told, stage⟩ := lane.stage
    obtain ⟨later, empty, idle, nothing⟩ := stage.heard (lane.heard (by rw [awaiting]; trivial))
      (∀ here, state.writer.heldAt hash here = [])
    constructor
    · exact lane.sound
    · exact lane.conserved
    · exact ⟨false, rfl, later⟩
    · exact False.elim
    · exact fun _ => ⟨empty, idle, nothing⟩
  · obtain ⟨announced, counted, stage⟩ := inv.statistics.stage
    obtain ⟨later, empty, -, nothing⟩ := stage.heard answer (state.statistics.recording = none)
    constructor
    · exact fun _ => inv.statistics.counted alive
    · exact ⟨false, rfl, later⟩
    · exact fun _ => ⟨empty, nothing⟩
  · exact inv.tallied.same alive rfl rfl rfl (by rw [awaiting]; rfl) rfl

theorem Asked.cuts_eq {database : Database} {book later : Ledger} {saved : ScanResumeState} {action : SaveAction}
    (asked : Asked database book delivered sealed executed saved action) (same : later.cuts = book.cuts) :
    Asked database later delivered sealed executed saved action := by
  cases asked with
  | restore cuts seals => exact .restore (same.trans cuts) seals
  | capture cut cuts stamped content => exact .capture cut (same.trans cuts) stamped content
  | manifestOnly cut cuts stamped content unchanged seals =>
      exact .manifestOnly cut (same.trans cuts) stamped content unchanged seals

/-- The producer returns an error; its end of the channels is closed. -/
theorem Inv.stop {later : Producer} {reply : Option ScanResumeState}
    (inv : Inv methods origin hash state delivered sealed executed) (alive : state.producer.phase ≠ .failed)
    (failed : later.phase = .failed) (ticket : later.ticket = state.producer.ticket)
    (cuts : (ledger methods origin later.consumed).cuts = (ledger methods origin state.producer.consumed).cuts)
    (answer : reply = none ∨ reply = state.port.reply) :
    Inv methods origin hash { state with
      producer := later, port := { state.port with closed := true, reply } } delivered sealed executed := by
  refine inv.goOn ?_ ticket rfl rfl rfl .inr ?_ ?_ ?_ ?_ ?_ ?_
  · rw [failed]
    exact ⟨fun _ _ => trivial, fun _ _ => trivial, False.elim, False.elim⟩
  · rw [cuts]
    exact inv.cuts
  · rcases answer with rfl | rfl
    · exact fun _ => rfl
    · exact inv.single
  · exact fun command found => (inv.asked command found).cuts_eq cuts
  · refine inv.statistics.relax alive ?_ ?_ id fun running => absurd failed running
    · rw [failed]
      exact fun _ _ => trivial
    · rw [failed]
      exact False.elim
  · constructor
    · exact fun running => absurd failed running
    · dsimp only
      rw [failed]
      exact fun found => by cases found
  · exact fun running => absurd failed running

/-- A step from one point between two calls to another keeps the rest. -/
theorem Inv.between {later : Producer} {statistics : Statistics}
    (inv : Inv methods origin hash state delivered sealed executed)
    (settled : Settled methods origin state delivered sealed executed) (phase : later.phase = .ready)
    (ticket : later.ticket = state.producer.ticket)
    (cuts : ∃ rest : List Cut, rest.length ≤ 1 ∧ (ledger methods origin later.consumed).cuts = executed ++ rest)
    (lane : StatisticsLane statistics .ready state.producer.ticket later.resuming
      (ledger methods origin later.consumed) delivered)
    (tallied : Tallied methods origin { state with producer := later, statistics })
    (account : Account methods origin { state with producer := later, statistics } delivered sealed executed) :
    Inv methods origin hash { state with producer := later, statistics } delivered sealed executed := by
  apply inv.goOn _ ticket rfl rfl rfl .inr cuts inv.single _ (by rw [phase]; exact lane) tallied fun _ => account
  · rw [phase, settled.phase]
    exact .refl _
  · rw [settled.control]
    exact fun _ found => by cases found

theorem Inv.settled (inv : Inv methods origin hash state delivered sealed executed) (idle : state.producer.idle = true) :
    Settled methods origin state delivered sealed executed ∧
      Account methods origin state delivered sealed executed := by
  have alive : state.producer.phase ≠ .failed := by
    intro failed
    rw [Producer.idle, failed] at idle
    cases idle
  have account := inv.account alive
  exact ⟨account.settled idle, account⟩

theorem Settled.alive (settled : Settled methods origin state delivered sealed executed) :
    state.producer.phase ≠ .failed := by
  rw [settled.phase]
  exact ProducerPhase.noConfusion

/-- Between two calls the statistics go on under any ledger with the same base. -/
theorem Settled.lane {resuming : Bool} {book : Ledger} {snapshot : Scan.Statistics.ScanSnapshot}
    (settled : Settled methods origin state delivered sealed executed)
    (inv : Inv methods origin hash state delivered sealed executed)
    (complete : snapshot.distributionsComplete = true → state.statistics.snapshot.distributionsComplete = true)
    (same : resuming = false → book.base = (ledger methods origin state.producer.consumed).base ∧
      book.distributions = (ledger methods origin state.producer.consumed).distributions) :
    StatisticsLane { state.statistics with snapshot } .ready state.producer.ticket resuming book delivered := by
  apply inv.statistics.relax settled.alive _ _ complete
  · intro _ unresumed
    refine ⟨?_, same unresumed⟩
    rw [Producer.resuming, settled.saving]
    rfl
  · rw [settled.phase]
    exact fun _ => id
  · exact False.elim

theorem Inv.cutting {cause : SaveCause} {items : List ScanItem} {scan : Option Scan.Statistics.State}
    (inv : Inv methods origin hash state delivered sealed executed) (idle : state.producer.idle = true)
    (distinct : cause.resumes = false)
    (taken : (ledger methods origin state.producer.consumed).take methods cause.item =
      (ledger methods origin state.producer.consumed).cut cause.cursor scan) :
    Inv methods origin hash { state with producer := { state.producer with
      deliver := true, saving := some cause, items, consumed := state.producer.consumed ++ [cause.item] } }
      delivered sealed executed := by
  obtain ⟨settled, account⟩ := inv.settled idle
  apply inv.between settled
  · exact settled.phase
  · rfl
  · rw [ledger_concat, taken]
    exact ⟨[_], Nat.le_refl _, by rw [← settled.cuts]; rfl⟩
  · apply settled.lane inv id
    rw [ledger_concat, taken]
    exact fun _ => ⟨rfl, rfl⟩
  · exact inv.tallied.due settled.alive settled.saving rfl rfl rfl (by rw [settled.phase]; rfl)
  · exact settled.cut cause account distinct taken

/-- The scan goes back: what is pending is dropped. -/
theorem Inv.resumed {checkpoint : Option (List UInt8)} {items : List ScanItem}
    (inv : Inv methods origin hash state delivered sealed executed) (idle : state.producer.idle = true) :
    Inv methods origin hash { state with producer := { state.producer with
      pending := [], saving := some (.resumed checkpoint), items
      consumed := state.producer.consumed ++ [some (.resumed checkpoint)] } } delivered sealed executed := by
  obtain ⟨settled, account⟩ := inv.settled idle
  apply inv.between settled
  · exact settled.phase
  · rfl
  · rw [ledger_concat]
    exact ⟨[], Nat.zero_le _, by rw [List.append_nil]; exact settled.cuts⟩
  · exact settled.lane inv id fun found => by cases found
  · exact inv.tallied.due settled.alive settled.saving rfl rfl rfl (by rw [settled.phase]; rfl)
  · apply settled.goOn account
    · exact settled.phase
    · rfl
    · rw [ledger_concat]
      exact .restoring checkpoint rfl settled.saved settled.saved settled.cuts
    · exact fun _ distinct => by cases distinct
    · exact fun _ _ => rfl

/-- What the loop makes of an item is what the ledger makes of it. -/
theorem Inv.item {item : ScanItem} {rest : List ScanItem}
    (inv : Inv methods origin hash state delivered sealed executed) (idle : state.producer.idle = true) :
    Inv methods origin hash (state.takeItem methods item rest) delivered sealed executed := by
  obtain ⟨settled, account⟩ := inv.settled idle
  obtain ⟨saved, scan⟩ := inv.tallied.settled settled.alive settled.saving
  have same : ∃ rest : List Cut, rest.length ≤ 1 ∧
      (ledger methods origin state.producer.consumed).cuts = executed ++ rest :=
    ⟨[], Nat.zero_le _, by rw [List.append_nil]; exact settled.cuts⟩
  cases item with
  | resumed checkpoint => exact inv.resumed idle
  | checkpoint cursor => exact inv.cutting idle rfl rfl
  | entry entry =>
      apply inv.between settled
      · exact settled.phase
      · rfl
      · dsimp only
        rw [ledger_concat]
        exact same
      · apply settled.lane inv id
        dsimp only
        rw [ledger_concat]
        exact fun _ => ⟨rfl, rfl⟩
      · have grown : (ledger methods origin (state.producer.consumed ++ [some (.entry entry)])).scan =
            some ⟨state.producer.progress, state.statistics.snapshot, saved⟩ := by
          rw [ledger_concat]
          exact scan
        exact .of_settled settled.saving grown
      · apply settled.goOn account
        · exact settled.phase
        · rfl
        · dsimp only
          rw [ledger_concat, settled.saving]
          refine .settled ?_ settled.saved settled.cuts
          rw [Ledger.take, settled.current, List.append_assoc]
        · exact fun facts => by cases facts
        · dsimp only
          rw [settled.saving]
          exact fun found => by cases found
  | statistics value =>
      unfold State.takeItem
      dsimp only
      split
      · rename_i counted pushed
        obtain ⟨framed, complete⟩ := push_frame saved pushed
        apply inv.between settled
        · exact settled.phase
        · rfl
        · dsimp only
          rw [ledger_concat]
          exact same
        · apply settled.lane inv (by rw [complete]; exact id)
          dsimp only
          rw [ledger_concat]
          exact fun _ => ⟨rfl, rfl⟩
        · have grown : (ledger methods origin (state.producer.consumed ++ [some (.statistics value)])).scan =
              some ⟨counted.progress, counted.snapshot, saved⟩ := by
            rw [ledger_concat, Ledger.take]
            dsimp only
            rw [scan]
            exact framed
          exact .of_settled settled.saving grown
        · apply settled.goOn account
          · exact settled.phase
          · rfl
          · dsimp only
            rw [ledger_concat, settled.saving]
            exact .settled settled.current settled.saved settled.cuts
          · exact fun facts _ => account.idle_unchanged settled facts
          · dsimp only
            rw [settled.saving]
            exact fun found => by cases found
      · refine inv.stop settled.alive rfl rfl ?_ (.inr rfl)
        dsimp only
        rw [ledger_concat]
        rfl

/-- The command is made up, or the save is refused. -/
theorem Inv.stamp {cause : SaveCause} (inv : Inv methods origin hash state delivered sealed executed)
    (stamping : state.producer.phase = .stamping) (saving : state.producer.saving = some cause) :
    Inv methods origin hash (state.stamp methods cause) delivered sealed executed := by
  have alive : state.producer.phase ≠ .failed := by rw [stamping]; exact ProducerPhase.noConfusion
  unfold State.stamp
  split
  · rename_i stamped made
    refine inv.goOn ?_ rfl rfl rfl rfl .inr inv.cuts inv.single inv.asked ?_
      (inv.tallied.stamp stamping saving made) ?_
    · rw [stamping]
      exact ⟨fun _ => id, fun _ => id, id, id⟩
    · refine inv.statistics.relax alive ?_ ?_ ?_ fun _ unresumed => ⟨unresumed, rfl, rfl⟩
      · rw [stamping]
        exact fun _ => id
      · rw [stamping]
        exact id
      · split <;> exact id
    · intro _
      refine (inv.account alive).stamp stamping saving ?_ made
      exact fun distinct _ _ grown => inv.tallied.records stamping saving distinct made grown
  · exact inv.stop alive rfl rfl rfl (.inr rfl)

/-- Behind a scan that went back the distributions are empty and nothing new is delivered. -/
theorem Inv.backLane {checkpoint : Option (List UInt8)} {saved : ScanResumeState}
    {snapshot : Scan.Statistics.ScanSnapshot} (inv : Inv methods origin hash state delivered sealed executed)
    (confirming : state.producer.phase = .confirming) (saving : state.producer.saving = some (.resumed checkpoint))
    (replied : state.port.reply = some saved) :
    StatisticsLane { state.statistics with snapshot, recorded := [] } (state.producer.saved saved).phase
      state.producer.ticket false (ledger methods origin state.producer.consumed) delivered := by
  have alive : state.producer.phase ≠ .failed := by rw [confirming]; exact ProducerPhase.noConfusion
  have account := inv.account alive
  obtain ⟨before, -, -, consumed, -⟩ := inv.tallied.scan alive
  obtain ⟨announced, counted, stage⟩ := inv.statistics.stage
  obtain ⟨empty, idle⟩ := inv.statistics.drained (by rw [confirming]; trivial)
  have ready : (state.producer.saved saved).phase = .ready := by
    rw [Producer.saved, saving]
    rfl
  rw [saving] at consumed
  have consumed : state.producer.consumed = before ++ [some (.resumed checkpoint)] := consumed
  have book := account.book
  rw [State.due, replied] at book
  rw [confirming] at counted
  obtain ⟨-, same, -⟩ := account.replied saved replied
  rw [ready]
  constructor
  · intro _ _ _
    refine ⟨[], ?_, ?_⟩
    · cases book with
      | settled _ kept _ =>
          rw [same, ← kept, consumed, ledger_concat, List.append_nil]
          rfl
    · dsimp only
      rw [empty, idle, consumed, ledger_concat]
      rfl
  · exact ⟨announced, counted, stage⟩
  · exact False.elim

/-- The producer is told that its save was executed. -/
theorem Inv.confirm {saved : ScanResumeState} (inv : Inv methods origin hash state delivered sealed executed)
    (confirming : state.producer.phase = .confirming) (replied : state.port.reply = some saved) :
    Inv methods origin hash (state.confirm methods saved) delivered sealed executed := by
  have alive : state.producer.phase ≠ .failed := by rw [confirming]; exact ProducerPhase.noConfusion
  have account := inv.account alive
  have control : state.port.control = none := by
    apply Option.not_isSome_iff_eq_none.1
    intro found
    rw [inv.single found] at replied
    cases replied
  have asked (command : SaveState) (found : state.port.control = some command) : False := by
    rw [control] at found
    cases found
  have follows : state.producer.phase.Follows (state.producer.saved saved).phase := by
    rw [confirming]
    unfold Producer.saved
    dsimp only
    split
    · exact ⟨fun _ => id, fun _ => id, id, fun _ => trivial⟩
    · exact ⟨fun _ => id, fun _ => id, id, False.elim⟩
  have lane (unresumed : state.producer.resuming = false) : StatisticsLane state.statistics
      (state.producer.saved saved).phase state.producer.ticket false
      (ledger methods origin state.producer.consumed) delivered :=
    inv.statistics.relax alive follows.counted follows.drained id fun _ _ => ⟨unresumed, rfl, rfl⟩
  unfold State.confirm
  dsimp only
  obtain ⟨cause, saving⟩ := Option.isSome_iff_exists.1 (account.saving (by rw [confirming]; trivial))
  rw [saving]
  cases cause with
  | checkpoint cursor =>
      obtain ⟨counted, scan⟩ := inv.tallied.confirm confirming saving rfl
      refine inv.goOn follows rfl rfl rfl rfl .inr inv.cuts (fun _ => rfl) (fun _ found => (asked _ found).elim)
        (lane ?_) (.of_settled rfl scan) fun _ => account.confirm confirming control replied
      rw [Producer.resuming, saving]
      rfl
  | final =>
      obtain ⟨counted, scan⟩ := inv.tallied.confirm confirming saving rfl
      refine inv.goOn follows rfl rfl rfl rfl .inr inv.cuts (fun _ => rfl) (fun _ found => (asked _ found).elim)
        (lane ?_) (.of_settled rfl scan) fun _ => account.confirm confirming control replied
      rw [Producer.resuming, saving]
      rfl
  | resumed checkpoint =>
      dsimp only
      split
      · rename_i counted back
        obtain ⟨kept, scan⟩ := inv.tallied.back confirming saving back
        exact inv.goOn follows rfl rfl rfl rfl .inr inv.cuts (fun _ => rfl) (fun _ found => (asked _ found).elim)
          (inv.backLane confirming saving replied) (.of_settled rfl scan) fun _ =>
            account.confirm confirming control replied
      · exact inv.stop alive rfl rfl rfl (.inl rfl)

/-- Every step of the producer keeps the accounts. -/
theorem Inv.produce {action : Action} (inv : Inv methods origin hash state delivered sealed executed)
    (stepped : produce batchSize methods state action = some next) :
    ∃ delivered', Inv methods origin hash next delivered' sealed executed := by
  cases action with
  | receive batch =>
      simp only [ScanPipeline.produce] at stepped
      split at stepped
      · rename_i free
        cases stepped
        simp only [Producer.atSelect, Bool.and_eq_true] at free
        obtain ⟨settled, account⟩ := inv.settled free.1.1
        refine ⟨delivered, inv.between settled settled.phase rfl inv.cuts (settled.lane inv id fun _ => ⟨rfl, rfl⟩)
          (inv.tallied.same settled.alive rfl rfl rfl rfl rfl) ?_⟩
        apply settled.goOn account
        · exact settled.phase
        · rfl
        · rw [settled.saving]
          exact .settled settled.current settled.saved settled.cuts
        · exact fun facts _ => account.idle_unchanged settled facts
        · exact account.emptied
      · cases stepped
  | sourceEnded =>
      simp only [ScanPipeline.produce] at stepped
      split at stepped
      · rename_i free
        cases stepped
        simp only [Producer.atSelect, Bool.and_eq_true] at free
        exact ⟨delivered, inv.cutting free.1.1 rfl rfl⟩
      · cases stepped
  | tick =>
      simp only [ScanPipeline.produce] at stepped
      split at stepped
      · rename_i free
        cases stepped
        simp only [Producer.atSelect, Bool.and_eq_true] at free
        obtain ⟨settled, account⟩ := inv.settled free.1.1.1
        refine ⟨delivered, inv.between settled settled.phase rfl inv.cuts (settled.lane inv id fun _ => ⟨rfl, rfl⟩)
          (inv.tallied.same settled.alive rfl rfl rfl rfl rfl) ?_⟩
        apply settled.goOn account
        · exact settled.phase
        · rfl
        · rw [settled.saving]
          exact .settled settled.current settled.saved settled.cuts
        · exact fun facts _ => account.idle_unchanged settled facts
        · exact fun _ found => by cases found
      · cases stepped
  | item =>
      simp only [ScanPipeline.produce] at stepped
      split at stepped
      · split at stepped
        · rename_i idle
          cases stepped
          exact ⟨delivered, inv.item idle⟩
        · cases stepped
      · cases stepped
  | call =>
      obtain ⟨later, called, rfl⟩ := Option.map_eq_some_iff.1 stepped
      have alive : state.producer.phase ≠ .failed := by
        intro failed
        rw [Producer.call, failed] at called
        cases called
      obtain ⟨account, follows, ticket, consumed, saving, progress, stamped⟩ := (inv.account alive).call called
      exact ⟨delivered, inv.quiet alive follows ticket rfl rfl rfl .inr consumed saving progress stamped inv.single
        inv.asked fun _ => account⟩
  | reserve =>
      simp only [ScanPipeline.produce] at stepped
      split at stepped
      · rename_i chunk reserving
        split at stepped
        · cases stepped
          have alive : state.producer.phase ≠ .failed := by rw [reserving]; exact ProducerPhase.noConfusion
          refine ⟨delivered, inv.quiet alive ?_ rfl rfl rfl rfl .inr rfl rfl rfl ?_ inv.single inv.asked
            fun _ => ?_⟩
          · rw [reserving]
            exact ⟨fun _ => id, fun _ => id, id, id⟩
          · rw [reserving]
            rfl
          · apply (inv.account alive).inside
            · rw [reserving]
              trivial
            · trivial
            · rw [reserving]
              rfl
            · exact False.elim
            · rfl
            · rfl
            · rfl
        · cases stepped
      · rename_i permits chunk _ reserving
        split at stepped
        · cases stepped
          exact ⟨delivered ++ chunk, inv.send reserving⟩
        · cases stepped
      · cases stepped
  | announce =>
      simp only [ScanPipeline.produce] at stepped
      split at stepped
      · rename_i announcing
        split at stepped
        · cases stepped
          exact ⟨delivered, inv.announceWriter announcing⟩
        · cases stepped
      · rename_i told distinct announcing
        split at stepped
        · cases stepped
          cases told with
          | zero => exact absurd rfl distinct
          | succ told => exact ⟨delivered, inv.announceStatistics announcing⟩
        · cases stepped
      · cases stepped
  | hear =>
      simp only [ScanPipeline.produce] at stepped
      split at stepped
      · rename_i awaiting
        split at stepped
        · rename_i answer
          cases stepped
          simp only [Bool.and_eq_true, decide_eq_true_eq] at answer
          exact ⟨delivered, inv.hearWriter awaiting answer.2⟩
        · cases stepped
      · rename_i heard distinct awaiting
        split at stepped
        · rename_i answer
          cases stepped
          simp only [Bool.and_eq_true, decide_eq_true_eq] at answer
          cases heard with
          | zero => exact absurd rfl distinct
          | succ heard => exact ⟨delivered, inv.hearStatistics awaiting answer.2⟩
        · cases stepped
      · cases stepped
  | stamp =>
      simp only [ScanPipeline.produce] at stepped
      split at stepped
      · rename_i cause stamping saving
        cases stepped
        exact ⟨delivered, inv.stamp stamping saving⟩
      · cases stepped
  | submit =>
      simp only [ScanPipeline.produce] at stepped
      split at stepped
      · rename_i action submitting
        split at stepped
        · cases stepped
          have alive : state.producer.phase ≠ .failed := by rw [submitting]; exact ProducerPhase.noConfusion
          refine ⟨delivered, inv.quiet alive ?_ rfl rfl rfl rfl ?_ rfl rfl rfl ?_ (fun _ => rfl) ?_ fun _ =>
            (inv.account alive).submit submitting⟩
          · rw [submitting]
            exact ⟨fun _ => id, fun _ => id, id, id⟩
          · rw [submitting]
            exact fun _ => .inl trivial
          · rw [submitting]
            rfl
          · intro command found
            cases found
            exact (inv.account alive).submitting action submitting
        · cases stepped
      · cases stepped
  | confirm =>
      simp only [ScanPipeline.produce] at stepped
      split at stepped
      · rename_i saved confirming replied
        split at stepped
        · cases stepped
        · cases stepped
          exact ⟨delivered, inv.confirm confirming replied⟩
      · cases stepped
  | abort =>
      simp only [ScanPipeline.produce] at stepped
      split at stepped
      · cases stepped
      · rename_i running
        cases stepped
        have alive : state.producer.phase ≠ .failed := by
          intro failed
          simp [Producer.ended, failed] at running
        exact ⟨delivered, inv.stop alive rfl rfl rfl (.inr rfl)⟩
  | cancel => cases stepped
  | count => cases stepped
  | record => cases stepped
  | writer _ => cases stepped

end Produce

end Terrasync.App.ScanPipeline
