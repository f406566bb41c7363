import Terrasync.App.ScanPipelineProperties
import Terrasync.Scan.ScanRecovery

/-! The saves of the pipeline are the saves of a durable round. The pipeline counts its snapshots
and names no statement; the round of `Scan.Cuts` has the statements, the tokens and the crashes.
Every command that the writer executes is a run of its statements, so a scan that dies goes on
from the cut of its last saved checkpoint. -/

set_option autoImplicit false

namespace Terrasync.App.ScanPipeline

open Lib (SameOrder)
open Scan (ScanResumeState StatisticsCheckpoint RequestFields ScanRequest)
open Scan.Statistics (EntryKindMethods)
open Scan.Cuts (Facts Shows SameRows)

/-! ### The order of the saves -/

/-- The state that was saved last. -/
def acknowledged (initial : ScanResumeState) (database : Database) : ScanResumeState :=
  database.manifests.getLast?.getD { initial with phase := .running, checkpointSnapshot := 0 }

/-- A command for the state that was saved last. -/
inductive Succeeds (last : ScanResumeState) : ScanResumeState → SaveAction → Prop
  | restore : last.phase = .running → Succeeds last last .restore
  | checkpoint {next : ScanResumeState} {action : SaveAction} (cursor : List UInt8) (observedEntries : Nat)
      (statistics : Option StatisticsCheckpoint) : last.phase = .running → action ≠ .restore →
      { last with checkpoint := cursor, observedEntries, statistics }.advance = some next →
      Succeeds last next action
  | final {next : ScanResumeState} {action : SaveAction} (observedEntries : Nat)
      (statistics : Option StatisticsCheckpoint) : last.phase = .running → action ≠ .restore →
      { last with phase := .finalizing, observedEntries, statistics }.advance = some next →
      Succeeds last next action

theorem Succeeds.restore_eq {last next : ScanResumeState} (succeeds : Succeeds last next .restore) : next = last := by
  cases succeeds with
  | restore _ => rfl
  | checkpoint _ _ _ _ distinct => exact absurd rfl distinct
  | final _ _ _ distinct => exact absurd rfl distinct

theorem Succeeds.running {last next : ScanResumeState} {action : SaveAction} (succeeds : Succeeds last next action) :
    last.phase = .running := by
  cases succeeds with
  | restore running => exact running
  | checkpoint _ _ _ running => exact running
  | final _ _ running => exact running

theorem Succeeds.token {last next : ScanResumeState} {action : SaveAction} (succeeds : Succeeds last next action) :
    next.checkpointSnapshot = last.checkpointSnapshot := by
  cases succeeds with
  | restore => rfl
  | checkpoint _ _ _ _ _ advanced => rw [ScanResumeState.advance_eq advanced]
  | final _ _ _ _ advanced => rw [ScanResumeState.advance_eq advanced]

theorem Succeeds.requestKey {last next : ScanResumeState} {action : SaveAction} (succeeds : Succeeds last next action) :
    next.requestKey = last.requestKey := by
  cases succeeds with
  | restore => rfl
  | checkpoint _ _ _ _ _ advanced => rw [ScanResumeState.advance_eq advanced]
  | final _ _ _ _ advanced => rw [ScanResumeState.advance_eq advanced]

/-- Only the last save ends the running phase. -/
structure Follows (initial : ScanResumeState) (state : State) (next : ScanResumeState) (action : SaveAction) :
    Prop where
  succeeds : Succeeds (acknowledged initial state.port.database) next action
  running : state.producer.saving = some .final ∨ next.phase = .running

structure Ordered (initial : ScanResumeState) (state : State) : Prop where
  settled : state.producer.phase.stamped = false → state.producer.phase ≠ .finished → state.producer.phase ≠ .failed →
    state.producer.state = acknowledged initial state.port.database ∧
      (acknowledged initial state.port.database).phase = .running
  submitting : ∀ action, state.producer.phase = .submitting action → Follows initial state state.producer.state action
  asked : ∀ command, state.port.control = some command → Follows initial state command.state command.action
  replied : state.producer.phase = .confirming → ∀ saved, state.port.reply = some saved →
    saved = acknowledged initial state.port.database ∧
      (state.producer.saving = some .final ∨ saved.phase = .running)

section Order

variable {methods : EntryKindMethods} {origin : Origin} {hash : RelativePath → Nat} {batchSize : Nat}
variable {state next : State} {delivered sealed : Entries} {executed : List Cut} {initial : ScanResumeState}

/-- A producer that is not at a save goes on. -/
theorem Ordered.goOn {later : Producer} {port : Port} {statistics : Statistics} (ordered : Ordered initial state)
    (alive : state.producer.phase ≠ .failed) (going : state.producer.phase ≠ .finished)
    (before : state.producer.phase.stamped = false) (after : later.phase.stamped = false)
    (same : later.state = state.producer.state) (control : port.control = none)
    (database : port.database = state.port.database) :
    Ordered initial { state with producer := later, port, statistics } := by
  constructor
  · intro _ _ _
    dsimp only
    rw [same, database]
    exact ordered.settled before going alive
  · intro action found
    dsimp only at found
    rw [found] at after
    cases after
  · dsimp only
    rw [control]
    exact fun _ found => by cases found
  · intro found
    dsimp only at found
    rw [found] at after
    cases after

/-- The producer is gone; a command that it has sent is still there. -/
theorem Ordered.stop {later : Producer} {port : Port} {statistics : Statistics} (ordered : Ordered initial state)
    (failed : later.phase = .failed)
    (control : port.control = none ∨ port.control = state.port.control ∧ later.saving = state.producer.saving)
    (database : port.database = state.port.database) :
    Ordered initial { state with producer := later, port, statistics } := by
  constructor
  · exact fun _ _ alive => absurd failed alive
  · intro action found
    dsimp only at found
    rw [failed] at found
    cases found
  · intro command found
    dsimp only at found
    rcases control with none_ | ⟨same, saving⟩
    · rw [none_] at found
      cases found
    · rw [same] at found
      obtain ⟨succeeds, running⟩ := ordered.asked command found
      refine ⟨?_, ?_⟩
      · dsimp only
        rw [database]
        exact succeeds
      · dsimp only
        rw [saving]
        exact running
  · intro found
    dsimp only at found
    rw [failed] at found
    cases found

/-- What is stamped follows what was saved. -/
theorem Producer.stamp_succeeds {producer : Producer} {statistics : Statistics} {cause : SaveCause}
    {after : ScanResumeState} {action : SaveAction} (running : producer.state.phase = .running)
    (stamped : producer.stamp methods statistics cause = some (after, action)) :
    Succeeds producer.state after action ∧ (cause = .final ∨ after.phase = .running) := by
  have chosen : (if producer.snapshotMatchesFacts then SaveAction.manifestOnly else SaveAction.capture) ≠ .restore := by
    split <;> exact SaveAction.noConfusion
  cases cause with
  | resumed =>
      cases stamped
      exact ⟨.restore running, .inr running⟩
  | checkpoint cursor =>
      obtain ⟨counts, -, made⟩ := Option.bind_eq_some_iff.1 stamped
      obtain ⟨later, advanced, same⟩ := Option.map_eq_some_iff.1 made
      cases same
      refine ⟨.checkpoint cursor _ _ running chosen advanced, .inr ?_⟩
      rw [ScanResumeState.advance_eq advanced]
      exact running
  | final =>
      simp only [Producer.stamp] at stamped
      split at stamped
      · cases stamped
      · obtain ⟨later, advanced, same⟩ := Option.map_eq_some_iff.1 stamped
        cases same
        exact ⟨.final _ _ running chosen advanced, .inl rfl⟩

/-- A producer that waits for no save goes on. -/
theorem Ordered.unsaved {phase : ProducerPhase} {later : Producer} {port : Port} {statistics : Statistics}
    (inv : Inv methods origin hash state delivered sealed executed) (ordered : Ordered initial state)
    (here : state.producer.phase = phase)
    (before : phase.stamped = false ∧ phase ≠ .finished ∧ phase ≠ .failed) (after : later.phase.stamped = false)
    (same : later.state = state.producer.state) (control : port.control = state.port.control)
    (database : port.database = state.port.database) :
    Ordered initial { state with producer := later, port, statistics } := by
  have alive : state.producer.phase ≠ .failed := by rw [here]; exact before.2.2
  refine ordered.goOn alive (by rw [here]; exact before.2.1) (by rw [here]; exact before.1) after same ?_ database
  rw [control]
  refine ((inv.account alive).quiet ?_).1
  rw [here]
  intro confirming
  rw [confirming] at before
  cases before.1

theorem Ordered.takeItem {item : ScanItem} {rest : List ScanItem}
    (inv : Inv methods origin hash state delivered sealed executed) (ordered : Ordered initial state)
    (idle : state.producer.idle = true) : Ordered initial (state.takeItem methods item rest) := by
  obtain ⟨settled, -⟩ := inv.settled idle
  have before : ProducerPhase.ready.stamped = false ∧ ProducerPhase.ready ≠ .finished ∧
      ProducerPhase.ready ≠ .failed := ⟨rfl, ProducerPhase.noConfusion, ProducerPhase.noConfusion⟩
  have after : state.producer.phase.stamped = false := by rw [settled.phase]; rfl
  cases item with
  | resumed _ => exact ordered.unsaved inv settled.phase before after rfl rfl rfl
  | entry _ => exact ordered.unsaved inv settled.phase before after rfl rfl rfl
  | checkpoint _ => exact ordered.unsaved inv settled.phase before after rfl rfl rfl
  | statistics value =>
      unfold State.takeItem
      dsimp only
      split
      · exact ordered.unsaved inv settled.phase before after rfl rfl rfl
      · exact ordered.stop rfl (.inl settled.control) rfl

theorem Ordered.stamp {cause : SaveCause} (inv : Inv methods origin hash state delivered sealed executed)
    (ordered : Ordered initial state) (stamping : state.producer.phase = .stamping)
    (saving : state.producer.saving = some cause) : Ordered initial (state.stamp methods cause) := by
  have alive : state.producer.phase ≠ .failed := by rw [stamping]; exact ProducerPhase.noConfusion
  have control := ((inv.account alive).quiet (by rw [stamping]; exact ProducerPhase.noConfusion)).1
  unfold State.stamp
  split
  · rename_i stamped made
    obtain ⟨same, running⟩ := ordered.settled (by rw [stamping]; rfl) (by rw [stamping]; exact ProducerPhase.noConfusion)
      alive
    obtain ⟨succeeds, ending⟩ := Producer.stamp_succeeds (by rw [same]; exact running) made
    constructor
    · exact fun found => by cases found
    · intro action found
      cases found
      refine ⟨same ▸ succeeds, ?_⟩
      dsimp only
      rw [saving]
      exact ending.imp_left (congrArg some)
    · dsimp only
      rw [control]
      exact fun _ found => by cases found
    · exact fun found => by cases found
  · exact ordered.stop rfl (.inl control) rfl

theorem Ordered.confirm {saved : ScanResumeState} (inv : Inv methods origin hash state delivered sealed executed)
    (ordered : Ordered initial state) (confirming : state.producer.phase = .confirming)
    (replied : state.port.reply = some saved) : Ordered initial (state.confirm methods saved) := by
  have control : state.port.control = none := by
    apply Option.not_isSome_iff_eq_none.1
    intro found
    rw [inv.single found] at replied
    cases replied
  obtain ⟨same, running⟩ := ordered.replied confirming saved replied
  have after {progress : Scan.Statistics.ScanProgress} {statistics : Statistics} {closed : Bool} :
      Ordered initial { state with
        producer := { state.producer.saved saved with progress }
        port := { state.port with reply := none, closed }
        statistics } := by
    constructor
    · intro _ going _
      refine ⟨same, ?_⟩
      rcases running with last | running
      · refine absurd ?_ going
        simp [Producer.saved, last]
      · rw [← same]
        exact running
    · intro action found
      simp only [Producer.saved] at found
      split at found <;> cases found
    · dsimp only
      rw [control]
      exact fun _ found => by cases found
    · intro found
      simp only [Producer.saved] at found
      split at found <;> cases found
  unfold State.confirm
  dsimp only
  split
  · exact after
  · split
    · exact after
    · exact ordered.stop rfl (.inl control) rfl
  · exact after

theorem Ordered.produce {action : Action} (inv : Inv methods origin hash state delivered sealed executed)
    (ordered : Ordered initial state) (stepped : produce batchSize methods state action = some next) :
    Ordered initial next := by
  have selects (idle : state.producer.atSelect = true) : state.producer.phase = .ready := by
    simp only [Producer.atSelect, Bool.and_eq_true] at idle
    exact (inv.settled idle.1).1.phase
  have ready : ProducerPhase.ready.stamped = false ∧ ProducerPhase.ready ≠ .finished ∧
      ProducerPhase.ready ≠ .failed := ⟨rfl, ProducerPhase.noConfusion, ProducerPhase.noConfusion⟩
  have same (phase : state.producer.phase = .ready) : state.producer.phase.stamped = false := by rw [phase]; rfl
  cases action with
  | receive batch =>
      simp only [ScanPipeline.produce] at stepped
      split at stepped
      · rename_i free
        cases stepped
        have phase := selects (Bool.and_eq_true _ _ ▸ free).1
        exact ordered.unsaved inv phase ready (same phase) rfl rfl rfl
      · cases stepped
  | sourceEnded =>
      simp only [ScanPipeline.produce] at stepped
      split at stepped
      · rename_i free
        cases stepped
        have phase := selects (Bool.and_eq_true _ _ ▸ free).1
        exact ordered.unsaved inv phase ready (same phase) rfl rfl rfl
      · cases stepped
  | tick =>
      simp only [ScanPipeline.produce] at stepped
      split at stepped
      · rename_i free
        cases stepped
        simp only [Bool.and_eq_true] at free
        have phase := selects free.1.1
        exact ordered.unsaved inv phase ready (same phase) rfl rfl rfl
      · cases stepped
  | item =>
      simp only [ScanPipeline.produce] at stepped
      split at stepped
      · split at stepped
        · rename_i idle
          cases stepped
          exact ordered.takeItem inv idle
        · cases stepped
      · cases stepped
  | call =>
      obtain ⟨later, called, rfl⟩ := Option.map_eq_some_iff.1 stepped
      unfold Producer.call at called
      split at called
      · cases called
      · rename_i phase
        have phase := not_not.1 phase
        split at called
        · split at called
          · cases called
            exact ordered.unsaved inv phase ready (same phase) rfl rfl rfl
          · cases called
            exact ordered.unsaved inv phase ready rfl rfl rfl rfl
        · obtain ⟨cause, -, rfl⟩ := Option.map_eq_some_iff.1 called
          exact ordered.unsaved inv phase ready rfl rfl rfl rfl
  | reserve =>
      simp only [ScanPipeline.produce] at stepped
      split at stepped
      · rename_i reserving
        split at stepped
        · cases stepped
          exact ordered.unsaved inv reserving ⟨rfl, ProducerPhase.noConfusion, ProducerPhase.noConfusion⟩ rfl rfl rfl rfl
        · cases stepped
      · rename_i reserving
        split at stepped
        · cases stepped
          exact ordered.unsaved inv reserving ⟨rfl, ProducerPhase.noConfusion, ProducerPhase.noConfusion⟩ rfl rfl rfl rfl
        · cases stepped
      · cases stepped
  | announce =>
      simp only [ScanPipeline.produce] at stepped
      split at stepped
      · rename_i announcing
        split at stepped
        · cases stepped
          exact ordered.unsaved inv announcing ⟨rfl, ProducerPhase.noConfusion, ProducerPhase.noConfusion⟩ rfl rfl rfl rfl
        · cases stepped
      · rename_i announcing
        split at stepped
        · cases stepped
          exact ordered.unsaved inv announcing ⟨rfl, ProducerPhase.noConfusion, ProducerPhase.noConfusion⟩ rfl rfl rfl rfl
        · cases stepped
      · cases stepped
  | hear =>
      simp only [ScanPipeline.produce] at stepped
      split at stepped
      · rename_i awaiting
        split at stepped
        · cases stepped
          exact ordered.unsaved inv awaiting ⟨rfl, ProducerPhase.noConfusion, ProducerPhase.noConfusion⟩ rfl rfl rfl rfl
        · cases stepped
      · rename_i awaiting
        split at stepped
        · cases stepped
          exact ordered.unsaved inv awaiting ⟨rfl, ProducerPhase.noConfusion, ProducerPhase.noConfusion⟩ rfl rfl rfl rfl
        · cases stepped
      · cases stepped
  | stamp =>
      simp only [ScanPipeline.produce] at stepped
      split at stepped
      · rename_i cause stamping saving
        cases stepped
        exact ordered.stamp inv stamping saving
      · cases stepped
  | submit =>
      simp only [ScanPipeline.produce] at stepped
      split at stepped
      · rename_i action submitting
        split at stepped
        · cases stepped
          obtain ⟨succeeds, running⟩ := ordered.submitting action submitting
          constructor
          · exact fun found => by cases found
          · exact fun _ found => by cases found
          · intro command found
            cases found
            exact ⟨succeeds, running⟩
          · exact fun _ _ found => by cases found
        · cases stepped
      · cases stepped
  | confirm =>
      simp only [ScanPipeline.produce] at stepped
      split at stepped
      · rename_i saved confirming replied
        split at stepped
        · cases stepped
        · cases stepped
          exact ordered.confirm inv confirming replied
      · cases stepped
  | abort =>
      simp only [ScanPipeline.produce] at stepped
      split at stepped
      · cases stepped
      · cases stepped
        exact ordered.stop rfl (.inr ⟨rfl, rfl⟩) rfl
  | cancel => cases stepped
  | count => cases stepped
  | record => cases stepped
  | writer _ => cases stepped

theorem Ordered.other {statistics : Statistics} {cancelled : Bool} (ordered : Ordered initial state) :
    Ordered initial { state with statistics, port := { state.port with cancelled } } := by
  obtain ⟨settled, submitting, asked, replied⟩ := ordered
  constructor
  · exact settled
  · exact fun action found => ⟨(submitting action found).succeeds, (submitting action found).running⟩
  · exact fun command found => ⟨(asked command found).succeeds, (asked command found).running⟩
  · exact replied

theorem Ordered.writes {writer : Writer} {port : Port} (ordered : Ordered initial state)
    (same : Writer.SameSaves state.port port) : Ordered initial { state with writer, port } := by
  have acknowledges : acknowledged initial port.database = acknowledged initial state.port.database := by
    rw [acknowledged, acknowledged, same.manifests]
  have kept {next : ScanResumeState} {action : SaveAction} (follows : Follows initial state next action) :
      Follows initial { state with writer, port } next action := by
    refine ⟨?_, follows.running⟩
    dsimp only
    rw [acknowledges]
    exact follows.succeeds
  constructor
  · dsimp only
    rw [acknowledges]
    exact ordered.settled
  · exact fun action found => kept (ordered.submitting action found)
  · intro command found
    exact kept (ordered.asked command (same.control.symm.trans found))
  · intro confirming saved found
    dsimp only
    rw [acknowledges]
    exact ordered.replied confirming saved (same.reply.symm.trans found)

theorem ordered_start (template resume : Bool) : Ordered initial (start template resume initial) := by
  constructor
  · exact fun _ _ _ => ⟨rfl, rfl⟩
  · exact fun _ found => by cases found
  · exact fun _ found => by cases found
  · exact fun found => by cases found

/-- The writer executes the command that waits, and answers with the state that is saved now. -/
theorem Ordered.execute {command : SaveState} {database : Database} {reply : ScanResumeState}
    (inv : Inv methods origin hash state delivered sealed executed) (ordered : Ordered initial state)
    (asked : state.port.control = some command)
    (ran : command.execute state.port.database = some (database, reply)) :
    reply = acknowledged initial database ∧
      Ordered initial { state with port := { state.port with control := none, database, reply := some reply } } := by
  obtain ⟨succeeds, running⟩ := ordered.asked command asked
  have unreplied := inv.single (by rw [asked]; rfl)
  have confirming (alive : state.producer.phase ≠ .failed) : state.producer.phase = .confirming :=
    (inv.account alive).confirming.1 (.inl (by rw [asked]; rfl))
  obtain ⟨same, phase⟩ : reply = acknowledged initial database ∧ reply.phase = command.state.phase := by
    unfold SaveState.execute at ran
    cases action : command.action with
    | restore =>
        rw [action] at ran succeeds
        obtain ⟨written, -, same⟩ := Option.map_eq_some_iff.1 ran
        cases same
        exact ⟨succeeds.restore_eq, rfl⟩
    | capture =>
        rw [action] at ran
        cases ran
        exact ⟨by simp [acknowledged], rfl⟩
    | manifestOnly =>
        rw [action] at ran
        cases ran
        exact ⟨by simp [acknowledged], rfl⟩
  refine ⟨same, ?_, ?_, ?_, ?_⟩
  · intro plain_ _ alive
    dsimp only at plain_
    rw [confirming alive] at plain_
    cases plain_
  · intro action submitting
    dsimp only at submitting
    have here := confirming (by rw [submitting]; exact ProducerPhase.noConfusion)
    rw [submitting] at here
    cases here
  · exact fun _ found => by cases found
  · intro _ saved found
    cases found
    refine ⟨same, ?_⟩
    rw [phase]
    exact running

/-- Without a snapshot that shows the tables a new one is taken. -/
theorem Producer.stamp_captures {producer : Producer} {statistics : Statistics} {cause : SaveCause}
    {stamped : ScanResumeState × SaveAction} (made : producer.stamp methods statistics cause = some stamped)
    (facts : producer.snapshotMatchesFacts = false) : stamped.2 ≠ .manifestOnly := by
  cases cause with
  | resumed =>
      cases made
      exact SaveAction.noConfusion
  | checkpoint cursor =>
      obtain ⟨counts, -, made⟩ := Option.bind_eq_some_iff.1 made
      obtain ⟨later, -, rfl⟩ := Option.map_eq_some_iff.1 made
      simp [facts]
  | final =>
      simp only [Producer.stamp] at made
      split at made
      · cases made
      · obtain ⟨later, -, rfl⟩ := Option.map_eq_some_iff.1 made
        simp [facts]

end Order

/-! ### One scan, two machines -/

/-- The same state but for the name of its snapshot. -/
def Alike (saved current : ScanResumeState) : Prop :=
  { saved with checkpointSnapshot := current.checkpointSnapshot } = current

/-- Nothing was saved so far, nor the tables set back. -/
structure Untouched (state : State) : Prop where
  facts : state.producer.snapshotMatchesFacts = false
  reply : state.port.reply = none
  submitting : state.producer.phase ≠ .submitting .manifestOnly
  control : ∀ command, state.port.control = some command → command.action ≠ .manifestOnly

section Mirror

variable {Entry Event : Type}

/-- The round shows what the pipeline wrote: `tables` makes the rows and the events of the batches,
`sealed` are the batches in the last snapshot and `more` those behind it. -/
structure Mirrors (tables : List Entries → Facts Entry Event) (initial : ScanResumeState)
    (earlier : List ScanResumeState) (state : State) (round : Scan.Cuts.State Entry Event)
    (current : ScanResumeState) (matching : Bool) (sealed more : List Entries) : Prop where
  manifests : ∃ saved, round.store.manifests = earlier ++ saved ∧
    List.Forall₂ Alike state.port.database.manifests saved
  session : round.session = .round current matching
  alike : Alike (acknowledged initial state.port.database) current
  sealing : state.port.database.snapshots[(acknowledged initial state.port.database).checkpointSnapshot]? = some sealed
  written : state.port.database.written = sealed ++ more
  full : ∀ batch ∈ more, batch ≠ []
  confirmed : SameRows round.ledger.confirmed (tables sealed)
  working : (acknowledged initial state.port.database).phase = .running →
    SameRows round.store.working (tables state.port.database.written)
  unmatched : matching = false → Untouched state ∨ more ≠ []
  unsaved : state.port.database.manifests = [] → sealed = []
  requestKey : (acknowledged initial state.port.database).requestKey = initial.requestKey

variable {tables : List Entries → Facts Entry Event} {initial : ScanResumeState} {earlier : List ScanResumeState}
variable {digest : RequestFields → List Char}

theorem Alike.advance {saved current next : ScanResumeState} (alike : Alike saved current)
    (advanced : saved.advance = some next) : ∃ following, current.advance = some following ∧ Alike next following ∧
      following.checkpointSnapshot = current.checkpointSnapshot := by
  have version : current.version = saved.version := by rw [← alike]
  refine ⟨{ current with version := current.version + 1 }, ?_, ?_, rfl⟩
  · unfold ScanResumeState.advance at advanced ⊢
    split at advanced
    · rename_i room
      rw [version, if_pos room]
    · cases advanced
  · rw [ScanResumeState.advance_eq advanced, Alike, ← alike]

theorem Succeeds.alike {last next current : ScanResumeState} {action : SaveAction} (succeeds : Succeeds last next action)
    (alike : Alike last current) : ∃ following, Succeeds current following action ∧ Alike next following ∧
      following.checkpointSnapshot = current.checkpointSnapshot := by
  have phase : current.phase = last.phase := by rw [← alike]
  cases succeeds with
  | restore running => exact ⟨current, .restore (phase.trans running), alike, rfl⟩
  | checkpoint cursor observedEntries statistics running distinct advanced =>
      have alike' : Alike { last with checkpoint := cursor, observedEntries, statistics }
          { current with checkpoint := cursor, observedEntries, statistics } := by rw [Alike, ← alike]
      obtain ⟨following, goes, same, token⟩ := alike'.advance advanced
      exact ⟨following, .checkpoint cursor observedEntries statistics (phase.trans running) distinct goes, same, token⟩
  | final observedEntries statistics running distinct advanced =>
      have alike' : Alike { last with phase := .finalizing, observedEntries, statistics }
          { current with phase := .finalizing, observedEntries, statistics } := by rw [Alike, ← alike]
      obtain ⟨following, goes, same, token⟩ := alike'.advance advanced
      exact ⟨following, .final observedEntries statistics (phase.trans running) distinct goes, same, token⟩

/-- The round asks for the same save. -/
theorem Succeeds.seals (digest : RequestFields → List Char) {round : Scan.Cuts.State Entry Event} {current next : ScanResumeState} {action : SaveAction}
    {matching : Bool} (succeeds : Succeeds current next action) (distinct : action ≠ .restore)
    (session : round.session = .round current matching) :
    next.active = true ∧ ∃ asks, (Scan.Cuts.machine digest).exec round [asks] =
      some (round.sealState next matching (.round true)) := by
  cases succeeds with
  | restore => exact absurd rfl distinct
  | checkpoint cursor observedEntries statistics running _ advanced =>
      refine ⟨?_, .checkpoint cursor observedEntries statistics, ?_⟩
      · rw [ScanResumeState.advance_eq advanced, ScanResumeState.active_iff]
        exact .inl running
      · simp only [Lib.Machine.exec, Scan.Cuts.machine, Scan.Cuts.State.step, session]
        rw [if_pos running, advanced]
        rfl
  | final observedEntries statistics running _ advanced =>
      refine ⟨?_, .sourceEnd observedEntries statistics, ?_⟩
      · rw [ScanResumeState.advance_eq advanced, ScanResumeState.active_iff]
        exact .inr rfl
      · simp only [Lib.Machine.exec, Scan.Cuts.machine, Scan.Cuts.State.step, session]
        rw [if_pos running, advanced]
        rfl

/-! ### Steps -/

theorem produce_untouched {methods : EntryKindMethods} {batchSize : Nat} {state next : State} {action : Action}
    (stepped : produce batchSize methods state action = some next) :
    next.port.database = state.port.database ∧ (Untouched state → Untouched next) := by
  have same {producer : Producer} {port : Port} {statistics : Statistics}
      (facts : producer.snapshotMatchesFacts = true → state.producer.snapshotMatchesFacts = true)
      (submitting : producer.phase = .submitting .manifestOnly → state.producer.phase = .submitting .manifestOnly)
      (reply : port.reply = none ∨ port.reply = state.port.reply) (control : port.control = state.port.control) :
      Untouched state → Untouched { state with producer, port, statistics } := by
    intro before
    refine ⟨?_, ?_, fun found => before.submitting (submitting found), ?_⟩
    · apply Bool.eq_false_of_not_eq_true
      intro found
      have := facts found
      rw [before.facts] at this
      cases this
    · rcases reply with none_ | kept
      · exact none_
      · exact kept.trans before.reply
    · dsimp only
      rw [control]
      exact before.control
  cases action with
  | receive batch =>
      simp only [ScanPipeline.produce] at stepped
      split at stepped
      · cases stepped
        exact ⟨rfl, same id id (.inr rfl) rfl⟩
      · cases stepped
  | sourceEnded =>
      simp only [ScanPipeline.produce] at stepped
      split at stepped
      · cases stepped
        exact ⟨rfl, same id id (.inr rfl) rfl⟩
      · cases stepped
  | tick =>
      simp only [ScanPipeline.produce] at stepped
      split at stepped
      · cases stepped
        exact ⟨rfl, same id id (.inr rfl) rfl⟩
      · cases stepped
  | item =>
      simp only [ScanPipeline.produce] at stepped
      split at stepped
      · rename_i item rest _
        split at stepped
        · cases stepped
          cases item with
          | resumed _ => exact ⟨rfl, same id id (.inr rfl) rfl⟩
          | entry _ => exact ⟨rfl, same (fun found => by cases found) id (.inr rfl) rfl⟩
          | checkpoint _ => exact ⟨rfl, same id id (.inr rfl) rfl⟩
          | statistics value =>
              unfold State.takeItem
              dsimp only
              split
              · exact ⟨rfl, same id id (.inr rfl) rfl⟩
              · exact ⟨rfl, same id (fun found => by cases found) (.inr rfl) rfl⟩
        · cases stepped
      · cases stepped
  | call =>
      obtain ⟨later, called, rfl⟩ := Option.map_eq_some_iff.1 stepped
      unfold Producer.call at called
      split at called
      · cases called
      · split at called
        · split at called
          · cases called
            exact ⟨rfl, same id id (.inr rfl) rfl⟩
          · cases called
            exact ⟨rfl, same id (fun found => by cases found) (.inr rfl) rfl⟩
        · obtain ⟨cause, -, rfl⟩ := Option.map_eq_some_iff.1 called
          exact ⟨rfl, same id (fun found => by cases found) (.inr rfl) rfl⟩
  | reserve =>
      simp only [ScanPipeline.produce] at stepped
      split at stepped
      · split at stepped
        · cases stepped
          exact ⟨rfl, same id (fun found => by cases found) (.inr rfl) rfl⟩
        · cases stepped
      · split at stepped
        · cases stepped
          exact ⟨rfl, same id (fun found => by cases found) (.inr rfl) rfl⟩
        · cases stepped
      · cases stepped
  | announce =>
      simp only [ScanPipeline.produce] at stepped
      split at stepped
      · split at stepped
        · cases stepped
          exact ⟨rfl, same id (fun found => by cases found) (.inr rfl) rfl⟩
        · cases stepped
      · split at stepped
        · cases stepped
          exact ⟨rfl, same id (fun found => by cases found) (.inr rfl) rfl⟩
        · cases stepped
      · cases stepped
  | hear =>
      simp only [ScanPipeline.produce] at stepped
      split at stepped
      · split at stepped
        · cases stepped
          exact ⟨rfl, same id (fun found => by cases found) (.inr rfl) rfl⟩
        · cases stepped
      · split at stepped
        · cases stepped
          exact ⟨rfl, same id (fun found => by cases found) (.inr rfl) rfl⟩
        · cases stepped
      · cases stepped
  | stamp =>
      simp only [ScanPipeline.produce] at stepped
      split at stepped
      · rename_i cause _ _
        cases stepped
        unfold State.stamp
        split
        · rename_i stamped made
          refine ⟨rfl, fun before => ⟨before.facts, before.reply, ?_, before.control⟩⟩
          intro found
          have manifestOnly : stamped.2 = .manifestOnly := ProducerPhase.submitting.inj found
          exact Producer.stamp_captures made before.facts manifestOnly
        · exact ⟨rfl, same id (fun found => by cases found) (.inr rfl) rfl⟩
      · cases stepped
  | submit =>
      simp only [ScanPipeline.produce] at stepped
      split at stepped
      · rename_i action submitting
        split at stepped
        · cases stepped
          refine ⟨rfl, fun before => ⟨before.facts, rfl, ProducerPhase.noConfusion, ?_⟩⟩
          intro command found
          cases found
          intro manifestOnly
          dsimp only at manifestOnly
          rw [manifestOnly] at submitting
          exact before.submitting submitting
        · cases stepped
      · cases stepped
  | confirm =>
      simp only [ScanPipeline.produce] at stepped
      split at stepped
      · rename_i saved _ replied
        split at stepped
        · cases stepped
        · cases stepped
          refine ⟨?_, fun before => ?_⟩
          · unfold State.confirm
            dsimp only
            split
            · rfl
            · split <;> rfl
            · rfl
          · rw [before.reply] at replied
            cases replied
      · cases stepped
  | abort =>
      simp only [ScanPipeline.produce] at stepped
      split at stepped
      · cases stepped
      · cases stepped
        exact ⟨rfl, same id (fun found => by cases found) (.inr rfl) rfl⟩
  | cancel => cases stepped
  | count => cases stepped
  | record => cases stepped
  | writer _ => cases stepped

variable {methods : EntryKindMethods} {origin : Origin} {hash : RelativePath → Nat} {batchSize : Nat}
variable {state next : State} {round : Scan.Cuts.State Entry Event} {current : ScanResumeState} {matching : Bool}
variable {delivered content : Entries} {executed : List Cut} {sealed more : List Entries}

/-- A step that writes and saves nothing. -/
theorem Mirrors.stays (mirrors : Mirrors tables initial earlier state round current matching sealed more)
    (database : next.port.database = state.port.database) (untouched : Untouched state → Untouched next) :
    Mirrors tables initial earlier next round current matching sealed more := by
  constructor
  · rw [database]
    exact mirrors.manifests
  · exact mirrors.session
  · rw [database]
    exact mirrors.alike
  · rw [database]
    exact mirrors.sealing
  · rw [database]
    exact mirrors.written
  · exact mirrors.full
  · exact mirrors.confirmed
  · rw [database]
    exact mirrors.working
  · exact fun unmatched => (mirrors.unmatched unmatched).imp_left untouched
  · rw [database]
    exact mirrors.unsaved
  · rw [database]
    exact mirrors.requestKey

/-- The round writes what the pipeline writes. -/
theorem Mirrors.writes {writer : Writer} {port : Port}
    (mirrors : Mirrors tables initial earlier state round current matching sealed more)
    (same : Writer.SameSaves state.port port) : ∃ session after matching' more',
      (Scan.Cuts.machine digest).exec round session = some after ∧
        Mirrors tables initial earlier { state with writer, port } after current matching' sealed more' := by
  obtain ⟨control, reply, snapshots, manifests, batches, written, full⟩ := same
  have acknowledges : acknowledged initial port.database = acknowledged initial state.port.database := by
    rw [acknowledged, acknowledged, manifests]
  have untouched (before : Untouched state) : Untouched { state with writer, port } := by
    refine ⟨before.facts, reply.trans before.reply, before.submitting, ?_⟩
    dsimp only
    rw [control]
    exact before.control
  have grown : port.database.written = sealed ++ (more ++ batches) := by
    rw [written, mirrors.written, List.append_assoc]
  have all : ∀ batch ∈ more ++ batches, batch ≠ [] := by
    intro batch member
    rcases List.mem_append.1 member with old | new
    · exact mirrors.full batch old
    · exact full batch new
  by_cases running : (acknowledged initial state.port.database).phase = .running ∧ batches ≠ []
  · obtain ⟨running, changed⟩ := running
    have phase : current.phase = .running := by rw [← mirrors.alike]; exact running
    refine ⟨[.write (tables port.database.written)], { round with
        store := { round.store with working := tables port.database.written }
        session := .round current false }, false, more ++ batches, ?_, ?_⟩
    · simp [Lib.Machine.exec, Scan.Cuts.machine, Scan.Cuts.State.step, mirrors.session, phase]
    · constructor
      · dsimp only
        rw [manifests]
        exact mirrors.manifests
      · rfl
      · dsimp only
        rw [acknowledges]
        exact mirrors.alike
      · dsimp only
        rw [acknowledges, snapshots]
        exact mirrors.sealing
      · exact grown
      · exact all
      · exact mirrors.confirmed
      · exact fun _ => ⟨rfl, rfl⟩
      · exact fun _ => .inr (List.append_ne_nil_of_right_ne_nil _ changed)
      · dsimp only
        rw [manifests]
        exact mirrors.unsaved
      · dsimp only
        rw [acknowledges]
        exact mirrors.requestKey
  · refine ⟨[], round, matching, more ++ batches, rfl, ?_⟩
    constructor
    · dsimp only
      rw [manifests]
      exact mirrors.manifests
    · exact mirrors.session
    · dsimp only
      rw [acknowledges]
      exact mirrors.alike
    · dsimp only
      rw [acknowledges, snapshots]
      exact mirrors.sealing
    · exact grown
    · exact all
    · exact mirrors.confirmed
    · dsimp only
      rw [acknowledges]
      intro here
      have nothing : batches = [] := by
        by_contra changed
        exact running ⟨here, changed⟩
      rw [written, nothing, List.append_nil]
      exact mirrors.working here
    · intro unmatched
      exact (mirrors.unmatched unmatched).imp untouched (List.append_ne_nil_of_left_ne_nil · _)
    · dsimp only
      rw [manifests]
      exact mirrors.unsaved
    · dsimp only
      rw [acknowledges]
      exact mirrors.requestKey

/-- Batches that hold nothing more at any place are no batches. -/
theorem no_more {sealed more : List Entries} {entries : Entries} (full : ∀ batch ∈ more, batch ≠ [])
    (before : SameOrder place sealed.flatten entries) (after : SameOrder place (sealed ++ more).flatten entries) :
    more = [] := by
  have nothing : more.flatten = [] := by
    rw [List.eq_nil_iff_forall_not_mem]
    intro entry member
    have same := (after (place entry)).trans (before (place entry)).symm
    rw [List.flatten_append] at same
    have same : entriesAt (place entry) (sealed.flatten ++ more.flatten) = entriesAt (place entry) sealed.flatten := same
    rw [entriesAt_append] at same
    have empty := List.append_right_eq_self.1 same
    have here : entry ∈ entriesAt (place entry) more.flatten := List.mem_filter.2 ⟨member, by simp⟩
    rw [empty] at here
    exact absurd here (List.not_mem_nil)
  cases more with
  | nil => rfl
  | cons batch rest =>
      rw [List.flatten_cons] at nothing
      exact absurd (List.append_eq_nil_iff.1 nothing).1 (full batch (List.mem_cons_self ..))

/-- Before a command is executed everything that was delivered is in the tables. -/
theorem Inv.written (inv : Inv methods origin hash state delivered content executed)
    (running : state.writer.failed = false) (asked : state.port.control.isSome = true) :
    SameOrder place state.port.database.written.flatten delivered := by
  have lane := inv.lane running
  obtain ⟨empty, -, nothing⟩ := lane.drained (.inr asked)
  intro here
  have conserved := lane.conserved here
  rw [nothing, empty, Lib.contents_nil, entriesAt_nil, List.append_nil, List.append_nil] at conserved
  exact conserved

/-- Only a state whose snapshot still shows the tables is saved without a new one. -/
theorem Mirrors.unchanged {command : SaveState}
    (mirrors : Mirrors tables initial earlier state round current matching sealed more)
    (inv : Inv methods origin hash state delivered content executed)
    (succeeds : Succeeds (acknowledged initial state.port.database) command.state .manifestOnly)
    (whole : state.writer.failed = false) (asked : state.port.control = some command)
    (action : command.action = .manifestOnly) : more = [] := by
  have request := inv.asked command asked
  have written := inv.written whole (by rw [asked]; rfl)
  rw [mirrors.written] at written
  rw [action] at request
  cases request with
  | manifestOnly cut cuts stamped content_ same seals =>
      obtain ⟨batches, found, ordered⟩ := seals
      have sealing := mirrors.sealing
      rw [succeeds.token, sealing] at found
      cases found
      exact no_more mirrors.full (same ▸ ordered) written

/-- The statements of the round do what the writer does with a command. -/
theorem Mirrors.executes {command : SaveState} {database : Database} {reply : ScanResumeState}
    {opened : List (Scan.Cuts.Action Entry Event)}
    (mirrors : Mirrors tables initial earlier state round current matching sealed more)
    (reached : (Scan.Cuts.machine digest).exec Scan.Cuts.initial opened = some round)
    (inv : Inv methods origin hash state delivered content executed) (ordered : Ordered initial state)
    (whole : state.writer.failed = false) (asked : state.port.control = some command)
    (ran : command.execute state.port.database = some (database, reply)) :
    ∃ session after current' sealed', (Scan.Cuts.machine digest).exec round session = some after ∧
      Mirrors tables initial earlier
        { state with port := { state.port with control := none, database, reply := some reply } } after current' true
          sealed' [] := by
  obtain ⟨succeeds, -⟩ := ordered.asked command asked
  obtain ⟨following, goes, alike, token⟩ := succeeds.alike mirrors.alike
  obtain ⟨saved, earlier_, same⟩ := mirrors.manifests
  have running := succeeds.running
  have shown := mirrors.working running
  unfold SaveState.execute at ran
  cases action : command.action with
  | restore =>
      rw [action] at ran succeeds
      obtain ⟨written, found, made⟩ := Option.map_eq_some_iff.1 ran
      cases made
      have here : (acknowledged initial state.port.database).checkpointSnapshot = command.state.checkpointSnapshot := by
        rw [succeeds.restore_eq]
      have content_ : written = sealed := by
        have sealing := mirrors.sealing
        rw [here, found] at sealing
        exact Option.some.inj sealing
      have open_ := Scan.Cuts.underWay_of_round reached mirrors.session
      have shows_ := (open_.kept (Scan.Cuts.reachable_inv reached).durable).checkpoint
      have phase : current.phase = .running := by rw [← mirrors.alike]; exact running
      refine ⟨_, _, current, sealed, Scan.Cuts.rewind_restores shows_ mirrors.session phase, ?_⟩
      constructor
      · exact mirrors.manifests
      · rfl
      · exact mirrors.alike
      · exact mirrors.sealing
      · rw [content_, List.append_nil]
      · exact fun _ member => nomatch member
      · exact mirrors.confirmed
      · intro _
        dsimp only
        rw [content_]
        exact mirrors.confirmed
      · exact fun unmatched => by cases unmatched
      · exact mirrors.unsaved
      · exact mirrors.requestKey
  | manifestOnly =>
      rw [action] at ran goes succeeds
      cases ran
      have nothing : more = [] := mirrors.unchanged inv succeeds whole asked action
      have matched : matching = true := by
        by_contra unmatched
        rcases mirrors.unmatched (Bool.eq_false_of_not_eq_true unmatched) with untouched | changed
        · exact untouched.control command asked action
        · exact changed nothing
      have written := mirrors.written
      rw [nothing, List.append_nil] at written
      obtain ⟨active, asks, first⟩ := goes.seals digest SaveAction.noConfusion mirrors.session
      rw [matched] at first
      refine ⟨_, _, following, sealed, Lib.Machine.exec_trans first (Scan.Cuts.seal_manifest active), ?_⟩
      · have latest : acknowledged initial { state.port.database with
            manifests := state.port.database.manifests ++ [command.state] } = command.state := by simp [acknowledged]
        constructor
        · refine ⟨saved ++ [following], ?_, List.rel_append same (.cons alike .nil)⟩
          dsimp only
          rw [earlier_, List.append_assoc]
        · rfl
        · rw [latest]
          exact alike
        · rw [latest, succeeds.token]
          exact mirrors.sealing
        · rw [List.append_nil]
          exact written
        · exact fun _ member => nomatch member
        · dsimp only
          rw [← written]
          exact shown
        · exact fun _ => shown
        · exact fun unmatched => by cases unmatched
        · exact fun none_ => absurd none_ (by simp)
        · rw [latest, succeeds.requestKey]
          exact mirrors.requestKey
  | capture =>
      rw [action] at ran goes
      cases ran
      have phase : current.phase = .running := by rw [← mirrors.alike]; exact running
      have session : Scan.Cuts.State.session { round with session := .round current false } = .round current false := rfl
      obtain ⟨active, asks, first⟩ := goes.seals digest SaveAction.noConfusion session
      have rewritten : (Scan.Cuts.machine digest).exec round [.write round.store.working] =
          some { round with session := .round current false } := by
        simp [Lib.Machine.exec, Scan.Cuts.machine, Scan.Cuts.State.step, mirrors.session, phase]
      refine ⟨_, _, { following with checkpointSnapshot := round.store.tokens }, state.port.database.written,
        Lib.Machine.exec_trans (Lib.Machine.exec_trans rewritten first) (Scan.Cuts.seal_captured active), ?_⟩
      · have latest : acknowledged initial { state.port.database with
            snapshots := state.port.database.snapshots ++ [state.port.database.written]
            manifests := state.port.database.manifests ++
              [{ command.state with checkpointSnapshot := state.port.database.snapshots.length }] } =
            { command.state with checkpointSnapshot := state.port.database.snapshots.length } := by
          simp [acknowledged]
        have alike' : Alike { command.state with checkpointSnapshot := state.port.database.snapshots.length }
            { following with checkpointSnapshot := round.store.tokens } := by
          rw [Alike, ← alike]
        constructor
        · refine ⟨saved ++ [_], ?_, List.rel_append same (.cons alike' .nil)⟩
          dsimp only
          rw [earlier_, List.append_assoc]
        · rfl
        · rw [latest]
          exact alike'
        · rw [latest]
          simp
        · exact (List.append_nil _).symm
        · exact fun _ member => nomatch member
        · exact shown
        · exact fun _ => shown
        · exact fun unmatched => by cases unmatched
        · exact fun none_ => absurd none_ (by simp)
        · rw [latest]
          exact succeeds.requestKey.trans mirrors.requestKey

/-- Every step of every task is a run of the round. -/
theorem Mirrors.step {action : Action} {opened : List (Scan.Cuts.Action Entry Event)}
    (mirrors : Mirrors tables initial earlier state round current matching sealed more)
    (reached : (Scan.Cuts.machine digest).exec Scan.Cuts.initial opened = some round)
    (inv : Inv methods origin hash state delivered content executed) (ordered : Ordered initial state)
    (stepped : step hash batchSize methods state action = some next) :
    Ordered initial next ∧ ∃ session after current' matching' sealed' more',
      (Scan.Cuts.machine digest).exec round session = some after ∧
        Mirrors tables initial earlier next after current' matching' sealed' more' := by
  have quiet {statistics : Statistics} {cancelled : Bool} :
      Mirrors tables initial earlier { state with statistics, port := { state.port with cancelled } } round current
        matching sealed more :=
    mirrors.stays rfl fun before => ⟨before.facts, before.reply, before.submitting, before.control⟩
  obtain produced | rfl | rfl | rfl | ⟨move, rfl⟩ := step_cases stepped
  · obtain ⟨database, untouched⟩ := produce_untouched produced
    exact ⟨ordered.produce inv produced, [], round, current, matching, sealed, more, rfl,
      mirrors.stays database untouched⟩
  · cases stepped
    exact ⟨ordered.other, [], round, current, matching, sealed, more, rfl, quiet⟩
  · obtain ⟨statistics, -, rfl⟩ := Option.map_eq_some_iff.1 stepped
    exact ⟨ordered.other, [], round, current, matching, sealed, more, rfl, quiet⟩
  · obtain ⟨entries, -, rfl⟩ := Option.map_eq_some_iff.1 stepped
    exact ⟨ordered.other, [], round, current, matching, sealed, more, rfl, quiet⟩
  · obtain ⟨⟨after, port⟩, moved, rfl⟩ := Option.map_eq_some_iff.1 stepped
    obtain same | ⟨whole, rfl, command, asked, ran⟩ := Writer.step_saves moved
    · obtain ⟨session, later, matching', more', run, kept⟩ := mirrors.writes same
      exact ⟨ordered.writes same, session, later, current, matching', sealed, more', run, kept⟩
    · obtain ⟨⟨database, reply⟩, saving, rfl⟩ := Option.map_eq_some_iff.1 ran
      obtain ⟨session, later, current', sealed', run, kept⟩ := mirrors.executes reached inv ordered whole asked saving
      exact ⟨(ordered.execute inv asked saving).2, session, later, current', true, sealed', [], run, kept⟩

theorem mirrors_start {template resume : Bool} (session : round.session = .round current false)
    (alike : Alike { initial with phase := .running, checkpointSnapshot := 0 } current)
    (working : SameRows round.store.working (tables [])) (confirmed : SameRows round.ledger.confirmed (tables [])) :
    Mirrors tables initial round.store.manifests (start template resume initial) round current false [] [] where
  manifests := ⟨[], (List.append_nil _).symm, .nil⟩
  session := session
  alike := alike
  sealing := rfl
  written := rfl
  full := fun _ member => nomatch member
  confirmed := confirmed
  working := fun _ => working
  unmatched := fun _ => .inl ⟨rfl, rfl, ProducerPhase.noConfusion, fun _ found => by cases found⟩
  unsaved := fun _ => rfl
  requestKey := rfl

/-! ### Runs -/

/-- Whatever the tasks of the pipeline do, the database sees a round of `Scan.Cuts` with the same
saved states over the same batches. -/
theorem saves_are_cuts {template resume : Bool} {actions : List Action} {final : State}
    {opened : List (Scan.Cuts.Action Entry Event)}
    (reached : (Scan.Cuts.machine digest).exec Scan.Cuts.initial opened = some round)
    (session : round.session = .round current false)
    (alike : Alike { initial with phase := .running, checkpointSnapshot := 0 } current)
    (working : SameRows round.store.working (tables [])) (confirmed : SameRows round.ledger.confirmed (tables []))
    (run : (machine hash batchSize methods).exec (start template resume initial) actions = some final) :
    ∃ session after current' matching sealed more, (Scan.Cuts.machine digest).exec round session = some after ∧
      Mirrors tables initial round.store.manifests final after current' matching sealed more := by
  have kept : (∃ delivered content executed, Inv methods ⟨resume, initial⟩ hash final delivered content executed) ∧
      Ordered initial final ∧ ∃ session after current' matching sealed more,
        (Scan.Cuts.machine digest).exec round session = some after ∧
          Mirrors tables initial round.store.manifests final after current' matching sealed more := by
    apply Lib.Machine.exec_invariant _ _ run
    · rintro state action next ⟨⟨delivered, content, executed, inv⟩, ordered, earlier, after, current', matching,
        sealed, more, gone, mirrors⟩ stepped
      obtain ⟨later, session', after', current'', matching', sealed', more', moved, mirrors'⟩ :=
        mirrors.step (Lib.Machine.exec_trans reached gone) inv ordered stepped
      exact ⟨inv.step stepped, later, earlier ++ session', after', current'', matching', sealed', more',
        Lib.Machine.exec_trans gone moved, mirrors'⟩
    · exact ⟨⟨[], [], [], inv_start template resume initial⟩, ordered_start template resume, [], round, current, false,
        [], [], rfl, mirrors_start session alike working confirmed⟩
  exact kept.2.2

/-- What the last snapshot holds is the content of the last saved cut. -/
theorem Mirrors.holds (mirrors : Mirrors tables initial earlier state round current matching sealed more)
    (inv : Inv methods origin hash state delivered content executed) :
    SameOrder place sealed.flatten ((executed.getLast?.map Cut.content).getD []) := by
  have matched := List.forall₂_reverse_iff.2 inv.manifests
  have last : state.port.database.manifests.getLast? = state.port.database.manifests.reverse.head? :=
    List.head?_reverse.symm
  have cut : executed.getLast? = executed.reverse.head? := List.head?_reverse.symm
  have sealing := mirrors.sealing
  rw [acknowledged, last] at sealing
  rw [cut]
  generalize reversed : state.port.database.manifests.reverse = manifests at matched sealing
  generalize executed.reverse = cuts at matched
  cases matched with
  | nil =>
      rw [mirrors.unsaved (List.reverse_eq_nil_iff.1 reversed)]
      exact fun _ => rfl
  | cons matches_ _ =>
      obtain ⟨batches, found, same⟩ := matches_.seals
      rw [List.head?_cons, Option.getD_some, found] at sealing
      cases sealing
      exact same

/-- A scan that dies at any moment is resumed from the cut of the last checkpoint that was saved. -/
theorem crash_resumes {template resume : Bool} {actions : List Action} {final : State} {request : ScanRequest}
    {opened : List (Scan.Cuts.Action Entry Event)}
    (reached : (Scan.Cuts.machine digest).exec Scan.Cuts.initial opened = some round)
    (session : round.session = .round current false)
    (alike : Alike { initial with phase := .running, checkpointSnapshot := 0 } current)
    (working : SameRows round.store.working (tables [])) (confirmed : SameRows round.ledger.confirmed (tables []))
    (key : initial.requestKey = request.requestKey digest true)
    (run : (machine hash batchSize methods).exec (start template resume initial) actions = some final) :
    ∃ session after resumed sealed, (Scan.Cuts.machine digest).exec round session = some after ∧
      (Scan.Cuts.machine digest).exec after (.crash :: .start request true :: List.replicate 5 .statement) =
        some resumed ∧
      SameRows resumed.store.working (tables sealed) ∧
      ∃ saved open_ : List Cut, (ledger methods ⟨resume, initial⟩ final.producer.consumed).cuts = saved ++ open_ ∧
        open_.length ≤ 1 ∧ SameOrder place sealed.flatten ((saved.getLast?.map Cut.content).getD []) := by
  obtain ⟨delivered, content, executed, inv⟩ := inv_run run
  obtain ⟨rest, few, cuts⟩ := inv.cuts
  obtain ⟨session, after, current', matching, sealed, more, gone, mirrors⟩ :=
    saves_are_cuts reached session alike working confirmed run
  have there := Lib.Machine.exec_trans reached gone
  have open_ := Scan.Cuts.underWay_of_round there mirrors.session
  have same : current'.requestKey = request.requestKey digest true := by
    rw [← key, ← mirrors.requestKey, ← mirrors.alike]
  have durable := (Scan.Cuts.reachable_inv there).durable
  have uncommitted := open_.scanState_ne durable
  have kept := open_.kept durable
  refine ⟨session, after, _, sealed, gone,
    Scan.Cuts.resume_restores kept.checkpoint open_.loaded open_.active uncommitted same, mirrors.confirmed, executed, rest, cuts,
      few, mirrors.holds inv⟩

end Mirror

/-- The statements that open the first round of a job. -/
def openedRound : List (Scan.Cuts.Action ObservedEntry Unit) :=
  .start Scan.Cuts.sampleRequest true :: Scan.Cuts.cloneBoth ++ List.replicate 4 .statement ++ [.keepRest]

def openedState : ScanResumeState :=
  ⟨1, Scan.Cuts.sampleRequest.requestKey Scan.Cuts.sampleDigest true, 1, false, .running, 0, [], none, 0, 0⟩

example : ∃ round final, (Scan.Cuts.machine Scan.Cuts.sampleDigest).exec Scan.Cuts.initial openedRound = some round ∧
    (machine (fun _ => 0) 1000 Scan.Statistics.u64Methods).exec (start false true openedState) (shortScan.take 22) =
      some final ∧
    ∃ session after resumed, ∃ sealed : List Entries, (Scan.Cuts.machine Scan.Cuts.sampleDigest).exec round session = some after ∧
      (Scan.Cuts.machine Scan.Cuts.sampleDigest).exec after
        (.crash :: .start Scan.Cuts.sampleRequest true :: List.replicate 5 .statement) = some resumed ∧
      SameRows resumed.store.working ⟨sealed.flatten.map fun entry => ⟨entry, 1⟩, []⟩ := by
  obtain ⟨round, final, reached, session, working, confirmed, run⟩ : ∃ round final,
      (Scan.Cuts.machine Scan.Cuts.sampleDigest).exec Scan.Cuts.initial openedRound = some round ∧
        round.session = .round openedState false ∧ round.store.working = ⟨[], []⟩ ∧
          round.ledger.confirmed = ⟨[], []⟩ ∧
            (machine (fun _ => 0) 1000 Scan.Statistics.u64Methods).exec (start false true openedState)
              (shortScan.take 22) = some final :=
    ⟨_, _, rfl, rfl, rfl, rfl, rfl⟩
  let tables (batches : List Entries) : Facts ObservedEntry Unit :=
    ⟨batches.flatten.map fun entry => ⟨entry, 1⟩, []⟩
  have working : SameRows round.store.working (tables []) := by rw [working]; exact ⟨rfl, rfl⟩
  have confirmed : SameRows round.ledger.confirmed (tables []) := by rw [confirmed]; exact ⟨rfl, rfl⟩
  have alike : Alike { openedState with phase := .running, checkpointSnapshot := 0 } openedState := rfl
  obtain ⟨statements, after, resumed, sealed, gone, again, rows, -⟩ :=
    crash_resumes reached session alike working confirmed rfl run
  exact ⟨round, final, reached, run, statements, after, resumed, sealed, gone, again, rows⟩

end Terrasync.App.ScanPipeline
