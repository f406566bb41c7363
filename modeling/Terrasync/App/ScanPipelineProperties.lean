import Terrasync.App.ScanProducer
import Terrasync.Scan.ScanProgressProperties

/-! The cut of a scan checkpoint. Whatever the tasks do between two waits, a command reaches
the writer only when everything that was delivered is in the tables and counted, so every
manifest stands for the entries that the source had delivered before its checkpoint, with their counts. -/

set_option autoImplicit false

namespace Terrasync.App.ScanPipeline

open Lib (Delivery Stage contents SameOrder)
open Scan (ScanResumeState StatisticsCheckpoint)
open Scan.Statistics (EntryKindMethods)

/-! ### Whole runs -/

section Runs

variable {methods : EntryKindMethods} {origin : Origin} {hash : RelativePath → Nat} {batchSize : Nat}
variable {state next : State}
variable {delivered sealed : Entries} {executed : List Cut}

theorem Seals.same {database later : Database} {saved : ScanResumeState} {entries : Entries}
    (seals : Seals database saved entries) (snapshots : later.snapshots = database.snapshots) :
    Seals later saved entries :=
  seals.mono ⟨[], by rw [snapshots, List.append_nil]⟩

theorem Asked.same {database later : Database} {book : Ledger} {saved : ScanResumeState} {action : SaveAction}
    (asked : Asked database book delivered sealed executed saved action)
    (snapshots : later.snapshots = database.snapshots) :
    Asked later book delivered sealed executed saved action := by
  cases asked with
  | restore cuts seals => exact .restore cuts (seals.same snapshots)
  | capture cut cuts stamped content => exact .capture cut cuts stamped content
  | manifestOnly cut cuts stamped content same seals =>
      exact .manifestOnly cut cuts stamped content same (seals.same snapshots)

/-- The writer works on; what was saved stays. -/
theorem Inv.writer {action : WriterAction} (inv : Inv methods origin hash state delivered sealed executed)
    (stepped : step hash batchSize methods state (.writer action) = some next) :
    ∃ delivered' sealed' executed', Inv methods origin hash next delivered' sealed' executed' := by
  obtain ⟨⟨after, port⟩, moved, rfl⟩ := Option.map_eq_some_iff.1 stepped
  obtain same | ⟨running, rfl, command, asked, ran⟩ := Writer.step_saves moved
  · have control := same.control
    have reply := same.reply
    have snapshots := same.snapshots
    have manifests := same.manifests
    refine ⟨delivered, sealed, executed, ?_⟩
    constructor
    · dsimp only
      rw [manifests]
      exact forall_matches inv.manifests ⟨[], by rw [snapshots, List.append_nil]⟩
    · exact inv.cuts
    · dsimp only
      rw [control]
      exact fun command asked => (inv.asked command asked).same snapshots
    · dsimp only
      rw [control, reply]
      exact inv.single
    · intro alive
      have account := inv.account alive
      have due : State.due { state with writer := after, port } = state.due := by
        rw [State.due, reply]
        rfl
      constructor
      · rw [due]
        exact account.book
      · rw [due]
        exact account.unchanged
      · exact account.delivering
      · exact account.saving
      · exact account.emptied
      · exact account.finished
      · dsimp only
        rw [control, reply]
        exact account.confirming
      · exact fun action submitting => (account.submitting action submitting).same snapshots
      · dsimp only
        rw [reply]
        exact fun unreplied => (account.sealing unreplied).same snapshots
      · dsimp only
        rw [reply]
        intro saved replied
        obtain ⟨seals, rest⟩ := account.replied saved replied
        exact ⟨seals.same snapshots, rest⟩
    · intro running
      have lane := inv.lane (Writer.failed_of_step moved running)
      obtain ⟨moves, sound⟩ := Writer.moves lane.sound moved running
      exact lane.move moves sound same
    · exact inv.statistics
    · exact ⟨inv.tallied.scan, inv.tallied.counts⟩
  · exact inv.execute running asked ran

theorem Inv.other {statistics : Statistics} {cancelled : Bool}
    (inv : Inv methods origin hash state delivered sealed executed)
    (lane : StatisticsLane statistics state.producer.phase state.producer.ticket state.producer.resuming
      (ledger methods origin state.producer.consumed) delivered)
    (snapshot : statistics.snapshot = state.statistics.snapshot) :
    Inv methods origin hash { state with statistics, port := { state.port with cancelled } } delivered sealed
      executed := by
  refine ⟨inv.manifests, inv.cuts, inv.asked, inv.single, ?_, ?_, lane, ?_⟩
  · intro alive
    have account := inv.account alive
    exact ⟨account.book, account.unchanged, account.delivering, account.saving, account.emptied, account.finished,
      account.confirming, account.submitting, account.sealing, account.replied⟩
  · intro running
    have lane := inv.lane running
    exact ⟨lane.sound, lane.conserved, lane.stage, lane.heard, lane.drained⟩
  · constructor
    · dsimp only
      rw [snapshot]
      exact inv.tallied.scan
    · exact inv.tallied.counts

theorem step_cases {action : Action} (stepped : step hash batchSize methods state action = some next) :
    produce batchSize methods state action = some next ∨ action = .cancel ∨ action = .count ∨ action = .record ∨
      ∃ move, action = .writer move := by
  cases action with
  | cancel => exact .inr (.inl rfl)
  | count => exact .inr (.inr (.inl rfl))
  | record => exact .inr (.inr (.inr (.inl rfl)))
  | writer move => exact .inr (.inr (.inr (.inr ⟨move, rfl⟩)))
  | _ => exact .inl stepped

/-- Every step of every task keeps the accounts. -/
theorem Inv.step {action : Action} (inv : Inv methods origin hash state delivered sealed executed)
    (stepped : step hash batchSize methods state action = some next) :
    ∃ delivered' sealed' executed', Inv methods origin hash next delivered' sealed' executed' := by
  obtain produced | rfl | rfl | rfl | ⟨move, rfl⟩ := step_cases stepped
  · obtain ⟨delivered', kept⟩ := inv.produce produced
    exact ⟨delivered', sealed, executed, kept⟩
  · cases stepped
    exact ⟨delivered, sealed, executed, inv.other inv.statistics rfl⟩
  · obtain ⟨statistics, counted, rfl⟩ := Option.map_eq_some_iff.1 stepped
    obtain ⟨lane, snapshot⟩ := inv.statistics.count counted
    exact ⟨delivered, sealed, executed, inv.other lane snapshot⟩
  · obtain ⟨entries, recording, rfl⟩ := Option.map_eq_some_iff.1 stepped
    exact ⟨delivered, sealed, executed, inv.other (inv.statistics.record recording) rfl⟩
  · exact inv.writer stepped

theorem inv_start (template resume : Bool) (initial : ScanResumeState) :
    Inv methods ⟨resume, initial⟩ hash (start template resume initial) [] [] [] := by
  have seals : Seals (start template resume initial).port.database (start template resume initial).producer.state [] :=
    ⟨[], rfl, fun _ => rfl⟩
  constructor
  · exact .nil
  · exact ⟨[], Nat.zero_le _, rfl⟩
  · exact fun _ found => by cases found
  · exact fun _ => rfl
  · intro _
    constructor
    · exact .settled rfl rfl rfl
    · exact fun found => by cases found
    · exact fun _ => rfl
    · exact False.elim
    · exact fun found => by cases found
    · exact fun found => by cases found
    · simp [start]
    · exact fun _ found => by cases found
    · exact fun _ => seals
    · exact fun _ found => by cases found
  · intro _
    cases template with
    | false =>
        exact ⟨trivial, fun _ => rfl, ⟨false, rfl, Stage.fresh⟩, False.elim, by simp [start, ProducerPhase.drained]⟩
    | true =>
        refine ⟨Router.new_sound, ?_, ⟨false, rfl, Stage.fresh⟩, False.elim, by simp [start, ProducerPhase.drained]⟩
        intro here
        exact congrArg (fun held => [] ++ held ++ []) (@Router.new_heldAt hash here)
  · refine ⟨fun _ _ _ => ⟨[], rfl, ?_⟩, ⟨false, rfl, Stage.fresh⟩, False.elim⟩
    exact List.append_nil (loaded initial ++ [])
  · exact .of_settled rfl rfl

/-- The accounts hold in every state that a scan reaches. -/
theorem inv_run {template resume : Bool} {initial : ScanResumeState} {actions : List Action} {final : State}
    (run : (machine hash batchSize methods).exec (start template resume initial) actions = some final) :
    ∃ delivered sealed executed, Inv methods ⟨resume, initial⟩ hash final delivered sealed executed := by
  apply Lib.Machine.exec_invariant _ _ run
  · intro state action next holds stepped
    obtain ⟨delivered, sealed, executed, inv⟩ := holds
    exact inv.step stepped
  · exact ⟨[], [], [], inv_start template resume initial⟩

/-! ### What is saved -/

/-- Every manifest is the exact cut of one checkpoint, in their order, and at most the last
checkpoint of the source is without one. -/
theorem checkpoints_cut_exactly {template resume : Bool} {initial : ScanResumeState} {actions : List Action}
    {final : State}
    (run : (machine hash batchSize methods).exec (start template resume initial) actions = some final) :
    ∃ saved open_ : List Cut, (ledger methods ⟨resume, initial⟩ final.producer.consumed).cuts = saved ++ open_ ∧
      open_.length ≤ 1 ∧ List.Forall₂ (Matches final.port.database) final.port.database.manifests saved := by
  obtain ⟨delivered, sealed, executed, inv⟩ := inv_run run
  obtain ⟨rest, few, cuts⟩ := inv.cuts
  exact ⟨executed, rest, cuts, few, inv.manifests⟩

end Runs

/-! A scan of two blocks that is thrown back once behind its first checkpoint. -/

def sampleEntry : ObservedEntry := .new ['a'] .directory none none .local none

def laterEntry : ObservedEntry := .new ['b'] .directory none none .local none

def sampleState : ScanResumeState := ⟨0, [], 1, false, .running, 0, [], none, 0, 0⟩

/-- The tasks around a barrier with a chunk before it, up to the confirmed save. -/
def savedChunk : List Action :=
  [.call, .reserve, .reserve, .call, .announce, .announce, .writer .select, .writer .select, .writer .flush, .count,
    .record, .count, .hear, .hear, .stamp, .submit, .writer .select, .confirm]

def shortScan : List Action :=
  ([.receive [.entry sampleEntry, .statistics (Scan.Statistics.block ['a'] 1 1 (some .complete)), .checkpoint [1]],
    .item, .item, .item] : List Action) ++ savedChunk ++
  ([.receive [.entry laterEntry, .resumed (some [1])], .item, .item, .call, .announce, .announce, .writer .select,
    .writer .flush, .count, .hear, .hear, .stamp, .submit, .writer .select, .confirm,
    .receive [.entry laterEntry, .statistics (Scan.Statistics.block ['b'] 1 1 (some .complete))], .item, .item,
    .sourceEnded] : List Action) ++ savedChunk

def shortScanFinal : Option State :=
  (machine (fun _ => 0) 1000 Scan.Statistics.u64Methods).exec (start false true sampleState) shortScan

theorem shortScan_cuts : ∃ final, shortScanFinal = some final ∧ final.port.database.manifests.length = 2 ∧
    ∃ saved open_ : List Cut,
      (ledger Scan.Statistics.u64Methods ⟨true, sampleState⟩ final.producer.consumed).cuts = saved ++ open_ ∧
        open_.length ≤ 1 ∧ List.Forall₂ (Matches final.port.database) final.port.database.manifests saved := by
  obtain ⟨final, run, twice⟩ : ∃ final, shortScanFinal = some final ∧ final.port.database.manifests.length = 2 :=
    ⟨_, rfl, rfl⟩
  exact ⟨final, run, twice, checkpoints_cut_exactly run⟩

section Finished

variable {methods : EntryKindMethods} {hash : RelativePath → Nat} {batchSize : Nat}

/-- When the producer has finished, the tables hold what the source delivered, every checkpoint
has its manifest, and the statistics have counted the same. -/
theorem finished_complete {template resume : Bool} {initial : ScanResumeState} {actions : List Action} {final : State}
    (run : (machine hash batchSize methods).exec (start template resume initial) actions = some final)
    (finished : final.producer.phase = .finished) (running : final.writer.failed = false) :
    SameOrder place final.port.database.written.flatten
        (ledger methods ⟨resume, initial⟩ final.producer.consumed).current ∧
      List.Forall₂ (Matches final.port.database) final.port.database.manifests
        (ledger methods ⟨resume, initial⟩ final.producer.consumed).cuts ∧
      (∃ saved, (Scan.Statistics.machine methods).exec (origin resume initial) (countEvents final.producer.consumed) =
        some ⟨final.producer.progress, final.statistics.snapshot, saved⟩) ∧
      (final.statistics.snapshot.distributionsComplete = true → ∃ fresh,
        (ledger methods ⟨resume, initial⟩ final.producer.consumed).current =
          (ledger methods ⟨resume, initial⟩ final.producer.consumed).base ++ fresh ∧
        final.statistics.recorded =
          (ledger methods ⟨resume, initial⟩ final.producer.consumed).distributions ++ plain fresh) := by
  obtain ⟨delivered, sealed, executed, inv⟩ := inv_run run
  have alive : final.producer.phase ≠ .failed := by
    rw [finished]
    exact ProducerPhase.noConfusion
  have account := inv.account alive
  obtain ⟨saving, pending⟩ := account.finished finished
  have book := account.book
  rw [State.due, saving, ite_self, Producer.flight, finished, pending] at book
  cases book with
  | settled current saved cuts =>
      have all : (ledger methods ⟨resume, initial⟩ final.producer.consumed).current = delivered :=
        current.trans (List.append_nil delivered)
      refine ⟨?_, cuts ▸ inv.manifests, ?_, ?_⟩
      · have lane := inv.lane running
        obtain ⟨empty, -, nothing⟩ := lane.drained (.inl (by rw [finished]; trivial))
        rw [all]
        intro here
        have conserved := lane.conserved here
        rw [nothing, empty, Lib.contents_nil, entriesAt_nil, List.append_nil, List.append_nil] at conserved
        exact conserved
      · obtain ⟨saved, scan⟩ := inv.tallied.settled alive saving
        exact ⟨saved, (ledger_scan _ _ _).symm.trans scan⟩
      · intro complete
        obtain ⟨empty, idle⟩ := inv.statistics.drained (by rw [finished]; trivial)
        obtain ⟨fresh, same, known⟩ := inv.statistics.counted alive (by rw [Producer.resuming, saving]; rfl) complete
        refine ⟨fresh, all.trans same, ?_⟩
        rw [← known, empty, idle]
        exact ((List.append_nil _).trans (List.append_nil _)).symm

end Finished

theorem shortScan_complete : ∃ final, shortScanFinal = some final ∧
    SameOrder place final.port.database.written.flatten
        (ledger Scan.Statistics.u64Methods ⟨true, sampleState⟩ final.producer.consumed).current ∧
      List.Forall₂ (Matches final.port.database) final.port.database.manifests
        (ledger Scan.Statistics.u64Methods ⟨true, sampleState⟩ final.producer.consumed).cuts ∧
      (∃ saved, (Scan.Statistics.machine Scan.Statistics.u64Methods).exec (origin true sampleState)
        (countEvents final.producer.consumed) =
          some ⟨final.producer.progress, final.statistics.snapshot, saved⟩) ∧
      (final.statistics.snapshot.distributionsComplete = true → ∃ fresh,
        (ledger Scan.Statistics.u64Methods ⟨true, sampleState⟩ final.producer.consumed).current =
          (ledger Scan.Statistics.u64Methods ⟨true, sampleState⟩ final.producer.consumed).base ++ fresh ∧
        final.statistics.recorded =
          (ledger Scan.Statistics.u64Methods ⟨true, sampleState⟩ final.producer.consumed).distributions ++
            plain fresh) := by
  obtain ⟨final, run, finished, running⟩ : ∃ final, shortScanFinal = some final ∧
      final.producer.phase = .finished ∧ final.writer.failed = false := ⟨_, rfl, rfl, rfl⟩
  exact ⟨final, run, finished_complete run finished running⟩

end Terrasync.App.ScanPipeline
