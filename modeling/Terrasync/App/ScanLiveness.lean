import Terrasync.App.ScanPipelineProperties

/-! A scan never gets stuck. The channels are bounded, both consumers answer barriers, the
router waits for its workers and the writer for commands; still, as long as nothing has failed,
some task can go on unless the source is awaited or everything is done. -/

set_option autoImplicit false

namespace Terrasync.App.ScanPipeline

open Lib (Delivery Stage)
open Scan (ScanResumeState StatisticsCheckpoint)
open Scan.Statistics (EntryKindMethods)

/-! ### The way to the end -/

/-- The writer has seen the end of its channel. -/
def BatchPhase.ending : BatchPhase → Prop
  | .flushing .finish | .finished => True
  | _ => False

def RouterPhase.ending : RouterPhase → Prop
  | .flushing _ none | .finished => True
  | _ => False

namespace BatchWriter

variable {batchSize : Nat} {writer : BatchWriter}

theorem fill_running (batch entries : Entries) : ¬(fill batchSize batch entries).phase.ending := by
  induction entries generalizing batch with
  | nil => exact id
  | cons entry rest ih =>
      simp only [fill]
      split
      · exact id
      · exact ih _

theorem receive_running (delivery : Delivery ObservedEntry) :
    ¬(writer.receive batchSize (some delivery)).phase.ending := by
  cases delivery with
  | data entries => exact fill_running _ _
  | barrier ticket => exact id

theorem afterFlush_ending {next : AfterFlush} (ending : (afterFlush batchSize next).phase.ending) :
    (BatchPhase.flushing next).ending := by
  cases next with
  | entries rest => exact absurd ending (fill_running _ _)
  | acknowledge ticket => exact ending.elim
  | finish => trivial

end BatchWriter

/-- A router that is at its end has seen the end of its channel, and only its end ends a worker. -/
structure Router.Live (router : Router) (closed : Bool) (queue : List (Delivery ObservedEntry)) : Prop where
  ending : router.phase.ending → closed = true ∧ queue = []
  delivering : ∀ index rest, router.phase = .delivering index rest → index < workerCount
  workers : ∀ (index : Nat) (worker : Worker), router.workers[index]? = some worker → worker.writer.phase.ending →
    router.ended = true

def Writer.Live (closed : Bool) (queue : List (Delivery ObservedEntry)) : Writer → Prop
  | .single writer => writer.phase.ending → closed = true ∧ queue = []
  | .routed router => router.Live closed queue

/-- A channel is closed when its producer has gone, and it ends only then. -/
structure Live (state : State) : Prop where
  closed : state.port.closed = state.producer.ended
  statistics : state.statistics.finished = true → state.port.closed = true ∧ state.statistics.queue = []
  writer : state.writer.Live state.port.closed state.port.queue

/-! ### Steps of the writer -/

section Steps

variable {hash : RelativePath → Nat} {batchSize : Nat} {port next : Port} {router after : Router}

theorem execute_closed {command : SaveState} (executed : port.execute command = some next) :
    next.closed = port.closed ∧ next.queue = port.queue := by
  obtain ⟨saved, -, rfl⟩ := Option.map_eq_some_iff.1 executed
  exact ⟨rfl, rfl⟩

theorem dispatch_inside (pending : List Entries) (entries : Entries) {index : Nat} {rest : Entries}
    (delivering : (dispatch hash pending entries).2 = .delivering index rest) : index < workerCount := by
  induction entries generalizing pending with
  | nil => cases delivering
  | cons entry later ih =>
      simp only [dispatch] at delivering
      split at delivering
      · cases delivering
        exact workerOf_lt entry
      · exact ih _ delivering

theorem dispatch_running (pending : List Entries) (entries : Entries) :
    ¬(dispatch hash pending entries).2.ending := by
  induction entries generalizing pending with
  | nil => exact id
  | cons entry later ih =>
      simp only [dispatch]
      split
      · exact id
      · exact ih _

namespace Router

/-- A chunk or a barrier leaves the hands of the workers alone. -/
theorem tell_writers {index : Nat} {delivery : Delivery ObservedEntry} {workers : List Worker}
    (told : router.tell batchSize index delivery = some workers) {other : Nat} {worker : Worker}
    (found : workers[other]? = some worker) :
    ∃ before, router.workers[other]? = some before ∧ before.writer = worker.writer := by
  unfold tell at told
  cases current : router.workers[index]? with
  | none =>
      rw [current] at told
      cases told
  | some target =>
      rw [current] at told
      dsimp only at told
      split at told
      · cases told
        by_cases here : index = other
        · subst here
          rw [List.getElem?_set_self (List.getElem?_eq_some_iff.1 current).1] at found
          cases found
          exact ⟨target, current, rfl⟩
        · rw [List.getElem?_set_ne here] at found
          exact ⟨worker, found, rfl⟩
      · cases told

/-- While the router runs, no worker is at its end, and a step of the router does not change that. -/
theorem Live.running (live : router.Live port.closed port.queue) (running : router.ended = false) {index : Nat}
    {worker : Worker} (found : router.workers[index]? = some worker) : ¬worker.writer.phase.ending := by
  intro ending
  have ended := live.workers index worker found ending
  rw [running] at ended
  cases ended

theorem Live.goOn {workers : List Worker} {pending : List Entries} {entries : Entries} {closed : Bool}
    {queue : List (Delivery ObservedEntry)}
    (running : ∀ (index : Nat) (worker : Worker), workers[index]? = some worker → ¬worker.writer.phase.ending) :
    (router.goOn hash workers pending entries).Live closed queue := by
  constructor
  · exact fun ending => absurd ending (dispatch_running _ _)
  · exact fun index rest delivering => dispatch_inside _ _ delivering
  · exact fun index worker found ending => absurd ending (running index worker found)

theorem Live.keep {phase : RouterPhase} {workers : List Worker} {pending : List Entries} {ticket : Nat}
    {closed : Bool} {queue : List (Delivery ObservedEntry)}
    (running : ∀ (index : Nat) (worker : Worker), workers[index]? = some worker → ¬worker.writer.phase.ending)
    (ending : phase.ending → closed = true ∧ queue = [])
    (delivering : ∀ index rest, phase ≠ .delivering index rest) :
    (Router.mk phase pending workers ticket).Live closed queue := by
  constructor
  · exact ending
  · exact fun index rest found => absurd found (delivering index rest)
  · exact fun index worker found ending => absurd ending (running index worker found)

theorem step_live (live : router.Live port.closed port.queue)
    (stepped : router.step hash batchSize port = some (after, next)) :
    after.Live next.closed next.queue ∧ next.closed = port.closed := by
  have going {phase : RouterPhase} (here : router.phase = phase) (open_ : phase ≠ .finished ∧ phase ≠ .failed) :
      ∀ (index : Nat) (worker : Worker), router.workers[index]? = some worker → ¬worker.writer.phase.ending := by
    intro index worker found
    apply live.running _ found
    rw [ended, here]
    simp [open_.1, open_.2]
  have told {index : Nat} {delivery : Delivery ObservedEntry} {workers : List Worker}
      (told : router.tell batchSize index delivery = some workers)
      (running : ∀ (index : Nat) (worker : Worker), router.workers[index]? = some worker → ¬worker.writer.phase.ending) :
      ∀ (index : Nat) (worker : Worker), workers[index]? = some worker → ¬worker.writer.phase.ending := by
    intro other worker found
    obtain ⟨before, known, same⟩ := tell_writers told found
    rw [← same]
    exact running other before known
  unfold step at stepped
  cases phase : router.phase with
  | selecting =>
      rw [phase] at stepped
      have running := going phase ⟨RouterPhase.noConfusion, RouterPhase.noConfusion⟩
      dsimp only at stepped
      split at stepped
      · cases stepped
      · cases control : port.control with
        | some command =>
            rw [control] at stepped
            obtain ⟨saved, executed, same⟩ := Option.map_eq_some_iff.1 stepped
            cases same
            obtain ⟨closed, queue⟩ := execute_closed executed
            rw [closed, queue]
            exact ⟨live, rfl⟩
        | none =>
            rw [control] at stepped
            obtain ⟨⟨delivery, rest⟩, taken, same⟩ := Option.map_eq_some_iff.1 stepped
            cases same
            refine ⟨?_, rfl⟩
            obtain ⟨first, rfl, split⟩ | ⟨rfl, empty, rfl, closed⟩ := received_some taken
            · cases first with
              | data entries => exact .goOn running
              | barrier ticket => exact .keep running False.elim fun _ _ => RouterPhase.noConfusion
            · exact .keep running (fun _ => ⟨closed, rfl⟩) fun _ _ => RouterPhase.noConfusion
  | delivering index rest =>
      rw [phase] at stepped
      obtain ⟨workers, sent, same⟩ := Option.map_eq_some_iff.1 stepped
      cases same
      exact ⟨.goOn (told sent (going phase ⟨RouterPhase.noConfusion, RouterPhase.noConfusion⟩)), rfl⟩
  | flushing index answer =>
      rw [phase] at stepped
      have running := going phase ⟨RouterPhase.noConfusion, RouterPhase.noConfusion⟩
      have ending : (RouterPhase.flushing (index + 1) answer).ending → port.closed = true ∧ port.queue = [] := by
        intro ending
        apply live.ending
        rw [phase]
        cases answer with
        | none => trivial
        | some ticket => exact ending.elim
      dsimp only at stepped
      split at stepped
      · cases stepped
        exact ⟨.keep running ending fun _ _ => RouterPhase.noConfusion, rfl⟩
      · obtain ⟨workers, sent, same⟩ := Option.map_eq_some_iff.1 stepped
        cases same
        exact ⟨.keep (told sent running) ending fun _ _ => RouterPhase.noConfusion, rfl⟩
      · cases stepped
        exact ⟨.keep running False.elim fun _ _ => RouterPhase.noConfusion, rfl⟩
      · cases stepped
        refine ⟨.keep running (fun _ => ?_) fun _ _ => RouterPhase.noConfusion, rfl⟩
        exact ending trivial
  | announcing index answer =>
      rw [phase] at stepped
      have running := going phase ⟨RouterPhase.noConfusion, RouterPhase.noConfusion⟩
      dsimp only at stepped
      split at stepped
      · obtain ⟨workers, sent, same⟩ := Option.map_eq_some_iff.1 stepped
        cases same
        exact ⟨.keep (told sent running) False.elim fun _ _ => RouterPhase.noConfusion, rfl⟩
      · cases stepped
        exact ⟨.keep running False.elim fun _ _ => RouterPhase.noConfusion, rfl⟩
  | awaiting index answer =>
      rw [phase] at stepped
      have running := going phase ⟨RouterPhase.noConfusion, RouterPhase.noConfusion⟩
      dsimp only at stepped
      split at stepped
      · split at stepped
        · cases stepped
          exact ⟨.keep running False.elim fun _ _ => RouterPhase.noConfusion, rfl⟩
        · cases stepped
      · cases stepped
        exact ⟨.keep running False.elim fun _ _ => RouterPhase.noConfusion, rfl⟩
  | finished =>
      rw [phase] at stepped
      cases stepped
  | failed =>
      rw [phase] at stepped
      cases stepped

end Router

/-- A worker ends only behind its router. -/
theorem Router.Live.replace {closed : Bool} {queue : List (Delivery ObservedEntry)} {index : Nat}
    {worker later : Worker} (live : router.Live closed queue) (current : router.workers[index]? = some worker)
    (ending : later.writer.phase.ending → worker.writer.phase.ending ∨ router.ended = true) :
    Router.Live { router with workers := router.workers.set index later } closed queue := by
  refine ⟨live.ending, live.delivering, ?_⟩
  intro other found known stopping
  by_cases here : index = other
  · subst here
    rw [List.getElem?_set_self (List.getElem?_eq_some_iff.1 current).1] at known
    cases known
    rcases ending stopping with before | ended
    · exact live.workers index worker current before
    · exact ended
  · rw [List.getElem?_set_ne here] at known
    exact live.workers other found known stopping

theorem flush_closed (port : Port) (batch : Entries) :
    (port.flush batch).closed = port.closed ∧ (port.flush batch).queue = port.queue := by
  unfold Port.flush
  split <;> exact ⟨rfl, rfl⟩

theorem Writer.step_live {writer later : Writer} {action : WriterAction}
    (live : writer.Live port.closed port.queue)
    (stepped : writer.step hash batchSize port action = some (later, next)) :
    later.Live next.closed next.queue ∧ next.closed = port.closed := by
  cases writer with
  | single writer =>
      cases action with
      | select =>
          simp only [Writer.step] at stepped
          split at stepped
          · cases stepped
          · rename_i free
            have receiving : writer.phase = .receiving := by
              simp only [Bool.or_eq_true, decide_eq_true_eq, not_or, not_not] at free
              exact free.2
            split at stepped
            · obtain ⟨saved, executed, same⟩ := Option.map_eq_some_iff.1 stepped
              cases same
              obtain ⟨closed, queue⟩ := execute_closed executed
              rw [closed, queue]
              exact ⟨live, rfl⟩
            · obtain ⟨⟨delivery, rest⟩, taken, same⟩ := Option.map_eq_some_iff.1 stepped
              cases same
              refine ⟨?_, rfl⟩
              obtain ⟨first, rfl, -⟩ | ⟨rfl, -, rfl, closed⟩ := received_some taken
              · exact fun ending => absurd ending (BatchWriter.receive_running first)
              · exact fun _ => ⟨closed, rfl⟩
      | flush =>
          simp only [Writer.step] at stepped
          split at stepped
          · rename_i following phase
            cases stepped
            obtain ⟨closed, queue⟩ := flush_closed port writer.batch
            have kept : (Writer.single (BatchWriter.afterFlush batchSize following)).Live port.closed port.queue := by
              intro ending
              apply live
              rw [phase]
              exact BatchWriter.afterFlush_ending ending
            cases following with
            | acknowledge ticket => exact ⟨fun ending => ending.elim, closed⟩
            | entries rest =>
                dsimp only
                rw [closed, queue]
                exact ⟨kept, rfl⟩
            | finish =>
                dsimp only
                rw [closed, queue]
                exact ⟨kept, rfl⟩
          · cases stepped
      | fail =>
          simp only [Writer.step] at stepped
          split at stepped
          · cases stepped
          · cases stepped
            exact ⟨fun ending => ending.elim, rfl⟩
      | receive _ => cases stepped
      | flushWorker _ => cases stepped
      | failWorker _ => cases stepped
  | routed router =>
      cases action with
      | select =>
          obtain ⟨⟨after, port'⟩, moved, same⟩ := Option.map_eq_some_iff.1 stepped
          cases same
          exact Router.step_live live moved
      | flush => cases stepped
      | fail =>
          simp only [Writer.step] at stepped
          split at stepped
          · cases stepped
          · cases stepped
            exact ⟨⟨fun ending => ending.elim, fun _ _ => RouterPhase.noConfusion, fun _ _ _ _ => rfl⟩, rfl⟩
      | receive index =>
          simp only [Writer.step] at stepped
          split at stepped
          · cases stepped
          · obtain ⟨worker', taken, same⟩ := Option.map_eq_some_iff.1 stepped
            cases same
            obtain ⟨worker, current, received_⟩ := Option.bind_eq_some_iff.1 taken
            refine ⟨Router.Live.replace live current ?_, rfl⟩
            unfold Worker.receive at received_
            split at received_
            · obtain ⟨⟨delivery, rest⟩, found, rfl⟩ := Option.map_eq_some_iff.1 received_
              obtain ⟨first, rfl, -⟩ | ⟨rfl, -, -, ended⟩ := received_some found
              · exact fun ending => absurd ending (BatchWriter.receive_running first)
              · exact fun _ => .inr ended
            · cases received_
      | flushWorker index =>
          obtain ⟨⟨worker', batch⟩, taken, same⟩ := Option.map_eq_some_iff.1 stepped
          cases same
          obtain ⟨worker, current, flushed⟩ := Option.bind_eq_some_iff.1 taken
          obtain ⟨closed, queue⟩ := flush_closed port batch
          rw [closed, queue]
          refine ⟨Router.Live.replace live current ?_, rfl⟩
          unfold Worker.flush at flushed
          split at flushed
          · rename_i following phase
            cases flushed
            intro ending
            rw [phase]
            cases following with
            | acknowledge ticket => exact ending.elim
            | entries rest => exact .inl (BatchWriter.afterFlush_ending ending)
            | finish => exact .inl trivial
          · cases flushed
      | failWorker index =>
          obtain ⟨worker', taken, same⟩ := Option.map_eq_some_iff.1 stepped
          cases same
          obtain ⟨worker, current, failed⟩ := Option.bind_eq_some_iff.1 taken
          refine ⟨Router.Live.replace live current ?_, rfl⟩
          unfold Worker.fail at failed
          split at failed
          · cases failed
          · cases failed
            exact fun ending => ending.elim

end Steps

/-! ### Steps of the pipeline -/

section Pipeline

variable {methods : EntryKindMethods} {hash : RelativePath → Nat} {batchSize : Nat} {state next : State}

/-- The producer goes on, and both channels stay as they are. -/
theorem Live.produced {producer : Producer} {port : Port} {statistics : Statistics} (live : Live state)
    (ended : port.closed = producer.ended) (more : state.port.closed = true → port.closed = true)
    (queue : port.queue = state.port.queue) (counted : statistics.queue = state.statistics.queue)
    (finishes : statistics.finished = state.statistics.finished) : Live { state with producer, port, statistics } := by
  constructor
  · exact ended
  · dsimp only
    rw [counted, finishes]
    intro finished
    obtain ⟨closed, empty⟩ := live.statistics finished
    exact ⟨more closed, empty⟩
  · have kept := live.writer
    dsimp only
    rw [queue]
    cases writer : state.writer with
    | single writer =>
        rw [writer] at kept
        intro ending
        obtain ⟨closed, empty⟩ := kept ending
        exact ⟨more closed, empty⟩
    | routed router =>
        rw [writer] at kept
        refine ⟨?_, kept.delivering, kept.workers⟩
        intro ending
        obtain ⟨closed, empty⟩ := kept.ending ending
        exact ⟨more closed, empty⟩

/-- A producer that sends is not gone, so nobody is at the end. -/
theorem Live.sent {producer : Producer} {queue counted : List (Delivery ObservedEntry)} (live : Live state)
    (open_ : state.port.closed = false) (running : producer.ended = false) :
    Live { state with
      producer
      port := { state.port with queue }
      statistics := { state.statistics with queue := counted } } := by
  have never {goal : Prop} (closed : state.port.closed = true) : goal := by
    rw [open_] at closed
    cases closed
  constructor
  · exact open_.trans running.symm
  · exact fun finished => never (live.statistics finished).1
  · have kept := live.writer
    dsimp only
    cases writer : state.writer with
    | single writer =>
        rw [writer] at kept
        exact fun ending => never (kept ending).1
    | routed router =>
        rw [writer] at kept
        exact ⟨fun ending => never (kept.ending ending).1, kept.delivering, kept.workers⟩

theorem Live.fail (live : Live state) : Live state.fail :=
  live.produced rfl (fun _ => rfl) rfl rfl rfl

theorem Live.takeItem {item : ScanItem} {rest : List ScanItem} (live : Live state) :
    Live (state.takeItem methods item rest) := by
  have closed := live.closed
  cases item with
  | resumed _ => exact live.produced closed id rfl rfl rfl
  | entry _ => exact live.produced closed id rfl rfl rfl
  | checkpoint _ => exact live.produced closed id rfl rfl rfl
  | statistics value =>
      unfold State.takeItem
      dsimp only
      split
      · exact live.produced closed id rfl rfl rfl
      · exact live.produced rfl (fun _ => rfl) rfl rfl rfl

theorem Live.stamp {cause : SaveCause} (live : Live state) (stamping : state.producer.phase = .stamping) :
    Live (state.stamp methods cause) := by
  have closed := live.closed
  unfold State.stamp
  split
  · refine live.produced ?_ id rfl rfl rfl
    simp [closed, Producer.ended, stamping]
  · exact live.fail

theorem Live.confirm {saved : ScanResumeState} (live : Live state)
    (confirming : state.producer.phase = .confirming) : Live (state.confirm methods saved) := by
  have open_ (gone : state.port.closed = true) {goal : Prop} : goal := by
    rw [live.closed, Producer.ended, confirming] at gone
    cases gone
  unfold State.confirm
  dsimp only
  split
  · exact live.produced rfl (fun gone => open_ gone) rfl rfl rfl
  · split
    · exact live.produced rfl (fun gone => open_ gone) rfl rfl rfl
    · exact live.produced rfl (fun _ => rfl) rfl rfl rfl
  · exact live.produced rfl (fun gone => open_ gone) rfl rfl rfl

theorem Live.produce {action : Action} (live : Live state) (stepped : produce batchSize methods state action = some next) :
    Live next := by
  have closed := live.closed
  have same {producer : Producer} (ended : producer.ended = state.producer.ended) :
      Live { state with producer } :=
    live.produced (closed.trans ended.symm) id rfl rfl rfl
  have ready : state.producer.phase = .ready → state.producer.ended = false := by
    intro phase
    simp [Producer.ended, phase]
  cases action with
  | receive batch =>
      simp only [ScanPipeline.produce] at stepped
      split at stepped
      · cases stepped
        exact same rfl
      · cases stepped
  | sourceEnded =>
      simp only [ScanPipeline.produce] at stepped
      split at stepped
      · cases stepped
        exact same rfl
      · cases stepped
  | tick =>
      simp only [ScanPipeline.produce] at stepped
      split at stepped
      · cases stepped
        exact same rfl
      · cases stepped
  | item =>
      simp only [ScanPipeline.produce] at stepped
      split at stepped
      · split at stepped
        · cases stepped
          exact live.takeItem
        · cases stepped
      · cases stepped
  | call =>
      obtain ⟨later, called, rfl⟩ := Option.map_eq_some_iff.1 stepped
      unfold Producer.call at called
      split at called
      · cases called
      · rename_i phase
        have running := ready (not_not.1 phase)
        split at called
        · split at called
          · cases called
            exact same rfl
          · cases called
            exact same running.symm
        · obtain ⟨cause, -, rfl⟩ := Option.map_eq_some_iff.1 called
          exact same running.symm
  | reserve =>
      simp only [ScanPipeline.produce] at stepped
      split at stepped
      · rename_i reserving
        split at stepped
        · cases stepped
          apply same
          simp [Producer.ended, reserving]
        · cases stepped
      · rename_i reserving
        split at stepped
        · cases stepped
          have open_ : state.port.closed = false := by simp [closed, Producer.ended, reserving]
          exact live.sent open_ rfl
        · cases stepped
      · cases stepped
  | announce =>
      simp only [ScanPipeline.produce] at stepped
      split at stepped
      · rename_i announcing
        split at stepped
        · cases stepped
          have open_ : state.port.closed = false := by simp [closed, Producer.ended, announcing]
          exact live.sent open_ rfl
        · cases stepped
      · rename_i announcing
        split at stepped
        · cases stepped
          have open_ : state.port.closed = false := by simp [closed, Producer.ended, announcing]
          exact live.sent open_ rfl
        · cases stepped
      · cases stepped
  | hear =>
      simp only [ScanPipeline.produce] at stepped
      split at stepped
      · rename_i awaiting
        split at stepped
        · cases stepped
          apply same
          simp [Producer.ended, awaiting]
        · cases stepped
      · rename_i awaiting
        split at stepped
        · cases stepped
          apply same
          simp [Producer.ended, awaiting]
        · cases stepped
      · cases stepped
  | stamp =>
      simp only [ScanPipeline.produce] at stepped
      split at stepped
      · rename_i stamping _
        cases stepped
        exact live.stamp stamping
      · cases stepped
  | submit =>
      simp only [ScanPipeline.produce] at stepped
      split at stepped
      · rename_i submitting
        split at stepped
        · cases stepped
          refine live.produced ?_ id rfl rfl rfl
          simp [closed, Producer.ended, submitting]
        · cases stepped
      · cases stepped
  | confirm =>
      simp only [ScanPipeline.produce] at stepped
      split at stepped
      · rename_i confirming _
        split at stepped
        · cases stepped
        · cases stepped
          exact live.confirm confirming
      · cases stepped
  | abort =>
      simp only [ScanPipeline.produce] at stepped
      split at stepped
      · cases stepped
      · cases stepped
        exact live.fail
  | cancel => cases stepped
  | count => cases stepped
  | record => cases stepped
  | writer _ => cases stepped

theorem Live.step {action : Action} (live : Live state) (stepped : step hash batchSize methods state action = some next) :
    Live next := by
  obtain produced | rfl | rfl | rfl | ⟨move, rfl⟩ := step_cases stepped
  · exact live.produce produced
  · cases stepped
    exact live.produced live.closed id rfl rfl rfl
  · obtain ⟨statistics, counted, rfl⟩ := Option.map_eq_some_iff.1 stepped
    refine ⟨live.closed, ?_, live.writer⟩
    intro finished
    unfold countStep at counted
    split at counted
    · cases counted
    · rename_i free
      obtain ⟨⟨delivery, rest⟩, found, rfl⟩ := Option.map_eq_some_iff.1 counted
      obtain ⟨first, rfl, -⟩ | ⟨rfl, empty, -, closed⟩ := received_some found
      · have unfinished : state.statistics.finished = true := by
          cases first <;> exact finished
        simp [unfinished] at free
      · exact ⟨closed, empty⟩
  · obtain ⟨entries, -, rfl⟩ := Option.map_eq_some_iff.1 stepped
    exact ⟨live.closed, live.statistics, live.writer⟩
  · obtain ⟨⟨after, port⟩, moved, rfl⟩ := Option.map_eq_some_iff.1 stepped
    obtain ⟨kept, same⟩ := Writer.step_live live.writer moved
    refine ⟨same.trans live.closed, ?_, kept⟩
    intro finished
    dsimp only
    rw [same]
    exact live.statistics finished

theorem live_start (template resume : Bool) (initial : ScanResumeState) :
    Live (start template resume initial) := by
  refine ⟨rfl, (fun finished => absurd finished Bool.false_ne_true), ?_⟩
  cases template with
  | false => exact False.elim
  | true =>
      refine ⟨False.elim, fun _ _ => RouterPhase.noConfusion, ?_⟩
      intro index worker found ending
      have fresh : worker = ⟨[], [], .new⟩ := by
        have member := List.mem_of_getElem? found
        exact List.eq_of_mem_replicate member
      rw [fresh] at ending
      exact ending.elim

end Pipeline

/-! ### Progress -/

/-- What a writer's task does by itself. -/
def WriterAction.own : WriterAction → Bool
  | .fail | .failWorker _ => false
  | _ => true

/-- What a task does by itself: not the source, not the clock, no failure and no cancellation. -/
def Action.own : Action → Bool
  | .receive _ | .sourceEnded | .tick | .abort | .cancel => false
  | .writer action => action.own
  | _ => true

section Progress

variable {hash : RelativePath → Nat} {batchSize : Nat} {port : Port} {router : Router} {writer : Writer}

theorem channelCapacity_pos : 0 < channelCapacity batchSize :=
  Nat.lt_of_lt_of_le Nat.zero_lt_one (Nat.le_max_right _ _)

theorem received_isSome {queue : List (Delivery ObservedEntry)} {closed : Bool}
    (busy : queue ≠ [] ∨ closed = true) : (received queue closed).isSome = true := by
  cases queue with
  | cons first rest => rfl
  | nil =>
      rcases busy with full | closed
      · exact absurd rfl full
      · rw [received, closed]
        rfl

/-- A worker with something to do does it. -/
theorem worker_moves {index : Nat} {worker : Worker} (found : router.workers[index]? = some worker)
    (free : port.cancelled = false) (running : worker.writer.ended = false)
    (busy : worker.queue ≠ [] ∨ worker.writer.handling.isSome = true ∨ router.ended = true) :
    ∃ action, action.own = true ∧ ((Writer.routed router).step hash batchSize port action).isSome = true := by
  cases phase : worker.writer.phase with
  | receiving =>
      refine ⟨.receive index, rfl, ?_⟩
      have ready : (received worker.queue router.ended).isSome = true := by
        apply received_isSome
        rcases busy with full | handling | ended
        · exact .inl full
        · rw [BatchWriter.handling, phase] at handling
          cases handling
        · exact .inr ended
      simp only [Writer.step, free, Bool.false_eq_true, if_false, found, Option.bind_some, Worker.receive, phase,
        if_true, Option.isSome_map]
      exact ready
  | flushing next =>
      refine ⟨.flushWorker index, rfl, ?_⟩
      simp only [Writer.step, found, Option.bind_some, Worker.flush, phase, Option.isSome_map]
      rfl
  | finished => simp [BatchWriter.ended, phase] at running
  | failed => simp [BatchWriter.ended, phase] at running

/-- A worker that has room is told, and one that has none can go on itself. -/
theorem tell_or_moves {index : Nat} {worker : Worker} (delivery : Delivery ObservedEntry)
    (found : router.workers[index]? = some worker) (free : port.cancelled = false)
    (running : worker.writer.ended = false) :
    (router.tell batchSize index delivery).isSome = true ∨
      ∃ action, action.own = true ∧ ((Writer.routed router).step hash batchSize port action).isSome = true := by
  by_cases room : worker.queue.length < channelCapacity batchSize
  · left
    simp only [Router.tell, found, running, room, Bool.not_false, decide_true, Bool.and_self, if_true,
      Option.isSome_some]
  · right
    refine worker_moves found free running (.inl ?_)
    intro empty
    rw [empty] at room
    exact room channelCapacity_pos

/-- While the router runs and no worker has failed, every worker is there. -/
theorem Router.Live.worker_running {closed : Bool} {queue : List (Delivery ObservedEntry)} {index : Nat}
    {worker : Worker} (live : router.Live closed queue) (whole : (Writer.routed router).failed = false)
    (running : router.ended = false) (found : router.workers[index]? = some worker) :
    worker.writer.ended = false := by
  cases ended : worker.writer.ended with
  | false => rfl
  | true =>
      simp only [BatchWriter.ended, Bool.or_eq_true, decide_eq_true_eq] at ended
      rcases ended with finished | failed
      · have stopping := live.workers index worker found (by rw [finished]; trivial)
        rw [running] at stopping
        cases stopping
      · simp only [Writer.failed, Bool.or_eq_false_iff, List.any_eq_false] at whole
        exact absurd (decide_eq_true failed) (whole.2 worker (List.mem_of_getElem? found))

theorem single_progress {batch : BatchWriter} (live : (Writer.single batch).Live port.closed port.queue)
    (whole : (Writer.single batch).failed = false) (free : port.cancelled = false)
    (ready : ∀ command, port.control = some command → (port.execute command).isSome = true)
    (open_ : port.control.isSome = true → port.closed = false)
    (busy : port.queue ≠ [] ∨ port.control.isSome = true ∨ batch.handling.isSome = true ∨
      (port.closed = true ∧ (Writer.single batch).succeeded = false)) :
    ∃ action, action.own = true ∧ ((Writer.single batch).step hash batchSize port action).isSome = true := by
  cases phase : batch.phase with
  | receiving =>
      refine ⟨.select, rfl, ?_⟩
      simp only [Writer.step, free, phase, Bool.false_or, ne_eq, not_true, decide_false, Bool.false_eq_true, if_false]
      cases control : port.control with
      | some command =>
          simp only [Option.isSome_map]
          exact ready command control
      | none =>
          simp only [Option.isSome_map]
          apply received_isSome
          rcases busy with full | asked | handling | ⟨closed, -⟩
          · exact .inl full
          · rw [control] at asked
            cases asked
          · rw [BatchWriter.handling, phase] at handling
            cases handling
          · exact .inr closed
  | flushing next =>
      refine ⟨.flush, rfl, ?_⟩
      simp only [Writer.step, phase]
      rfl
  | finished =>
      obtain ⟨closed, empty⟩ := live (by rw [phase]; trivial)
      rcases busy with full | asked | handling | ⟨-, waiting⟩
      · exact absurd empty full
      · rw [open_ asked] at closed
        cases closed
      · rw [BatchWriter.handling, phase] at handling
        cases handling
      · simp [Writer.succeeded, phase] at waiting
  | failed => simp [Writer.failed, phase] at whole

/-- A router with something to do does it, or one of its workers does. -/
theorem routed_progress (sound : router.Sound hash) (live : router.Live port.closed port.queue)
    (whole : (Writer.routed router).failed = false) (free : port.cancelled = false)
    (ready : ∀ command, port.control = some command → (port.execute command).isSome = true)
    (open_ : port.control.isSome = true → port.closed = false)
    (busy : port.queue ≠ [] ∨ port.control.isSome = true ∨ router.phase.handling.isSome = true ∨
      (port.closed = true ∧ (Writer.routed router).succeeded = false)) :
    ∃ action, action.own = true ∧ ((Writer.routed router).step hash batchSize port action).isSome = true := by
  have there {index : Nat} (inside : index < workerCount) : ∃ worker, router.workers[index]? = some worker := by
    rw [← sound.lanes.length] at inside
    exact ⟨_, List.getElem?_eq_getElem inside⟩
  have selects (moved : (router.step hash batchSize port).isSome = true) :
      ∃ action, action.own = true ∧ ((Writer.routed router).step hash batchSize port action).isSome = true := by
    refine ⟨.select, rfl, ?_⟩
    simp only [Writer.step, Option.isSome_map]
    exact moved
  have going {phase : RouterPhase} (here : router.phase = phase) (distinct : phase ≠ .finished ∧ phase ≠ .failed) :
      router.ended = false := by
    simp [Router.ended, here, distinct.1, distinct.2]
  cases phase : router.phase with
  | selecting =>
      have running := going phase ⟨RouterPhase.noConfusion, RouterPhase.noConfusion⟩
      have all : (router.workers.any fun worker => worker.writer.ended) = false := by
        rw [List.any_eq_false]
        intro worker member
        obtain ⟨index, found⟩ := List.mem_iff_getElem?.1 member
        rw [live.worker_running whole running found]
        exact Bool.false_ne_true
      apply selects
      simp only [Router.step, phase, free, all, Bool.or_self, Bool.false_eq_true, if_false]
      cases control : port.control with
      | some command =>
          simp only [Option.isSome_map]
          exact ready command control
      | none =>
          simp only [Option.isSome_map]
          apply received_isSome
          rcases busy with full | asked | handling | ⟨closed, -⟩
          · exact .inl full
          · rw [control] at asked
            cases asked
          · rw [phase] at handling
            cases handling
          · exact .inr closed
  | delivering index rest =>
      have running := going phase ⟨RouterPhase.noConfusion, RouterPhase.noConfusion⟩
      obtain ⟨worker, found⟩ := there (live.delivering index rest phase)
      rcases tell_or_moves (.data (router.pending.getD index [])) found free
        (live.worker_running whole running found) with told | moves
      · apply selects
        simp only [Router.step, phase, Option.isSome_map]
        exact told
      · exact moves
  | flushing index answer =>
      have running := going phase ⟨RouterPhase.noConfusion, RouterPhase.noConfusion⟩
      cases gathered : router.pending[index]? with
      | none =>
          apply selects
          cases answer with
          | none => simp only [Router.step, phase, gathered, Option.isSome_some]
          | some ticket => simp only [Router.step, phase, gathered, Option.isSome_some]
      | some chunk =>
          cases chunk with
          | nil =>
              apply selects
              simp only [Router.step, phase, gathered, Option.isSome_some]
          | cons first chunk =>
              have inside : index < workerCount := by
                rw [← sound.gathered.length]
                exact (List.getElem?_eq_some_iff.1 gathered).1
              obtain ⟨worker, found⟩ := there inside
              rcases tell_or_moves (.data (first :: chunk)) found free
                (live.worker_running whole running found) with told | moves
              · apply selects
                simp only [Router.step, phase, gathered, Option.isSome_map]
                exact told
              · exact moves
  | announcing index answer =>
      have running := going phase ⟨RouterPhase.noConfusion, RouterPhase.noConfusion⟩
      by_cases inside : index < router.workers.length
      · obtain ⟨worker, found⟩ : ∃ worker, router.workers[index]? = some worker :=
          ⟨_, List.getElem?_eq_getElem inside⟩
        rcases tell_or_moves (.barrier router.ticket) found free
          (live.worker_running whole running found) with told | moves
        · apply selects
          simp only [Router.step, phase, inside, if_true, Option.isSome_map]
          exact told
        · exact moves
      · apply selects
        simp only [Router.step, phase, inside, if_false, Option.isSome_some]
  | awaiting index answer =>
      have running := going phase ⟨RouterPhase.noConfusion, RouterPhase.noConfusion⟩
      cases found : router.workers[index]? with
      | none =>
          apply selects
          simp only [Router.step, phase, found, Option.isSome_some]
      | some worker =>
          by_cases answered : router.ticket ∈ worker.acknowledged
          · apply selects
            simp only [Router.step, phase, found, answered, if_true, Option.isSome_some]
          · -- the barrier is on its way to the worker or in its hands
            have stage := sound.lanes.stage index worker found
            rw [phase] at stage
            apply worker_moves found free (live.worker_running whole running found)
            rcases stage.pending answered with full | handling
            · exact .inl full
            · rw [handling]
              exact .inr (.inl rfl)
  | finished =>
      obtain ⟨closed, empty⟩ := live.ending (by rw [phase]; trivial)
      rcases busy with full | asked | handling | ⟨-, waiting⟩
      · exact absurd empty full
      · rw [open_ asked] at closed
        cases closed
      · rw [phase] at handling
        cases handling
      · simp only [Writer.succeeded, phase, decide_true, Bool.true_and, List.all_eq_false] at waiting
        obtain ⟨worker, member, unfinished⟩ := waiting
        obtain ⟨index, found⟩ := List.mem_iff_getElem?.1 member
        have ended : router.ended = true := by simp [Router.ended, phase]
        apply worker_moves found free _ (.inr (.inr ended))
        simp only [Writer.failed, Bool.or_eq_false_iff, List.any_eq_false] at whole
        have failed := whole.2 worker member
        simp only [decide_eq_true_eq] at unfinished failed
        simp [BatchWriter.ended, unfinished, failed]
  | failed => simp [Writer.failed, phase] at whole

variable {methods : EntryKindMethods} {origin : Origin} {state final : State}

theorem Asked.executable {book : Ledger} {delivered sealed : Entries} {executed : List Cut} {command : SaveState}
    (asked : Asked port.database book delivered sealed executed command.state command.action) :
    (port.execute command).isSome = true := by
  rw [Port.execute, Option.isSome_map]
  unfold SaveState.execute
  generalize command.action = action at asked
  cases asked with
  | restore _ seals =>
      obtain ⟨sealed, found, -⟩ := seals
      dsimp only
      rw [found]
      rfl
  | capture => rfl
  | manifestOnly => rfl

theorem writer_progress (batchSize : Nat) {delivered sealed : Entries} {executed : List Cut}
    (inv : Inv methods origin hash state delivered sealed executed) (live : Live state) (free : state.port.cancelled = false)
    (alive : state.producer.phase ≠ .failed) (whole : state.writer.failed = false)
    (busy : state.port.queue ≠ [] ∨ state.port.control.isSome = true ∨ state.writer.handling.isSome = true ∨
      (state.port.closed = true ∧ state.writer.succeeded = false)) :
    ∃ action, action.own = true ∧ (step hash batchSize methods state action).isSome = true := by
  have ready : ∀ command, state.port.control = some command → (state.port.execute command).isSome = true :=
    fun command asked => (inv.asked command asked).executable
  have open_ : state.port.control.isSome = true → state.port.closed = false := by
    intro asked
    have confirming := (inv.account alive).confirming.1 (.inl asked)
    rw [live.closed]
    simp [Producer.ended, confirming]
  have moves : ∃ action, action.own = true ∧
      (state.writer.step hash batchSize state.port action).isSome = true := by
    have sound := (inv.lane whole).sound
    have kept := live.writer
    cases writer : state.writer with
    | single batch =>
        rw [writer] at whole kept busy
        exact single_progress kept whole free ready open_ busy
    | routed router =>
        rw [writer] at whole kept busy sound
        exact routed_progress sound kept whole free ready open_ busy
  obtain ⟨action, own, moved⟩ := moves
  refine ⟨.writer action, own, ?_⟩
  simp only [step, Option.isSome_map]
  exact moved

theorem statistics_progress (hash : RelativePath → Nat) (batchSize : Nat) (live : Live state)
    (busy : state.statistics.queue ≠ [] ∨ (state.port.closed = true ∧ state.statistics.finished = false)) :
    ∃ action, action.own = true ∧ (step hash batchSize methods state action).isSome = true := by
  cases recording : state.statistics.recording with
  | some entries =>
      refine ⟨.record, rfl, ?_⟩
      simp only [step, recording, Option.map_some, Option.isSome_some]
  | none =>
      have unfinished : state.statistics.finished = false := by
        cases finished : state.statistics.finished with
        | false => rfl
        | true =>
            rcases busy with full | ⟨-, waiting⟩
            · exact absurd (live.statistics finished).2 full
            · exact finished.symm.trans waiting
      refine ⟨.count, rfl, ?_⟩
      simp only [step, countStep, unfinished, recording, Option.isSome_none, Bool.or_self, Bool.false_eq_true, if_false,
        Option.isSome_map]
      apply received_isSome
      rcases busy with full | ⟨closed, -⟩
      · exact .inl full
      · exact .inr closed

theorem live_run {template resume : Bool} {initial : ScanResumeState} {actions : List Action}
    (run : (machine hash batchSize methods).exec (start template resume initial) actions = some final) :
    Live final := by
  apply Lib.Machine.exec_invariant _ _ run
  · intro state action next live stepped
    exact live.step stepped
  · exact live_start template resume initial

/-- A writer that has not failed listens while the producer is going. -/
theorem Live.listening (live : Live state) (whole : state.writer.failed = false)
    (open_ : state.producer.ended = false) : state.writer.listening = true := by
  have kept := live.writer
  rw [live.closed, open_] at kept
  cases writer : state.writer with
  | single batch =>
      rw [writer] at kept whole
      have running : batch.phase ≠ .finished ∧ batch.phase ≠ .failed := by
        constructor
        · intro finished
          have ended := (kept (by rw [finished]; trivial)).1
          cases ended
        · intro failed
          simp [Writer.failed, failed] at whole
      simp [Writer.listening, BatchWriter.ended, running.1, running.2]
  | routed router =>
      rw [writer] at kept whole
      have running : router.phase ≠ .finished ∧ router.phase ≠ .failed := by
        constructor
        · intro finished
          have ended := (kept.ending (by rw [finished]; trivial)).1
          cases ended
        · intro failed
          simp [Writer.failed, failed] at whole
      simp [Writer.listening, Router.ended, running.1, running.2]

theorem ne_nil_of_full {limit : Nat} {queue : List (Delivery ObservedEntry)} (positive : 0 < limit)
    (full : ¬queue.length < limit) : queue ≠ [] := by
  intro empty
  rw [empty] at full
  exact full positive

/-- Between two items the producer awaits the source; otherwise it has something to do. -/
theorem ready_progress (hash : RelativePath → Nat) (batchSize : Nat) (phase : state.producer.phase = .ready) :
    (∃ action, action.own = true ∧ (step hash batchSize methods state action).isSome = true) ∨
      state.producer.atSelect = true := by
  cases idle : state.producer.idle with
  | true =>
      cases items : state.producer.items with
      | nil =>
          right
          simp [Producer.atSelect, idle, items]
      | cons item rest =>
          left
          refine ⟨.item, rfl, ?_⟩
          simp only [step, produce, items, idle, if_true, Option.isSome_some]
  | false =>
      left
      refine ⟨.call, rfl, ?_⟩
      simp only [step, produce, Option.isSome_map, Producer.call, phase, ne_eq, not_true, if_false]
      split
      · rfl
      · rename_i waiting
        rw [Option.isSome_map]
        cases saving : state.producer.saving with
        | some cause => rfl
        | none =>
            simp only [Bool.not_eq_true] at waiting
            simp [Producer.idle, phase, waiting, saving] at idle

section Waiting

variable {delivered sealed : Entries} {executed : List Cut}

/-- A permit is free, or the channel is full and its reader goes on. -/
theorem reserving_progress (inv : Inv methods origin hash state delivered sealed executed) (live : Live state)
    (free : state.port.cancelled = false) (alive : state.producer.phase ≠ .failed)
    (whole : state.writer.failed = false) {permits : Nat} {chunk : Entries}
    (phase : state.producer.phase = .reserving permits chunk) :
    ∃ action, action.own = true ∧ (step hash batchSize methods state action).isSome = true := by
  have open_ : state.producer.ended = false := by simp [Producer.ended, phase]
  cases permits with
  | zero =>
      by_cases room : state.port.queue.length < channelCapacity batchSize
      · refine ⟨.reserve, rfl, ?_⟩
        simp [step, produce, phase, free, live.listening whole open_, room]
      · exact writer_progress batchSize inv live free alive whole
          (.inl (ne_nil_of_full channelCapacity_pos room))
  | succ permits =>
      by_cases room : state.statistics.queue.length < statisticsCapacity
      · refine ⟨.reserve, rfl, ?_⟩
        simp [step, produce, phase, free, room]
      · exact statistics_progress hash batchSize live (.inl (ne_nil_of_full (by decide) room))

/-- The barrier fits into a channel, or the channel is full and its reader goes on. -/
theorem announcing_progress (inv : Inv methods origin hash state delivered sealed executed) (live : Live state)
    (free : state.port.cancelled = false) (alive : state.producer.phase ≠ .failed)
    (whole : state.writer.failed = false) {told : Nat} (phase : state.producer.phase = .announcing told) :
    ∃ action, action.own = true ∧ (step hash batchSize methods state action).isSome = true := by
  have open_ : state.producer.ended = false := by simp [Producer.ended, phase]
  cases told with
  | zero =>
      by_cases room : state.port.queue.length < channelCapacity batchSize
      · refine ⟨.announce, rfl, ?_⟩
        simp [step, produce, phase, free, live.listening whole open_, room]
      · exact writer_progress batchSize inv live free alive whole
          (.inl (ne_nil_of_full channelCapacity_pos room))
  | succ told =>
      by_cases room : state.statistics.queue.length < statisticsCapacity
      · refine ⟨.announce, rfl, ?_⟩
        simp [step, produce, phase, free, room]
      · exact statistics_progress hash batchSize live (.inl (ne_nil_of_full (by decide) room))

/-- The barrier is answered, or it waits in a queue, or the writer is at it. -/
theorem awaiting_progress (inv : Inv methods origin hash state delivered sealed executed) (live : Live state)
    (free : state.port.cancelled = false) (alive : state.producer.phase ≠ .failed)
    (whole : state.writer.failed = false) {heard : Nat} (phase : state.producer.phase = .awaiting heard) :
    ∃ action, action.own = true ∧ (step hash batchSize methods state action).isSome = true := by
  cases heard with
  | zero =>
      by_cases answered : state.producer.ticket ∈ state.port.acknowledged
      · refine ⟨.hear, rfl, ?_⟩
        simp [step, produce, phase, free, answered]
      · obtain ⟨announced, told, stage⟩ := (inv.lane whole).stage
        rw [phase] at told
        cases told
        apply writer_progress batchSize inv live free alive whole
        rcases stage.pending answered with waiting | handling
        · exact .inl waiting
        · exact .inr (.inr (.inl (by rw [handling]; rfl)))
  | succ heard =>
      by_cases answered : state.producer.ticket ∈ state.statistics.acknowledged
      · refine ⟨.hear, rfl, ?_⟩
        simp [step, produce, phase, free, answered]
      · obtain ⟨announced, told, stage⟩ := inv.statistics.stage
        rw [phase] at told
        cases told
        rcases stage.pending answered with waiting | handling
        · exact statistics_progress hash batchSize live (.inl waiting)
        · cases handling

theorem stamping_progress (account : Account methods origin state delivered sealed executed)
    (phase : state.producer.phase = .stamping) : (step hash batchSize methods state .stamp).isSome = true := by
  have known := account.saving (by rw [phase]; trivial)
  obtain ⟨cause, saving⟩ := Option.isSome_iff_exists.1 known
  simp only [step, produce, phase, saving, Option.isSome_some]

end Waiting

/-- In every state that a scan reaches without a failure or a cancellation, some task can go on,
unless the source is awaited or all tasks are done. -/
theorem never_stuck {template resume : Bool} {initial : ScanResumeState} {actions : List Action}
    (run : (machine hash batchSize methods).exec (start template resume initial) actions = some final)
    (free : final.port.cancelled = false) (alive : final.producer.phase ≠ .failed)
    (whole : final.writer.failed = false) :
    (∃ action, action.own = true ∧ (step hash batchSize methods final action).isSome = true) ∨
      final.producer.atSelect = true ∨
      (final.producer.phase = .finished ∧ final.writer.succeeded = true ∧ final.statistics.finished = true) := by
  obtain ⟨delivered, sealed, executed, inv⟩ := inv_run run
  have live := live_run run
  have account := inv.account alive
  have writes (busy) := writer_progress batchSize inv live free alive whole busy
  cases phase : final.producer.phase with
  | ready =>
      rcases ready_progress hash batchSize phase with goes | awaits
      · exact .inl goes
      · exact .inr (.inl awaits)
  | reserving permits chunk => exact .inl (reserving_progress inv live free alive whole phase)
  | announcing told => exact .inl (announcing_progress inv live free alive whole phase)
  | awaiting heard => exact .inl (awaiting_progress inv live free alive whole phase)
  | stamping => exact .inl ⟨.stamp, rfl, stamping_progress account phase⟩
  | submitting action =>
      left
      have open_ : final.producer.ended = false := by simp [Producer.ended, phase]
      have control := (account.quiet (by rw [phase]; exact ProducerPhase.noConfusion)).1
      refine ⟨.submit, rfl, ?_⟩
      simp [step, produce, phase, free, live.listening whole open_, control]
  | confirming =>
      left
      rcases account.confirming.2 phase with asked | replied
      · exact writes (.inr (.inl asked))
      · obtain ⟨saved, replied⟩ := Option.isSome_iff_exists.1 replied
        refine ⟨.confirm, rfl, ?_⟩
        simp [step, produce, phase, free, replied]
  | finished =>
      have closed : final.port.closed = true := by
        rw [live.closed]
        simp [Producer.ended, phase]
      cases succeeded : final.writer.succeeded with
      | false => exact .inl (writes (.inr (.inr (.inr ⟨closed, succeeded⟩))))
      | true =>
          cases finished : final.statistics.finished with
          | false => exact .inl (statistics_progress hash batchSize live (.inr ⟨closed, finished⟩))
          | true => exact .inr (.inr ⟨rfl, rfl, rfl⟩)
  | failed => exact absurd phase alive

end Progress

/-- A scan with the router, up to the point where the producer waits for the writer's barrier and
the router has told its workers of it. -/
def routedScan : List Action :=
  [.receive [.entry sampleEntry, .statistics (Scan.Statistics.block ['a'] 1 1 (some .complete)), .checkpoint [1]],
    .item, .item, .item, .call, .reserve, .reserve, .call, .announce, .announce, .writer .select, .writer .select,
    .writer .select, .writer .select, .writer .select, .writer .select, .writer .select, .writer .select,
    .writer .select, .writer .select, .writer .select]

def routedScanFinal : Option State :=
  (machine (fun _ => 0) 1000 Scan.Statistics.u64Methods).exec (start true true sampleState) routedScan

theorem routedScan_goes_on : ∃ final, routedScanFinal = some final ∧
    ((∃ action, action.own = true ∧ (step (fun _ => 0) 1000 Scan.Statistics.u64Methods final action).isSome = true) ∨
      final.producer.atSelect = true ∨
      (final.producer.phase = .finished ∧ final.writer.succeeded = true ∧ final.statistics.finished = true)) := by
  obtain ⟨final, run, free, announced, running⟩ : ∃ final, routedScanFinal = some final ∧
      final.port.cancelled = false ∧ final.producer.phase = .awaiting 0 ∧ final.writer.failed = false :=
    ⟨_, rfl, rfl, rfl, rfl⟩
  exact ⟨final, run, never_stuck run free (by rw [announced]; exact ProducerPhase.noConfusion) running⟩

end Terrasync.App.ScanPipeline
