import Mathlib.Algebra.GroupWithZero.Nat
import Terrasync.Lib.BarrierChannel
import Terrasync.Lib.Machine
import Terrasync.Scan.Comparison
import Terrasync.Scan.ResumeState

/-! The pipeline of a persisted scan: `scan_resume/pipeline.rs`, `scan_resume/workers.rs` and
`consumer/observed.rs`, with the scan counts and the distributions of `ScanStatistics`. The producer hands observations to two consumers through bounded
channels, asks both for a barrier before it saves, and has the writer save. The writer is one
task, or a router with its workers. Every step is what one task does between two waits; the
tables of the database are the batches that were written. -/

set_option autoImplicit false

namespace Terrasync.App.ScanPipeline

open Lib (Delivery)
open Scan (sortBatch ScanPhase ScanResumeState StatisticsCheckpoint)
open Scan.Statistics (EntryKindMethods ScanProgress ScanSnapshot DirectoryStatistics TraversalOrder)

def dispatchBatch : Nat := 256

/-- `WORKERS`. -/
def workerCount : Nat := 4

/-- `div_ceil(DISPATCH_BATCH)`, and at least one. -/
def channelCapacity (batchSize : Nat) : Nat := max ((batchSize + (dispatchBatch - 1)) / dispatchBatch) 1

/-- The capacity of the statistics channel. -/
def statisticsCapacity : Nat := 8

abbrev Entries := List ObservedEntry

/-! ### Saving -/

inductive SaveAction where
  | capture
  | restore
  | manifestOnly
deriving DecidableEq, Repr

/-- The working tables, the sealed snapshots by token, and the saved manifests. -/
structure Database where
  written : List Entries
  snapshots : List (List Entries)
  manifests : List ScanResumeState
deriving DecidableEq, Repr

structure SaveState where
  state : ScanResumeState
  action : SaveAction
deriving DecidableEq, Repr

/-- `SaveState::execute`: the database afterwards and the acknowledged state. -/
def SaveState.execute (command : SaveState) (database : Database) : Option (Database × ScanResumeState) :=
  match command.action with
  | .restore => (database.snapshots[command.state.checkpointSnapshot]?).map fun sealed =>
      ({ database with written := sealed }, command.state)
  | .capture =>
      let state := { command.state with checkpointSnapshot := database.snapshots.length }
      some ({ database with
        snapshots := database.snapshots ++ [database.written]
        manifests := database.manifests ++ [state] }, state)
  | .manifestOnly => some ({ database with manifests := database.manifests ++ [command.state] }, command.state)

/-- What the writer shares with the producer: the channel of observations, the acknowledged
barriers, the command channel with its answer, and the cancellation. -/
structure Port where
  queue : List (Delivery ObservedEntry)
  closed : Bool
  acknowledged : List Nat
  control : Option SaveState
  reply : Option ScanResumeState
  database : Database
  cancelled : Bool
deriving DecidableEq, Repr

namespace Port

/-- `flush_batch`: an empty batch writes nothing. -/
def flush (port : Port) (batch : Entries) : Port :=
  if batch.isEmpty then port
  else { port with database := { port.database with written := port.database.written ++ [sortBatch batch] } }

/-- `recv` leaves the rest of the channel. -/
def take (port : Port) (rest : List (Delivery ObservedEntry)) : Port := { port with queue := rest }

def acknowledge (port : Port) (ticket : Nat) : Port :=
  { port with acknowledged := ticket :: port.acknowledged }

def execute (port : Port) (command : SaveState) : Option Port :=
  (command.execute port.database).map fun saved =>
    { port with control := none, database := saved.1, reply := some saved.2 }

end Port

/-! ### Batches -/

/-- What follows a flush: the other entries of the delivery, an answer, or the end. -/
inductive AfterFlush where
  | entries (rest : Entries)
  | acknowledge (ticket : Nat)
  | finish
deriving DecidableEq, Repr

inductive BatchPhase where
  | receiving
  | flushing (next : AfterFlush)
  | finished
  | failed
deriving DecidableEq, Repr

/-- The loop that `write` and `work` share. -/
structure BatchWriter where
  batch : Entries
  phase : BatchPhase
deriving DecidableEq, Repr

namespace BatchWriter

def new : BatchWriter := ⟨[], .receiving⟩

section Size

variable (batchSize : Nat)

/-- Entries join the batch until it is full. -/
def fill (batch : Entries) : Entries → BatchWriter
  | [] => ⟨batch, .receiving⟩
  | entry :: rest =>
      if batchSize ≤ (batch ++ [entry]).length then ⟨batch ++ [entry], .flushing (.entries rest)⟩
      else fill (batch ++ [entry]) rest

/-- What `recv` returned; nothing once the channel is closed and empty. -/
def receive (writer : BatchWriter) : Option (Delivery ObservedEntry) → BatchWriter
  | some (.data entries) => fill batchSize writer.batch entries
  | some (.barrier ticket) => ⟨writer.batch, .flushing (.acknowledge ticket)⟩
  | none => ⟨writer.batch, .flushing .finish⟩

/-- The flush has returned and the batch is cleared. -/
def afterFlush : AfterFlush → BatchWriter
  | .entries rest => fill batchSize [] rest
  | .acknowledge _ => ⟨[], .receiving⟩
  | .finish => ⟨[], .finished⟩

end Size

def ended (writer : BatchWriter) : Bool := writer.phase = .finished || writer.phase = .failed

/-- What the writer has received and not written. -/
def held (writer : BatchWriter) : Entries :=
  match writer.phase with
  | .flushing (.entries rest) => writer.batch ++ rest
  | .failed => []
  | _ => writer.batch

/-- The barrier that the current flush is for. -/
def handling (writer : BatchWriter) : Option Nat :=
  match writer.phase with
  | .flushing (.acknowledge ticket) => some ticket
  | _ => none

end BatchWriter

/-- The head of a channel, if something can be received from it. -/
def received (queue : List (Delivery ObservedEntry)) (closed : Bool) :
    Option (Option (Delivery ObservedEntry) × List (Delivery ObservedEntry)) :=
  match queue with
  | delivery :: rest => some (some delivery, rest)
  | [] => if closed then some (none, []) else none

/-! ### The router and its workers -/

structure Worker where
  queue : List (Delivery ObservedEntry)
  acknowledged : List Nat
  writer : BatchWriter
deriving DecidableEq, Repr

/-- Where `route` waits: at `select!`, in `deliver` for a full chunk, in `flush_pending`, or in
the two loops of `barrier`. -/
inductive RouterPhase where
  | selecting
  | delivering (index : Nat) (rest : Entries)
  | flushing (index : Nat) (answer : Option Nat)
  | announcing (index : Nat) (answer : Nat)
  | awaiting (index : Nat) (answer : Nat)
  | finished
  | failed
deriving DecidableEq, Repr

/-- `ticket` numbers the barriers that the router asks of its workers. -/
structure Router where
  phase : RouterPhase
  pending : List Entries
  workers : List Worker
  ticket : Nat
deriving DecidableEq, Repr

/-- `write`, or `consume` of `workers.rs`. -/
inductive Writer where
  | single (writer : BatchWriter)
  | routed (router : Router)
deriving DecidableEq, Repr

inductive WriterAction where
  | select
  | flush
  | fail
  | receive (worker : Nat)
  | flushWorker (worker : Nat)
  | failWorker (worker : Nat)
deriving DecidableEq, Repr

/-- The key that the router hashes: that of the first version, if there is a history. -/
def routeKey (entry : ObservedEntry) : RelativePath :=
  ObservedItem.pathKey ⟨entry, entry.history.map fun _ => 0⟩

section Code

variable (hash : RelativePath → Nat) (batchSize : Nat) (methods : EntryKindMethods)

/-- The index that `dispatch` computes; `hash` is `FxHasher`. -/
def workerOf (entry : ObservedEntry) : Nat := hash (routeKey entry) % workerCount

/-- The loop of `dispatch` up to the next full chunk. -/
def dispatch (pending : List Entries) : Entries → List Entries × RouterPhase
  | [] => (pending, .selecting)
  | entry :: rest =>
      let index := workerOf hash entry
      let chunk := pending.getD index [] ++ [entry]
      if dispatchBatch ≤ chunk.length then (pending.set index chunk, .delivering index rest)
      else dispatch (pending.set index chunk) rest

namespace Router

def new : Router :=
  ⟨.selecting, List.replicate workerCount [], List.replicate workerCount ⟨[], [], .new⟩, 0⟩

def ended (router : Router) : Bool := router.phase = .finished || router.phase = .failed

/-- A chunk or a barrier is sent to a worker that still listens and has room. -/
def tell (router : Router) (index : Nat) (delivery : Delivery ObservedEntry) : Option (List Worker) :=
  match router.workers[index]? with
  | some worker =>
      if !worker.writer.ended && worker.queue.length < channelCapacity batchSize then
        some (router.workers.set index { worker with queue := worker.queue ++ [delivery] })
      else none
  | none => none

/-- The router goes on with what `dispatch` makes of the entries. -/
def goOn (router : Router) (workers : List Worker) (pending : List Entries) (entries : Entries) : Router :=
  let next := dispatch hash pending entries
  { router with workers, pending := next.1, phase := next.2 }

/-- One step of `route`. -/
def step (router : Router) (port : Port) : Option (Router × Port) :=
  match router.phase with
  | .selecting =>
      if port.cancelled || router.workers.any fun worker => worker.writer.ended then none
      else
        match port.control with
        | some command => (port.execute command).map fun port => (router, port)
        | none =>
            (received port.queue port.closed).map fun next =>
              (match next.1 with
                | some (.data entries) => router.goOn hash router.workers router.pending entries
                | some (.barrier ticket) => { router with phase := .flushing 0 (some ticket) }
                | none => { router with phase := .flushing 0 none }, port.take next.2)
  | .delivering index rest =>
      (router.tell batchSize index (.data (router.pending.getD index []))).map fun workers =>
        (router.goOn hash workers (router.pending.set index []) rest, port)
  | .flushing index answer =>
      match router.pending[index]?, answer with
      | some [], _ => some ({ router with phase := .flushing (index + 1) answer }, port)
      | some (first :: chunk), _ =>
          (router.tell batchSize index (.data (first :: chunk))).map fun workers =>
            ({ router with
              workers
              pending := router.pending.set index []
              phase := .flushing (index + 1) answer }, port)
      | none, some ticket => some ({ router with phase := .announcing 0 ticket }, port)
      | none, none => some ({ router with phase := .finished }, port)
  | .announcing index answer =>
      if index < router.workers.length then
        (router.tell batchSize index (.barrier router.ticket)).map fun workers =>
          ({ router with workers, phase := .announcing (index + 1) answer }, port)
      else some ({ router with phase := .awaiting 0 answer }, port)
  | .awaiting index answer =>
      match router.workers[index]? with
      | some worker =>
          if router.ticket ∈ worker.acknowledged then
            some ({ router with phase := .awaiting (index + 1) answer }, port)
          else none
      | none =>
          some ({ router with phase := .selecting, ticket := router.ticket + 1 }, port.acknowledge answer)
  | .finished | .failed => none

end Router

namespace Worker

/-- A worker at its channel, which is closed once the router has ended. -/
def receive (worker : Worker) (closed : Bool) : Option Worker :=
  if worker.writer.phase = .receiving then
    (received worker.queue closed).map fun next =>
      { worker with queue := next.2, writer := worker.writer.receive batchSize next.1 }
  else none

/-- A worker whose flush has returned. -/
def flush (worker : Worker) : Option (Worker × Entries) :=
  match worker.writer.phase with
  | .flushing next =>
      let worker' := { worker with writer := BatchWriter.afterFlush batchSize next }
      some (match next with
        | .acknowledge ticket => { worker' with acknowledged := ticket :: worker.acknowledged }
        | _ => worker', worker.writer.batch)
  | _ => none

def fail (worker : Worker) : Option Worker :=
  if worker.writer.ended then none else some { worker with writer := { worker.writer with phase := .failed } }

end Worker

namespace Writer

/-- One step of the writer's tasks. A task fails where its database request does, or where it
sees the cancellation or a closed channel. -/
def step (writer : Writer) (port : Port) : WriterAction → Option (Writer × Port)
  | .select =>
      match writer with
      | .single writer =>
          if port.cancelled || writer.phase ≠ .receiving then none
          else
            match port.control with
            | some command => (port.execute command).map fun port => (.single writer, port)
            | none =>
                (received port.queue port.closed).map fun next =>
                  (.single (writer.receive batchSize next.1), port.take next.2)
      | .routed router => (router.step hash batchSize port).map fun next => (.routed next.1, next.2)
  | .flush =>
      match writer with
      | .single writer =>
          match writer.phase with
          | .flushing next =>
              let port := port.flush writer.batch
              some (.single (BatchWriter.afterFlush batchSize next),
                match next with
                | .acknowledge ticket => port.acknowledge ticket
                | _ => port)
          | _ => none
      | .routed _ => none
  | .fail =>
      match writer with
      | .single writer =>
          if writer.ended then none
          else some (.single { writer with phase := .failed }, port)
      | .routed router =>
          if router.ended then none
          else some (.routed { router with phase := .failed }, port)
  | .receive index =>
      match writer with
      | .single _ => none
      | .routed router =>
          if port.cancelled then none
          else
            ((router.workers[index]?).bind fun worker => worker.receive batchSize router.ended).map fun worker =>
              (.routed { router with workers := router.workers.set index worker }, port)
  | .flushWorker index =>
      match writer with
      | .single _ => none
      | .routed router =>
          ((router.workers[index]?).bind fun worker => worker.flush batchSize).map fun next =>
            (.routed { router with workers := router.workers.set index next.1 }, port.flush next.2)
  | .failWorker index =>
      match writer with
      | .single _ => none
      | .routed router =>
          ((router.workers[index]?).bind Worker.fail).map fun worker =>
            (.routed { router with workers := router.workers.set index worker }, port)

/-- The writer's end of the channel is still there. -/
def listening : Writer → Bool
  | .single writer => !writer.ended
  | .routed router => !router.ended

/-- The result of the writer is `Ok`. -/
def succeeded : Writer → Bool
  | .single writer => writer.phase = .finished
  | .routed router => router.phase = .finished && router.workers.all fun worker => worker.writer.phase = .finished

/-- A task of the writer has failed. -/
def failed : Writer → Bool
  | .single writer => writer.phase = .failed
  | .routed router => router.phase = .failed || router.workers.any fun worker => worker.writer.phase = .failed

end Writer

/-! ### The producer -/

inductive ScanItem where
  | resumed (checkpoint : Option (List UInt8))
  | entry (entry : ObservedEntry)
  | statistics (value : DirectoryStatistics)
  | checkpoint (cursor : List UInt8)
deriving DecidableEq, Repr

inductive SaveCause where
  | resumed (checkpoint : Option (List UInt8))
  | checkpoint (cursor : List UInt8)
  | final
deriving DecidableEq, Repr

/-- Where the producer waits: in `ObservedForwarder::send` with some permits, in the two loops
of `ObservedForwarder::barrier`, behind the barrier, or in the two halves of `save`. -/
inductive ProducerPhase where
  | ready
  | reserving (permits : Nat) (chunk : Entries)
  | announcing (told : Nat)
  | awaiting (heard : Nat)
  | stamping
  | submitting (action : SaveAction)
  | confirming
  | finished
  | failed
deriving DecidableEq, Repr

/-- The item in work may ask to `deliver` what is pending and then to save. `items` is the rest of
the batch, `ticket` numbers the barriers, and `consumed` is what the source has delivered, with
`none` for its end. -/
structure Producer where
  phase : ProducerPhase
  deliver : Bool
  saving : Option SaveCause
  items : List ScanItem
  pending : Entries
  snapshotMatchesFacts : Bool
  state : ScanResumeState
  progress : ScanProgress
  ticket : Nat
  consumed : List (Option ScanItem)
deriving DecidableEq, Repr

/-- `count`: what it is recording, and the statistics that it shares with the producer: the
snapshot, and the entries that it has recorded in the distributions. -/
structure Statistics where
  queue : List (Delivery ObservedEntry)
  acknowledged : List Nat
  recording : Option Entries
  recorded : Entries
  snapshot : ScanSnapshot
  finished : Bool
deriving DecidableEq, Repr

structure State where
  producer : Producer
  port : Port
  writer : Writer
  statistics : Statistics
deriving DecidableEq, Repr

inductive Action where
  | receive (batch : List ScanItem)
  | sourceEnded
  | tick
  | item
  | call
  | reserve
  | announce
  | hear
  | stamp
  | submit
  | confirm
  | abort
  | cancel
  | count
  | record
  | writer (action : WriterAction)
deriving DecidableEq, Repr

namespace Producer

def ended (producer : Producer) : Bool := producer.phase = .finished || producer.phase = .failed

/-- No call is due. -/
def idle (producer : Producer) : Bool :=
  producer.phase = .ready && !producer.deliver && producer.saving.isNone

/-- At the select of the loop. -/
def atSelect (producer : Producer) : Bool := producer.idle && producer.items.isEmpty

/-- The next call that is due. -/
def call (producer : Producer) : Option Producer :=
  if producer.phase ≠ .ready then none
  else if producer.deliver then
    some (if producer.pending.isEmpty then { producer with deliver := false }
      else { producer with deliver := false, pending := [], phase := .reserving 0 producer.pending })
  else producer.saving.map fun _ => { producer with phase := .announcing 0 }

/-- The state and the action to save, once the barrier has returned. -/
def stamp (producer : Producer) (statistics : Statistics) : SaveCause → Option (ScanResumeState × SaveAction)
  | .resumed _ => some (producer.state, .restore)
  | .checkpoint cursor =>
      producer.progress.checkpointCounts.bind fun counts =>
        let state := { producer.state with
          checkpoint := cursor
          observedEntries := methods.total counts.scanned
          statistics := some ⟨statistics.snapshot.forPrefix methods counts, []⟩ }
        state.advance.map fun state => (state, if producer.snapshotMatchesFacts then .manifestOnly else .capture)
  | .final =>
      if !producer.progress.active.isEmpty then none
      else
        let state := { producer.state with
          phase := .finalizing
          observedEntries := statistics.snapshot.scannedEntries
          statistics := some ⟨{ statistics.snapshot with complete := true }, statistics.recorded⟩ }
        state.advance.map fun state => (state, if producer.snapshotMatchesFacts then .manifestOnly else .capture)

/-- `save` has returned; behind the last one `produce_items` returns. -/
def saved (producer : Producer) (state : ScanResumeState) : Producer :=
  { producer with
    phase := if producer.saving = some .final then .finished else .ready
    saving := none
    snapshotMatchesFacts := true
    state }

end Producer

namespace State

/-- `produce_items` returns an error. -/
def fail (state : State) : State :=
  { state with
    producer := { state.producer with phase := .failed }
    port := { state.port with closed := true } }

/-- The counts that the producer keeps for the source, as their own model has them. -/
def scan (state : State) : Scan.Statistics.State := ⟨state.producer.progress, state.statistics.snapshot, []⟩

/-- What the loop makes of an item before it waits. -/
def takeItem (state : State) (item : ScanItem) (rest : List ScanItem) : State :=
  let producer := { state.producer with items := rest, consumed := state.producer.consumed ++ [some item] }
  match item with
  | .resumed checkpoint => { state with producer := { producer with pending := [], saving := some (.resumed checkpoint) } }
  | .entry entry =>
      { state with producer := { producer with
        snapshotMatchesFacts := false
        pending := producer.pending ++ [entry]
        deliver := decide (dispatchBatch ≤ (producer.pending ++ [entry]).length) } }
  | .statistics value =>
      match Scan.Statistics.push methods state.scan value with
      | some counted =>
          { state with
            producer := { producer with progress := counted.progress }
            statistics := { state.statistics with snapshot := counted.snapshot } }
      | none => fail { state with producer }
  | .checkpoint cursor => { state with producer := { producer with deliver := true, saving := some (.checkpoint cursor) } }

/-- The command is made up; the end of the scan is also noted in the snapshot. -/
def stamp (state : State) (cause : SaveCause) : State :=
  match state.producer.stamp methods state.statistics cause with
  | some stamped =>
      { state with
        producer := { state.producer with state := stamped.1, phase := .submitting stamped.2 }
        statistics := { state.statistics with
          snapshot :=
            if cause = .final then { state.statistics.snapshot with complete := true }
            else state.statistics.snapshot } }
  | none => state.fail

/-- What follows a save: the progress confirms its checkpoint, or goes back to the last one
together with the statistics. -/
def confirm (state : State) (saved : ScanResumeState) : State :=
  let after : State := { state with producer := state.producer.saved saved }
  let after :=
    match state.producer.saving with
    | some (.checkpoint cursor) =>
        { after with producer := { after.producer with progress := after.producer.progress.confirm cursor } }
    | some (.resumed checkpoint) =>
        match Scan.Statistics.resumed methods state.scan checkpoint with
        | some counted =>
            { after with
              producer := { after.producer with progress := counted.progress }
              statistics := { after.statistics with snapshot := counted.snapshot, recorded := [] } }
        | none => after.fail
    | _ => after
  { after with port := { after.port with reply := none, closed := after.producer.ended } }

end State

/-- The producer's step of the loop or of a call. -/
def produce (state : State) (action : Action) : Option State :=
  let producer := state.producer
  match action with
  | .receive batch =>
      if producer.atSelect && !state.port.cancelled then
        some { state with producer := { producer with items := batch } }
      else none
  | .sourceEnded =>
      if producer.atSelect && !state.port.cancelled then
        some { state with
          producer := { producer with
            deliver := true, saving := some .final, consumed := producer.consumed ++ [none] } }
      else none
  | .tick =>
      if producer.atSelect && !state.port.cancelled && !producer.pending.isEmpty then
        some { state with producer := { producer with deliver := true } }
      else none
  | .item =>
      match producer.items with
      | item :: rest =>
          if producer.idle then some (state.takeItem methods item rest) else none
      | [] => none
  | .call => producer.call.map fun producer => { state with producer }
  | .reserve =>
      match producer.phase with
      | .reserving 0 chunk =>
          if !state.port.cancelled && state.writer.listening &&
              state.port.queue.length < channelCapacity batchSize then
            some { state with producer := { producer with phase := .reserving 1 chunk } }
          else none
      | .reserving _ chunk =>
          if !state.port.cancelled && state.statistics.queue.length < statisticsCapacity then
            some { state with
              producer := { producer with phase := .ready }
              port := { state.port with queue := state.port.queue ++ [.data chunk] }
              statistics := { state.statistics with queue := state.statistics.queue ++ [.data chunk] } }
          else none
      | _ => none
  | .announce =>
      match producer.phase with
      | .announcing 0 =>
          if !state.port.cancelled && state.writer.listening &&
              state.port.queue.length < channelCapacity batchSize then
            some { state with
              producer := { producer with phase := .announcing 1 }
              port := { state.port with queue := state.port.queue ++ [.barrier producer.ticket] } }
          else none
      | .announcing _ =>
          if !state.port.cancelled && state.statistics.queue.length < statisticsCapacity then
            some { state with
              producer := { producer with phase := .awaiting 0 }
              statistics := { state.statistics with
                queue := state.statistics.queue ++ [.barrier producer.ticket] } }
          else none
      | _ => none
  | .hear =>
      match producer.phase with
      | .awaiting 0 =>
          if !state.port.cancelled && producer.ticket ∈ state.port.acknowledged then
            some { state with producer := { producer with phase := .awaiting 1 } }
          else none
      | .awaiting _ =>
          if !state.port.cancelled && producer.ticket ∈ state.statistics.acknowledged then
            some { state with producer := { producer with phase := .stamping, ticket := producer.ticket + 1 } }
          else none
      | _ => none
  | .stamp =>
      match producer.phase, producer.saving with
      | .stamping, some cause => some (state.stamp methods cause)
      | _, _ => none
  | .submit =>
      match producer.phase with
      | .submitting action =>
          if !state.port.cancelled && state.writer.listening && state.port.control.isNone then
            some { state with
              producer := { producer with phase := .confirming }
              port := { state.port with control := some ⟨producer.state, action⟩, reply := none } }
          else none
      | _ => none
  | .confirm =>
      match producer.phase, state.port.reply with
      | .confirming, some saved =>
          if state.port.cancelled then none else some (state.confirm methods saved)
      | _, _ => none
  | .abort =>
      if producer.ended then none else some state.fail
  | .count | .record | .writer _ | .cancel => none

/-- A step of `count`. -/
def countStep (statistics : Statistics) (closed : Bool) : Option Statistics :=
  if statistics.finished || statistics.recording.isSome then none
  else
    (received statistics.queue closed).map fun next =>
      match next.1 with
      | some (.data entries) => { statistics with queue := next.2, recording := some entries }
      | some (.barrier ticket) =>
          { statistics with queue := next.2, acknowledged := ticket :: statistics.acknowledged }
      | none => { statistics with finished := true }

/-- `record_observations`: only distributions that are complete so far take further entries, and
histories are not in them. -/
def Statistics.record (statistics : Statistics) (entries : Entries) : Statistics :=
  { statistics with
    recording := none
    recorded :=
      if statistics.snapshot.distributionsComplete then
        statistics.recorded ++ entries.filter fun entry => entry.history.isNone
      else statistics.recorded }

/-- The scan is cancelled by the user, by the failure watch or after the failure of a task. -/
def step (state : State) : Action → Option State
  | .cancel => some { state with port := { state.port with cancelled := true } }
  | .count => (countStep state.statistics state.port.closed).map fun statistics => { state with statistics }
  | .record =>
      state.statistics.recording.map fun entries => { state with statistics := state.statistics.record entries }
  | .writer action =>
      (state.writer.step hash batchSize state.port action).map fun next =>
        { state with writer := next.1, port := next.2 }
  | action => produce batchSize methods state action

/-- `consume`, with a writer of either kind. -/
def machine : Lib.Machine State Action := ⟨step hash batchSize methods⟩

end Code

/-- A cluster store has a template for parallel batches, a single store has none. -/
def Writer.new (template : Bool) : Writer := if template then .routed .new else .single .new

/-- The statistics that `restore_statistics` brings back for a saved state, and the progress over
them. Only a scan with resumption goes block by block. -/
def origin (resume : Bool) (state : ScanResumeState) : Scan.Statistics.State :=
  Scan.Statistics.start (if resume then .blocks else .unordered)
    ((state.statistics.map StatisticsCheckpoint.snapshot).getD .new)
    (if state.checkpoint.isEmpty then none else some state.checkpoint)

def loaded (state : ScanResumeState) : Entries := (state.statistics.map StatisticsCheckpoint.distributions).getD []

/-- A scan begins on tables that its first snapshot shows. -/
def start (template resume : Bool) (state : ScanResumeState) : State where
  producer :=
    { phase := .ready, deliver := false, saving := none, items := [], pending := [], snapshotMatchesFacts := false
      state := { state with phase := .running, checkpointSnapshot := 0 }
      progress := (origin resume state).progress, ticket := 0, consumed := [] }
  port := ⟨[], false, [], none, none, ⟨[], [[]], []⟩, false⟩
  writer := .new template
  statistics :=
    { queue := [], acknowledged := [], recording := none, recorded := loaded state
      snapshot := (origin resume state).snapshot, finished := false }

end Terrasync.App.ScanPipeline
