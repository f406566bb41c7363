import Terrasync.App.ScanRouter

/-! The accounts of a scan: what the source has delivered before each of its checkpoints, what
is in flight, in the two channels and in the tables, and what the next save is for. The two
consumers keep the accounts, and so does a save. -/

set_option autoImplicit false

namespace Terrasync.App.ScanPipeline

open Lib (Delivery Stage contents SameOrder)
open Scan (ScanResumeState StatisticsCheckpoint)
open Scan.Statistics (EntryKindMethods)

/-! ### What a checkpoint stands for -/

/-- A checkpoint of the source, or its end, with the entries before it since the last point to
which the scan went back, and what the counts save for it. -/
structure Cut where
  cursor : Option (List UInt8)
  content : Entries
  counted : Option Scan.Statistics.SavedCheckpoint
deriving DecidableEq, Repr

/-- `base` is the content to which the scan went back last, `distributions` what the distributions
held then; `scan` is nothing once the counts have refused an item. -/
structure Ledger where
  current : Entries
  saved : Entries
  base : Entries
  distributions : Entries
  cuts : List Cut
  scan : Option Scan.Statistics.State
deriving DecidableEq, Repr

namespace Ledger

def cut (ledger : Ledger) (cursor : Option (List UInt8)) (scan : Option Scan.Statistics.State) : Ledger :=
  { ledger with
    saved := ledger.current
    scan
    cuts := ledger.cuts ++ [⟨cursor, ledger.current, scan.bind fun scan => scan.saved.getLast?⟩] }

/-- An item of the source, or its end. After `Resumed` the entries behind the last checkpoint
come again. -/
def take (methods : EntryKindMethods) (ledger : Ledger) : Option ScanItem → Ledger
  | some (.resumed checkpoint) =>
      { ledger with
        current := ledger.saved
        base := ledger.saved
        distributions := []
        scan := ledger.scan.bind fun scan => Scan.Statistics.resumed methods scan checkpoint }
  | some (.entry entry) => { ledger with current := ledger.current ++ [entry] }
  | some (.statistics value) =>
      { ledger with scan := ledger.scan.bind fun scan => Scan.Statistics.push methods scan value }
  | some (.checkpoint cursor) =>
      ledger.cut (some cursor) (ledger.scan.bind fun scan => Scan.Statistics.checkpoint methods scan cursor)
  | none => ledger.cut none (ledger.scan.bind Scan.Statistics.finish)

end Ledger

/-- Where a scan begins. -/
structure Origin where
  resume : Bool
  state : ScanResumeState

def Origin.ledger (origin : Origin) : Ledger :=
  ⟨[], [], [], loaded origin.state, [], some (ScanPipeline.origin origin.resume origin.state)⟩

def ledger (methods : EntryKindMethods) (origin : Origin) (consumed : List (Option ScanItem)) : Ledger :=
  consumed.foldl (Ledger.take methods) origin.ledger

@[simp] theorem ledger_concat (methods : EntryKindMethods) (origin : Origin) (consumed : List (Option ScanItem))
    (item : Option ScanItem) :
    ledger methods origin (consumed ++ [item]) = (ledger methods origin consumed).take methods item := by
  simp only [ledger, List.foldl_append, List.foldl_cons, List.foldl_nil]

/-- What the counts see of an item, or of the end. -/
def countEvent : Option ScanItem → List Scan.Statistics.Event
  | some (.resumed checkpoint) => [.resumed checkpoint]
  | some (.entry _) => []
  | some (.statistics value) => [.push value]
  | some (.checkpoint cursor) => [.checkpoint cursor]
  | none => [.finish]

def countEvents (consumed : List (Option ScanItem)) : List Scan.Statistics.Event := consumed.flatMap countEvent

/-- The counts of the ledger are a run of the counts of their own. -/
theorem ledger_scan (methods : EntryKindMethods) (origin : Origin) (consumed : List (Option ScanItem)) :
    (ledger methods origin consumed).scan =
      (Scan.Statistics.machine methods).exec (ScanPipeline.origin origin.resume origin.state)
        (countEvents consumed) := by
  induction consumed using List.reverseRecOn with
  | nil => rfl
  | append_singleton rest item ih =>
      rw [ledger_concat, countEvents, List.flatMap_append, Lib.Machine.exec_append, ← countEvents, ← ih]
      simp only [List.flatMap_cons, List.flatMap_nil, List.append_nil]
      cases item with
      | none => exact Option.bind_congr fun scan _ => (Option.bind_fun_some _).symm
      | some item =>
          cases item with
          | entry _ => exact (Option.bind_fun_some _).symm
          | resumed _ => exact Option.bind_congr fun scan _ => (Option.bind_fun_some _).symm
          | statistics _ => exact Option.bind_congr fun scan _ => (Option.bind_fun_some _).symm
          | checkpoint _ => exact Option.bind_congr fun scan _ => (Option.bind_fun_some _).symm

/-- The state carries the counts that are saved. -/
def Records (state : ScanResumeState) (counted : Option Scan.Statistics.SavedCheckpoint) : Prop :=
  ∃ saved, counted = some saved ∧ state.observedEntries = saved.observedEntries ∧
    state.statistics.map StatisticsCheckpoint.snapshot = some saved.snapshot

/-- The state names the checkpoint, or says that the scan is over, and carries its counts. -/
def Stamped (state : ScanResumeState) (cut : Cut) : Prop :=
  (match cut.cursor with
    | some cursor => state.checkpoint = cursor
    | none => state.phase = .finalizing) ∧
  Records state cut.counted

/-- The snapshot of the state holds the entries, in their order at every place. -/
def Seals (database : Database) (state : ScanResumeState) (entries : Entries) : Prop :=
  ∃ sealed, database.snapshots[state.checkpointSnapshot]? = some sealed ∧
    SameOrder place sealed.flatten entries

structure Matches (database : Database) (manifest : ScanResumeState) (cut : Cut) : Prop where
  stamped : Stamped manifest cut
  seals : Seals database manifest cut.content

theorem Seals.mono {database later : Database} {state : ScanResumeState} {entries : Entries}
    (seals : Seals database state entries) (more : ∃ rest, later.snapshots = database.snapshots ++ rest) :
    Seals later state entries := by
  obtain ⟨sealed, found, same⟩ := seals
  obtain ⟨rest, grown⟩ := more
  refine ⟨sealed, ?_, same⟩
  rw [grown, List.getElem?_append_left (List.getElem?_eq_some_iff.1 found).1]
  exact found

theorem Matches.mono {database later : Database} {manifest : ScanResumeState} {cut : Cut}
    (matched : Matches database manifest cut) (more : ∃ rest, later.snapshots = database.snapshots ++ rest) :
    Matches later manifest cut :=
  ⟨matched.stamped, matched.seals.mono more⟩

/-! ### Where the producer is -/

namespace ProducerPhase

/-- The writer's barrier is in its channel or beyond, or the producer is gone. -/
def told : ProducerPhase → Bool → Prop
  | .announcing told, announced => announced = decide (0 < told)
  | .awaiting _, announced => announced = true
  | .failed, _ => True
  | _, announced => announced = false

/-- The same of the barrier of the statistics. -/
def counted : ProducerPhase → Bool → Prop
  | .awaiting _, announced => announced = true
  | .failed, _ => True
  | _, announced => announced = false

/-- The writer has answered. -/
def heard : ProducerPhase → Prop
  | .awaiting (_ + 1) => True
  | _ => False

/-- A barrier has returned and nothing was sent since. -/
def drained : ProducerPhase → Prop
  | .stamping | .submitting _ | .confirming | .finished => True
  | _ => False

/-- A save is under way. -/
def saving : ProducerPhase → Prop
  | .announcing _ | .awaiting _ | .stamping | .submitting _ | .confirming => True
  | _ => False

/-- The command is made up and not acknowledged. -/
def stamped : ProducerPhase → Bool
  | .submitting _ | .confirming => true
  | _ => false

/-- The chunk that waits for permits. -/
def chunk : ProducerPhase → Entries
  | .reserving _ chunk => chunk
  | _ => []

end ProducerPhase

/-- Entries that are consumed and not sent. -/
def Producer.flight (producer : Producer) : Entries := producer.phase.chunk ++ producer.pending

/-- The save that is still to be executed. -/
def State.due (state : State) : Option SaveCause :=
  if state.port.reply.isSome then none else state.producer.saving

def SaveCause.cursor : SaveCause → Option (List UInt8)
  | .checkpoint cursor => some cursor
  | _ => none

/-- What the source delivered to ask for the save. -/
def SaveCause.item : SaveCause → Option ScanItem
  | .resumed selected => some (.resumed selected)
  | .checkpoint cursor => some (.checkpoint cursor)
  | .final => none

def SaveCause.resumes : SaveCause → Bool
  | .resumed _ => true
  | _ => false

/-- The scan is going back and has not confirmed it. -/
def Producer.resuming (producer : Producer) : Bool := producer.saving.any SaveCause.resumes

/-- The ledger of the source against what was delivered since the last restore and what the
last executed save stands for. -/
inductive Book (ledger : Ledger) (flight delivered sealed : Entries) (executed : List Cut) :
    Option SaveCause → Prop
  | settled : ledger.current = delivered ++ flight → ledger.saved = sealed → ledger.cuts = executed →
      Book ledger flight delivered sealed executed none
  | restoring (checkpoint : Option (List UInt8)) : flight = [] → ledger.current = sealed →
      ledger.saved = sealed → ledger.cuts = executed →
      Book ledger flight delivered sealed executed (some (.resumed checkpoint))
  | cutting (cause : SaveCause) (counted : Option Scan.Statistics.SavedCheckpoint) : cause.resumes = false →
      ledger.current = delivered ++ flight → ledger.saved = ledger.current →
      ledger.cuts = executed ++ [⟨cause.cursor, ledger.current, counted⟩] →
      Book ledger flight delivered sealed executed (some cause)

/-- What a command that is sent or about to be sent relies on. -/
inductive Asked (database : Database) (ledger : Ledger) (delivered sealed : Entries) (executed : List Cut)
    (state : ScanResumeState) : SaveAction → Prop
  | restore : ledger.cuts = executed → Seals database state sealed →
      Asked database ledger delivered sealed executed state .restore
  | capture (cut : Cut) : ledger.cuts = executed ++ [cut] → Stamped state cut → cut.content = delivered →
      Asked database ledger delivered sealed executed state .capture
  | manifestOnly (cut : Cut) : ledger.cuts = executed ++ [cut] → Stamped state cut →
      cut.content = delivered → delivered = sealed → Seals database state sealed →
      Asked database ledger delivered sealed executed state .manifestOnly

/-- The accounts of a producer that has not failed. -/
structure Account (methods : EntryKindMethods) (origin : Origin) (state : State) (delivered sealed : Entries)
    (executed : List Cut) : Prop where
  book : Book (ledger methods origin state.producer.consumed) state.producer.flight delivered sealed executed state.due
  unchanged : state.producer.snapshotMatchesFacts = true → state.due.any SaveCause.resumes = false →
    delivered = sealed ∧ state.producer.flight = []
  delivering : state.producer.deliver = true → state.producer.phase = .ready
  saving : state.producer.phase.saving → state.producer.saving.isSome = true
  emptied : state.producer.saving.isSome = true → state.producer.deliver = false → state.producer.pending = []
  finished : state.producer.phase = .finished → state.producer.saving = none ∧ state.producer.pending = []
  confirming : state.port.control.isSome = true ∨ state.port.reply.isSome = true ↔
    state.producer.phase = .confirming
  submitting : ∀ action, state.producer.phase = .submitting action →
    Asked state.port.database (ledger methods origin state.producer.consumed) delivered sealed executed
      state.producer.state action
  sealing : state.port.reply = none → Seals state.port.database state.producer.state sealed
  replied : ∀ saved, state.port.reply = some saved →
    Seals state.port.database saved sealed ∧ delivered = sealed ∧ state.producer.flight = []

/-! ### The two consumers -/

/-- The writer's side, while no task of it has failed. -/
structure WriterLane (hash : RelativePath → Nat) (port : Port) (writer : Writer) (phase : ProducerPhase)
    (ticket : Nat) (delivered : Entries) : Prop where
  sound : writer.Sound hash
  conserved : ∀ here, entriesAt here port.database.written.flatten ++ writer.heldAt hash here ++
    entriesAt here (contents port.queue) = entriesAt here delivered
  stage : ∃ announced, phase.told announced ∧ Stage ticket port.queue writer.handling port.acknowledged
    (∀ here, writer.heldAt hash here = []) announced
  heard : phase.heard → ticket ∈ port.acknowledged
  drained : phase.drained ∨ port.control.isSome = true →
    port.queue = [] ∧ writer.handling = none ∧ ∀ here, writer.heldAt hash here = []

/-- The entries that the distributions take. -/
def plain (entries : Entries) : Entries := entries.filter fun entry => entry.history.isNone

/-- The statistics' side. While the distributions are complete they hold the plain entries that
were delivered since the scan began or went back. -/
structure StatisticsLane (statistics : Statistics) (phase : ProducerPhase) (ticket : Nat) (resuming : Bool)
    (book : Ledger) (delivered : Entries) : Prop where
  counted : phase ≠ .failed → resuming = false → statistics.snapshot.distributionsComplete = true →
    ∃ fresh, delivered = book.base ++ fresh ∧
      statistics.recorded ++ plain (statistics.recording.getD []) ++ plain (contents statistics.queue) =
        book.distributions ++ plain fresh
  stage : ∃ announced, phase.counted announced ∧
    Stage ticket statistics.queue none statistics.acknowledged (statistics.recording = none) announced
  drained : phase.drained → statistics.queue = [] ∧ statistics.recording = none

/-- The counts allow the save. -/
def SaveCause.Counts (progress : Scan.Statistics.ScanProgress) : SaveCause → Prop
  | .resumed _ => True
  | .checkpoint _ => progress.checkpointCounts.isSome = true
  | .final => progress.active.isEmpty = true

/-- The producer's counts are those of the items before the save that is due. -/
structure Tallied (methods : EntryKindMethods) (origin : Origin) (state : State) : Prop where
  scan : state.producer.phase ≠ .failed → ∃ before saved snapshot,
    state.producer.consumed = before ++ state.producer.saving.toList.map SaveCause.item ∧
      (ledger methods origin before).scan = some ⟨state.producer.progress, snapshot, saved⟩ ∧
        state.statistics.snapshot =
          if state.producer.saving = some .final ∧ state.producer.phase.stamped then
            { snapshot with complete := true }
          else snapshot
  counts : state.producer.phase.stamped = true → ∀ cause, state.producer.saving = some cause →
    cause.Counts state.producer.progress

/-- What holds in every state that a scan reaches. -/
structure Inv (methods : EntryKindMethods) (origin : Origin) (hash : RelativePath → Nat) (state : State)
    (delivered sealed : Entries) (executed : List Cut) : Prop where
  manifests : List.Forall₂ (Matches state.port.database) state.port.database.manifests executed
  cuts : ∃ rest, rest.length ≤ 1 ∧ (ledger methods origin state.producer.consumed).cuts = executed ++ rest
  asked : ∀ command, state.port.control = some command →
    Asked state.port.database (ledger methods origin state.producer.consumed) delivered sealed executed
      command.state command.action
  single : state.port.control.isSome = true → state.port.reply = none
  account : state.producer.phase ≠ .failed → Account methods origin state delivered sealed executed
  lane : state.writer.failed = false →
    WriterLane hash state.port state.writer state.producer.phase state.producer.ticket delivered
  statistics : StatisticsLane state.statistics state.producer.phase state.producer.ticket state.producer.resuming
    (ledger methods origin state.producer.consumed) delivered
  tallied : Tallied methods origin state

/-! ### Moves of the consumers -/

section Lanes

variable {hash : RelativePath → Nat} {batchSize : Nat} {port next : Port} {writer after : Writer}
variable {phase : ProducerPhase} {ticket : Nat} {delivered : Entries}

/-- The writer's side does not look at the rest of the port, and the producer may go on where
its barrier is as before. -/
theorem WriterLane.relax {later : ProducerPhase} (lane : WriterLane hash port writer phase ticket delivered)
    (queue : next.queue = port.queue) (acknowledged : next.acknowledged = port.acknowledged)
    (database : next.database = port.database) (told : ∀ announced, phase.told announced → later.told announced)
    (heard : later.heard → phase.heard)
    (drained : later.drained ∨ next.control.isSome = true → phase.drained ∨ port.control.isSome = true) :
    WriterLane hash next writer later ticket delivered := by
  obtain ⟨announced, here, stage⟩ := lane.stage
  constructor
  · exact lane.sound
  · rw [queue, database]
    exact lane.conserved
  · refine ⟨announced, told announced here, ?_⟩
    rw [queue, acknowledged]
    exact stage
  · intro reached
    rw [acknowledged]
    exact lane.heard (heard reached)
  · intro reached
    rw [queue]
    exact lane.drained (drained reached)

theorem WriterLane.move (lane : WriterLane hash port writer phase ticket delivered)
    (moved : Moves port (writer.heldAt hash) writer.handling next (after.heldAt hash) after.handling)
    (sound : after.Sound hash) (same : Writer.SameSaves port next) :
    WriterLane hash next after phase ticket delivered := by
  obtain ⟨announced, told, stage⟩ := lane.stage
  have control := same.control
  generalize heldBefore : writer.heldAt hash = held at moved
  generalize handlingBefore : writer.handling = handling at moved
  generalize heldAfter : after.heldAt hash = left at moved
  generalize handlingAfter : after.handling = later at moved
  rw [heldBefore, handlingBefore] at stage
  have drained := lane.drained
  rw [heldBefore, handlingBefore] at drained
  have conserved := lane.conserved
  rw [heldBefore] at conserved
  suffices facts : (∀ here, entriesAt here next.database.written.flatten ++ left here ++
        entriesAt here (contents next.queue) = entriesAt here delivered) ∧
      Stage ticket next.queue later next.acknowledged (∀ here, left here = []) announced ∧
      (∀ earlier ∈ port.acknowledged, earlier ∈ next.acknowledged) ∧
      (port.queue = [] ∧ handling = none ∧ (∀ here, held here = []) →
        next.queue = [] ∧ later = none ∧ ∀ here, left here = []) by
    obtain ⟨kept, staged, answers, quiet⟩ := facts
    constructor
    · exact sound
    · rw [heldAfter]
      exact kept
    · rw [heldAfter, handlingAfter]
      exact ⟨announced, told, staged⟩
    · exact fun reached => answers _ (lane.heard reached)
    · intro reached
      rw [heldAfter, handlingAfter]
      rw [control] at reached
      exact quiet (drained reached)
  cases moved with
  | writes moved written split =>
      have empty (none_held : ∀ here, held here = []) (here : Place) : left here = [] := by
        have nothing := none_held here
        rw [split here] at nothing
        exact (List.append_eq_nil_iff.1 nothing).2
      refine ⟨?_, stage.imp fun _ _ => empty, fun _ member => member, fun quiet =>
        ⟨quiet.1, quiet.2.1, empty quiet.2.2⟩⟩
      intro here
      rw [← conserved here, split here]
      dsimp only
      rw [written here]
      simp only [List.append_assoc]
  | takes queue grown =>
      rw [queue] at stage
      refine ⟨?_, (stage.take_data _).1, fun _ member => member, fun quiet => ?_⟩
      · intro here
        rw [← conserved here, queue, grown here]
        simp only [Port.take, Lib.contents_cons, Delivery.items, entriesAt_append, List.append_assoc]
      · rw [quiet.1] at queue
        cases queue
  | hears queue kept =>
      rw [queue] at stage
      obtain ⟨staged, -, -, -⟩ := stage.take_barrier (∀ here, left here = [])
      refine ⟨?_, staged, fun _ member => member, fun quiet => ?_⟩
      · intro here
        rw [← conserved here, queue, kept here]
        simp only [Port.take, Lib.contents_cons, Delivery.items, List.nil_append]
      · rw [quiet.1] at queue
        cases queue
  | answers busy written empty =>
      rw [busy] at stage
      obtain ⟨staged, -, -, -⟩ := stage.acknowledge empty
      refine ⟨?_, staged, fun _ member => List.mem_cons_of_mem _ member, fun quiet => ?_⟩
      · intro here
        rw [← conserved here]
        dsimp only
        rw [written here, empty here, List.append_nil]
      · rw [quiet.2.1] at busy
        cases busy
  | executes asked executed =>
      obtain ⟨saved, -, rfl⟩ := Option.map_eq_some_iff.1 executed
      rw [asked] at control
      cases control

theorem plain_append (first second : Entries) : plain (first ++ second) = plain first ++ plain second :=
  List.filter_append ..

/-- The consumer of the statistics takes a delivery. -/
theorem StatisticsLane.count {statistics later : Statistics} {resuming closed : Bool} {book : Ledger}
    (lane : StatisticsLane statistics phase ticket resuming book delivered)
    (stepped : countStep statistics closed = some later) :
    StatisticsLane later phase ticket resuming book delivered ∧ later.snapshot = statistics.snapshot := by
  obtain ⟨announced, told, stage⟩ := lane.stage
  unfold countStep at stepped
  split at stepped
  · cases stepped
  · rename_i free
    have idle : statistics.recording = none := by
      simp only [Bool.or_eq_true, not_or, Bool.not_eq_true, Option.isSome_eq_false_iff,
        Option.isNone_iff_eq_none] at free
      exact free.2
    have counted := lane.counted
    obtain ⟨⟨delivery, rest⟩, found, rfl⟩ := Option.map_eq_some_iff.1 stepped
    obtain ⟨first, rfl, split⟩ | ⟨rfl, -, -, -⟩ := received_some found
    · have busy (reached : phase.drained) : False := by
        have empty := (lane.drained reached).1
        rw [split] at empty
        cases empty
      rw [split] at stage
      cases first with
      | data entries =>
          refine ⟨⟨?_, ⟨announced, told, (stage.take_data _).1⟩, fun reached => (busy reached).elim⟩, rfl⟩
          intro alive settled complete
          obtain ⟨fresh, same, known⟩ := counted alive settled complete
          refine ⟨fresh, same, ?_⟩
          rw [← known, split, idle]
          simp only [Lib.contents_cons, Delivery.items, Option.getD_none, Option.getD_some, plain_append,
            List.append_assoc]
          rfl
      | barrier ticket =>
          obtain ⟨staged, -, -, -⟩ := stage.take_barrier (statistics.recording = none)
          refine ⟨⟨?_, ⟨announced, told, (staged.acknowledge idle).1⟩, fun reached => (busy reached).elim⟩, rfl⟩
          intro alive settled complete
          obtain ⟨fresh, same, known⟩ := counted alive settled complete
          refine ⟨fresh, same, ?_⟩
          rw [← known, split]
          simp only [Lib.contents_cons, Delivery.items, List.nil_append]
    · exact ⟨⟨counted, ⟨announced, told, stage⟩, lane.drained⟩, rfl⟩

theorem StatisticsLane.record {statistics : Statistics} {entries : Entries} {resuming : Bool} {book : Ledger}
    (lane : StatisticsLane statistics phase ticket resuming book delivered)
    (recording : statistics.recording = some entries) :
    StatisticsLane (statistics.record entries) phase ticket resuming book delivered := by
  obtain ⟨announced, told, stage⟩ := lane.stage
  refine ⟨?_, ⟨announced, told, stage.imp fun _ _ _ => rfl⟩, fun reached => ⟨(lane.drained reached).1, rfl⟩⟩
  intro alive settled complete
  obtain ⟨fresh, same, known⟩ := lane.counted alive settled complete
  refine ⟨fresh, same, ?_⟩
  have complete : statistics.snapshot.distributionsComplete = true := complete
  rw [← known, recording]
  simp only [Statistics.record, complete, if_true, Option.getD_none, Option.getD_some, plain, List.filter_nil,
    List.append_nil]

end Lanes

/-! ### A save -/

section Save

variable {methods : EntryKindMethods} {origin : Origin} {hash : RelativePath → Nat} {batchSize : Nat}
  {state : State} {next : Port} {delivered sealed : Entries} {executed : List Cut}

/-- What was saved before is still there. -/
theorem forall_matches {database later : Database} {manifests : List ScanResumeState} {cuts : List Cut}
    (matched : List.Forall₂ (Matches database) manifests cuts)
    (more : ∃ rest, later.snapshots = database.snapshots ++ rest) :
    List.Forall₂ (Matches later) manifests cuts :=
  matched.imp fun _ _ matched => matched.mono more

/-- The tables were set back. -/
theorem Book.restored {ledger : Ledger} {flight : Entries} {saving : Option SaveCause}
    (book : Book ledger flight delivered sealed executed saving) (known : saving.isSome = true)
    (cuts : ledger.cuts = executed) : Book ledger flight sealed sealed executed none := by
  cases book with
  | settled => cases known
  | restoring _ flight current saved _ => exact .settled (by rw [flight, List.append_nil, current]) saved cuts
  | cutting cause counted distinct current saved grown =>
      rw [cuts] at grown
      have longer := congrArg List.length grown
      simp at longer

/-- Only a scan that goes back has a save due without a new cut. -/
theorem Book.resumes {ledger : Ledger} {flight : Entries} {saving : Option SaveCause}
    (book : Book ledger flight delivered sealed executed saving) (known : saving.isSome = true)
    (cuts : ledger.cuts = executed) : saving.any SaveCause.resumes = true := by
  cases book with
  | settled => cases known
  | restoring => rfl
  | cutting cause counted distinct current saved grown =>
      rw [cuts] at grown
      have longer := congrArg List.length grown
      simp at longer

/-- The last cut was saved. -/
theorem Book.closed {ledger : Ledger} {flight : Entries} {saving : Option SaveCause} {cut : Cut}
    (book : Book ledger flight delivered sealed executed saving) (known : saving.isSome = true)
    (cuts : ledger.cuts = executed ++ [cut]) (content : cut.content = delivered) :
    Book ledger flight delivered delivered (executed ++ [cut]) none := by
  cases book with
  | settled => cases known
  | restoring _ _ _ _ same =>
      rw [same] at cuts
      have longer := congrArg List.length cuts
      simp at longer
  | cutting cause counted distinct current saved grown =>
      rw [cuts] at grown
      obtain ⟨-, same⟩ := List.append_inj' grown rfl
      cases same
      exact .settled current (saved.trans content) cuts

/-- Between the request of a save and its end nothing is in flight. -/
theorem Account.flight (account : Account methods origin state delivered sealed executed)
    (confirming : state.producer.phase = .confirming) : state.producer.flight = [] := by
  have asking := account.saving (by rw [confirming]; trivial)
  have waiting : state.producer.deliver = false := by
    cases deliver : state.producer.deliver with
    | false => rfl
    | true =>
        have ready := account.delivering deliver
        rw [confirming] at ready
        cases ready
  rw [Producer.flight, confirming, account.emptied asking waiting]
  rfl

/-- The database after a save, and what the producer is told of it. -/
theorem Inv.saved {command : SaveState} {database : Database} {reply : ScanResumeState}
    {delivered' sealed' : Entries} {executed' : List Cut} (inv : Inv methods origin hash state delivered sealed executed)
    (running : state.writer.failed = false) (asked : state.port.control = some command)
    (manifests : List.Forall₂ (Matches database) database.manifests executed')
    (cuts : (ledger methods origin state.producer.consumed).cuts = executed')
    (written : SameOrder place database.written.flatten delivered')
    (book : state.producer.saving.isSome = true →
      Book (ledger methods origin state.producer.consumed) state.producer.flight delivered sealed executed state.producer.saving →
        Book (ledger methods origin state.producer.consumed) state.producer.flight delivered' sealed' executed' none)
    (seals : Seals database reply sealed') (same : delivered' = sealed')
    (counted : (state.producer.phase ≠ .failed → state.producer.resuming = true) ∨ delivered' = delivered) :
    Inv methods origin hash { state with port := { state.port with control := none, database, reply := some reply } }
      delivered' sealed' executed' := by
  have lane := inv.lane running
  have unreplied := inv.single (by rw [asked]; rfl)
  obtain ⟨empty, idle, nothing⟩ := lane.drained (.inr (by rw [asked]; rfl))
  constructor
  · exact manifests
  · exact ⟨[], Nat.zero_le _, by rw [List.append_nil]; exact cuts⟩
  · intro other found
    cases found
  · intro found
    cases found
  · intro alive
    have account := inv.account alive
    have confirming := account.confirming.1 (.inl (by rw [asked]; rfl))
    have known := account.saving (by rw [confirming]; trivial)
    have due : state.due = state.producer.saving := by rw [State.due, unreplied]; rfl
    constructor
    · exact book known (due ▸ account.book)
    · exact fun _ _ => ⟨same, account.flight confirming⟩
    · exact account.delivering
    · exact account.saving
    · exact account.emptied
    · exact account.finished
    · exact ⟨fun _ => confirming, fun _ => .inr rfl⟩
    · intro action submitting
      rw [confirming] at submitting
      cases submitting
    · intro found
      cases found
    · intro saved found
      cases found
      exact ⟨seals, same, account.flight confirming⟩
  · intro _
    obtain ⟨announced, told, stage⟩ := lane.stage
    refine ⟨lane.sound, ?_, ⟨announced, told, stage⟩, lane.heard, fun _ => ⟨empty, idle, nothing⟩⟩
    intro here
    rw [nothing, empty, Lib.contents_nil, entriesAt_nil, List.append_nil, List.append_nil]
    exact written here
  · refine ⟨?_, inv.statistics.stage, inv.statistics.drained⟩
    intro alive settled
    rcases counted with resuming | rfl
    · have resuming := resuming alive
      rw [settled] at resuming
      cases resuming
    · exact inv.statistics.counted alive settled
  · exact ⟨inv.tallied.scan, inv.tallied.counts⟩

/-- The writer executes the command that waits. -/
theorem Inv.execute {command : SaveState} (inv : Inv methods origin hash state delivered sealed executed)
    (running : state.writer.failed = false) (asked : state.port.control = some command)
    (ran : state.port.execute command = some next) :
    ∃ delivered' sealed' executed', Inv methods origin hash { state with port := next } delivered' sealed' executed' := by
  have lane := inv.lane running
  obtain ⟨empty, idle, nothing⟩ := lane.drained (.inr (by rw [asked]; rfl))
  have written : SameOrder place state.port.database.written.flatten delivered := by
    intro here
    have conserved := lane.conserved here
    rw [nothing, empty, Lib.contents_nil, entriesAt_nil, List.append_nil, List.append_nil] at conserved
    exact conserved
  obtain ⟨⟨database, saved⟩, saving, rfl⟩ := Option.map_eq_some_iff.1 ran
  have request := inv.asked command asked
  unfold SaveState.execute at saving
  cases action : command.action with
  | restore =>
      rw [action] at saving request
      obtain ⟨sealing, found, same⟩ := Option.map_eq_some_iff.1 saving
      cases same
      cases request with
      | restore cuts seals =>
          obtain ⟨other, found', same⟩ := seals
          rw [found] at found'
          cases found'
          refine ⟨sealed, sealed, executed, inv.saved running asked
            (forall_matches inv.manifests ⟨[], (List.append_nil _).symm⟩) cuts same ?_ ⟨sealing, found, same⟩ rfl
              (.inl fun alive => ?_)⟩
          · exact fun known book => book.restored known cuts
          · have account := inv.account alive
            have confirming := account.confirming.1 (.inl (by rw [asked]; rfl))
            have known := account.saving (by rw [confirming]; trivial)
            have due : state.due = state.producer.saving := by
              rw [State.due, inv.single (by rw [asked]; rfl)]
              rfl
            exact (due ▸ account.book).resumes known cuts
  | capture =>
      rw [action] at saving request
      cases saving
      cases request with
      | capture cut cuts stamped content =>
          have seals : Seals ⟨state.port.database.written,
              state.port.database.snapshots ++ [state.port.database.written],
              state.port.database.manifests ++ [{ command.state with
                checkpointSnapshot := state.port.database.snapshots.length }]⟩
              { command.state with checkpointSnapshot := state.port.database.snapshots.length } delivered :=
            ⟨state.port.database.written, by simp, written⟩
          refine ⟨delivered, delivered, executed ++ [cut], inv.saved running asked ?_ cuts written ?_ seals rfl
            (.inr rfl)⟩
          · apply List.rel_append (forall_matches inv.manifests ⟨_, rfl⟩)
            exact .cons ⟨stamped, by rw [content]; exact seals⟩ .nil
          · exact fun known book => book.closed known cuts content
  | manifestOnly =>
      rw [action] at saving request
      cases saving
      cases request with
      | manifestOnly cut cuts stamped content same seals =>
          refine ⟨delivered, sealed, executed ++ [cut], inv.saved running asked ?_ cuts written ?_ seals same
            (.inr rfl)⟩
          · apply List.rel_append
            · exact forall_matches inv.manifests ⟨[], (List.append_nil _).symm⟩
            · exact .cons ⟨stamped, by rw [content, same]; exact seals⟩ .nil
          · intro known book
            have done := book.closed known cuts content
            rw [← same]
            exact done

end Save

end Terrasync.App.ScanPipeline
