import Terrasync.App.ScanPipeline
import Terrasync.Lib.PlaceOrder
import Terrasync.Scan.ComparisonProperties

/-! What the producer relies on in a writer: at every place it writes what it took in the
order it came, it answers a barrier only with empty hands, and it saves only between barriers.
Both the single writer and the router with its workers move in this way. -/

set_option autoImplicit false

namespace Terrasync.App.ScanPipeline

open Lib (Delivery Stage contents atPlace)
open Scan (sortBatch)

/-! ### Places -/

/-- A batch is sorted by the path, and the router hashes the key. -/
abbrev Place := RelativePath × RelativePath

def place (entry : ObservedEntry) : Place := (entry.path, routeKey entry)

/-- The entries of one place. -/
def entriesAt (here : Place) (entries : Entries) : Entries := atPlace place here entries

@[simp] theorem entriesAt_nil (here : Place) : entriesAt here [] = [] := rfl

@[simp] theorem entriesAt_append (here : Place) (left right : Entries) :
    entriesAt here (left ++ right) = entriesAt here left ++ entriesAt here right :=
  Lib.atPlace_append left right

theorem entriesAt_sortBatch (here : Place) (batch : Entries) :
    entriesAt here (sortBatch batch) = entriesAt here batch := by
  have split (entries : Entries) : entriesAt here entries =
      (entries.filter fun entry => entry.path = here.1).filter fun entry => routeKey entry = here.2 := by
    rw [List.filter_filter]
    apply List.filter_congr
    intro entry _
    rw [← Bool.decide_and, decide_eq_decide, and_comm]
    exact Prod.ext_iff
  rw [split, split, Scan.filter_sortBatch]

theorem entriesAt_flush (here : Place) (port : Port) (batch : Entries) :
    entriesAt here (port.flush batch).database.written.flatten =
      entriesAt here port.database.written.flatten ++ entriesAt here batch := by
  cases batch with
  | nil => simp [Port.flush]
  | cons first rest =>
      simp only [Port.flush, List.isEmpty_cons, Bool.false_eq_true, if_false, List.flatten_append,
        List.flatten_cons, List.flatten_nil, List.append_nil, entriesAt_append]
      exact congrArg _ (entriesAt_sortBatch here _)

/-! ### The contract -/

/-- The moves of a writer that holds entries and may have a barrier in hand. -/
inductive Moves (port : Port) (held : Place → Entries) (handling : Option Nat) :
    Port → (Place → Entries) → Option Nat → Prop
  | writes {written : List Entries} {left : Place → Entries} (moved : Place → Entries) :
      (∀ here, entriesAt here written.flatten =
        entriesAt here port.database.written.flatten ++ moved here) →
      (∀ here, held here = moved here ++ left here) →
      Moves port held handling { port with database := { port.database with written } } left handling
  | takes {entries : Entries} {rest : List (Delivery ObservedEntry)} {left : Place → Entries} :
      port.queue = .data entries :: rest → (∀ here, left here = held here ++ entriesAt here entries) →
      Moves port held handling (port.take rest) left handling
  | hears {ticket : Nat} {rest : List (Delivery ObservedEntry)} {left : Place → Entries} :
      port.queue = .barrier ticket :: rest → (∀ here, left here = held here) →
      Moves port held handling (port.take rest) left (some ticket)
  | answers {ticket : Nat} {written : List Entries} {left : Place → Entries} :
      handling = some ticket →
      (∀ here, entriesAt here written.flatten =
        entriesAt here port.database.written.flatten ++ held here) →
      (∀ here, left here = []) →
      Moves port held handling
        { port with database := { port.database with written }, acknowledged := ticket :: port.acknowledged }
        left none
  | executes {command : SaveState} {next : Port} {left : Place → Entries} :
      port.control = some command → port.execute command = some next → handling = none →
      (∀ here, left here = held here) → Moves port held handling next left none

/-- A move that shows nothing. -/
theorem Moves.stays {port : Port} {held left : Place → Entries} {handling : Option Nat}
    (same : ∀ here, left here = held here) : Moves port held handling port left handling :=
  @writes port held handling port.database.written left (fun _ => []) (fun _ => (List.append_nil _).symm)
    fun here => (same here).symm

/-- The batch of a writer is written, and it keeps the rest. -/
theorem Moves.flushed {port : Port} {held left : Place → Entries} {handling : Option Nat} (batch : Entries)
    (split : ∀ here, held here = entriesAt here batch ++ left here) :
    Moves port held handling (port.flush batch) left handling := by
  have same : port.flush batch = { port with
      database := { port.database with written := (port.flush batch).database.written } } := by
    unfold Port.flush
    split <;> rfl
  rw [same]
  exact .writes (fun here => entriesAt here batch) (fun here => entriesAt_flush here port batch) split

/-! ### Batches -/

namespace BatchWriter

variable (batchSize : Nat)

theorem fill_spec (batch entries : Entries) :
    (fill batchSize batch entries).held = batch ++ entries ∧ (fill batchSize batch entries).handling = none ∧
      (fill batchSize batch entries).ended = false := by
  induction entries generalizing batch with
  | nil => simp [fill, held, handling, ended]
  | cons entry rest ih =>
      simp only [fill]
      split
      · simp [held, handling, ended]
      · obtain ⟨kept, idle, running⟩ := ih (batch ++ [entry])
        exact ⟨by rw [kept, List.append_assoc, List.singleton_append], idle, running⟩

theorem held_receiving {writer : BatchWriter} (receiving : writer.phase = .receiving) :
    writer.held = writer.batch := by
  simp only [held, receiving]

theorem handling_receiving {writer : BatchWriter} (receiving : writer.phase = .receiving) :
    writer.handling = none := by
  simp only [handling, receiving]

/-- What a writer at its channel makes of a delivery. -/
theorem receive_data {writer : BatchWriter} (receiving : writer.phase = .receiving) (entries : Entries) :
    (writer.receive batchSize (some (.data entries))).held = writer.held ++ entries ∧
      (writer.receive batchSize (some (.data entries))).handling = none := by
  obtain ⟨kept, idle, -⟩ := fill_spec batchSize writer.batch entries
  rw [held_receiving receiving]
  exact ⟨kept, idle⟩

theorem receive_barrier {writer : BatchWriter} (receiving : writer.phase = .receiving) (ticket : Nat) :
    (writer.receive batchSize (some (.barrier ticket))).held = writer.held ∧
      (writer.receive batchSize (some (.barrier ticket))).handling = some ticket := by
  rw [held_receiving receiving]
  exact ⟨rfl, rfl⟩

theorem receive_none {writer : BatchWriter} (receiving : writer.phase = .receiving) :
    (writer.receive batchSize none).held = writer.held ∧ (writer.receive batchSize none).handling = none := by
  rw [held_receiving receiving]
  exact ⟨rfl, rfl⟩

/-- A flush takes the batch out of a writer's hands; before an answer nothing else is there. -/
theorem afterFlush_spec {writer : BatchWriter} {next : AfterFlush} (flushing : writer.phase = .flushing next) :
    writer.held = writer.batch ++ (afterFlush batchSize next).held ∧
      (afterFlush batchSize next).handling = none ∧
        (writer.handling.isSome = true → (afterFlush batchSize next).held = []) := by
  cases next with
  | entries rest =>
      obtain ⟨kept, idle, -⟩ := fill_spec batchSize [] rest
      refine ⟨?_, idle, ?_⟩
      · rw [afterFlush, kept, List.nil_append]
        simp only [held, flushing]
      · simp only [handling, flushing, Option.isSome_none, Bool.false_eq_true, false_implies]
  | acknowledge ticket => simp [afterFlush, held, handling, flushing]
  | finish => simp [afterFlush, held, handling, flushing]

end BatchWriter

/-! ### The single writer -/

section Single

variable {hash : RelativePath → Nat} {batchSize : Nat} {port next : Port}

theorem received_some {queue rest : List (Delivery ObservedEntry)} {closed : Bool}
    {delivery : Option (Delivery ObservedEntry)} (taken : received queue closed = some (delivery, rest)) :
    (∃ first, delivery = some first ∧ queue = first :: rest) ∨
      (delivery = none ∧ queue = [] ∧ rest = [] ∧ closed = true) := by
  cases queue with
  | nil =>
      cases closed with
      | false => cases taken
      | true =>
          cases taken
          exact .inr ⟨rfl, rfl, rfl, rfl⟩
  | cons first later =>
      cases taken
      exact .inl ⟨first, rfl, rfl⟩

theorem single_moves {writer : BatchWriter} {action : WriterAction} {after : Writer}
    (stepped : (Writer.single writer).step hash batchSize port action = some (after, next))
    (running : after.failed = false) :
    ∃ writer', after = .single writer' ∧
      Moves port (fun here => entriesAt here writer.held) writer.handling next
        (fun here => entriesAt here writer'.held) writer'.handling := by
  cases action with
  | select =>
      simp only [Writer.step] at stepped
      split at stepped
      · cases stepped
      · rename_i free
        have receiving : writer.phase = .receiving := by
          simp only [Bool.or_eq_true, decide_eq_true_eq, not_or, not_not] at free
          exact free.2
        have idle := BatchWriter.handling_receiving receiving
        cases asked : port.control with
        | some command =>
            rw [asked] at stepped
            obtain ⟨saved, executed, same⟩ := Option.map_eq_some_iff.1 stepped
            cases same
            exact ⟨writer, rfl, by rw [idle]; exact .executes asked executed rfl fun _ => rfl⟩
        | none =>
            rw [asked] at stepped
            obtain ⟨⟨delivery, rest⟩, taken, same⟩ := Option.map_eq_some_iff.1 stepped
            cases same
            refine ⟨_, rfl, ?_⟩
            obtain ⟨first, rfl, split⟩ | ⟨rfl, empty, rfl, -⟩ := received_some taken
            · cases first with
              | data entries =>
                  obtain ⟨kept, quiet⟩ := BatchWriter.receive_data batchSize receiving entries
                  dsimp only
                  rw [quiet, idle]
                  apply Moves.takes split
                  intro here
                  rw [kept, entriesAt_append]
              | barrier ticket =>
                  obtain ⟨kept, busy⟩ := BatchWriter.receive_barrier batchSize receiving ticket
                  dsimp only
                  rw [busy, idle]
                  apply Moves.hears split
                  intro here
                  rw [kept]
            · obtain ⟨kept, quiet⟩ := BatchWriter.receive_none batchSize receiving
              dsimp only
              rw [quiet, idle, show port.take [] = port by rw [← empty]; rfl]
              apply Moves.stays
              intro here
              rw [kept]
  | flush =>
      simp only [Writer.step] at stepped
      cases phase : writer.phase with
      | flushing following =>
          rw [phase] at stepped
          obtain ⟨kept, quiet, emptied⟩ := BatchWriter.afterFlush_spec batchSize phase
          cases following with
          | acknowledge ticket =>
              cases stepped
              have busy : writer.handling = some ticket := by simp only [BatchWriter.handling, phase]
              have none_left := emptied (by rw [busy]; rfl)
              refine ⟨_, rfl, ?_⟩
              dsimp only
              rw [quiet, busy]
              have same : (port.flush writer.batch).acknowledge ticket = { port with
                  database := { port.database with written := (port.flush writer.batch).database.written }
                  acknowledged := ticket :: port.acknowledged } := by
                unfold Port.flush Port.acknowledge
                split <;> rfl
              rw [same]
              apply Moves.answers rfl
              · intro here
                rw [entriesAt_flush, kept, none_left, List.append_nil]
              · intro here
                rw [none_left, entriesAt_nil]
          | entries rest =>
              cases stepped
              have idle : writer.handling = none := by simp only [BatchWriter.handling, phase]
              refine ⟨_, rfl, ?_⟩
              dsimp only
              rw [quiet, idle]
              apply Moves.flushed
              intro here
              rw [kept, entriesAt_append]
          | finish =>
              cases stepped
              have idle : writer.handling = none := by simp only [BatchWriter.handling, phase]
              refine ⟨_, rfl, ?_⟩
              dsimp only
              rw [quiet, idle]
              apply Moves.flushed
              intro here
              rw [kept, entriesAt_append]
      | receiving => rw [phase] at stepped; cases stepped
      | finished => rw [phase] at stepped; cases stepped
      | failed => rw [phase] at stepped; cases stepped
  | fail =>
      simp only [Writer.step] at stepped
      split at stepped
      · cases stepped
      · cases stepped
        simp [Writer.failed] at running
  | receive _ => cases stepped
  | flushWorker _ => cases stepped
  | failWorker _ => cases stepped

end Single

end Terrasync.App.ScanPipeline
