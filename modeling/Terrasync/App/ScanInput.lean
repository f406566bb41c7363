import Terrasync.Lib.Machine
import Terrasync.Scan.VersionHistory

/-! The prefetch of `scan_resume/input.rs`: a reader task that gathers the items of a scan
into batches and pays for each batch with permits, and a consumer whose calls take the
batches over whole or item by item. The machine interleaves single channel operations and
cancelled polls. The failure signal does not fire and `stop` is not called. -/

set_option autoImplicit false

namespace Terrasync.App.ScanInput

variable {Item Error : Type}

/-- `PREFETCH_CHUNK`. -/
def prefetchChunk : Nat := 256

/-- `capacity.clamp(1, Semaphore::MAX_PERMITS.min(u32::MAX as usize))`. -/
def clampCapacity (capacity : Nat) : Nat := min (max capacity 1) (min (2 ^ 61 - 1) (2 ^ 32 - 1))

/-- The clamped `limit` of `prefetch_chunk`, as the reader task calls it. -/
def chunkLimit (room : Nat) : Nat := min (max (min prefetchChunk room) 1) prefetchChunk

/-- `permit` is the number of permits the batch holds. -/
structure PrefetchedBatch (Item : Type) where
  items : List Item
  permit : Nat
deriving DecidableEq, Repr

/-- Where the reader task stands. In `reading`, `part` is what the current poll of the source's
`next_batch` has taken; it stays with that poll and joins `batch` when the poll returns. -/
inductive Reader (Item Error : Type) where
  | reading (batch part : List Item)
  | acquiring (batch : List Item) (failure : Option Error)
  | sending (batch : PrefetchedBatch Item) (failure : Option Error)
  | finished (outcome : Option Error)
deriving DecidableEq, Repr

/-- What a call asks for: `next()`, or `next_batch(limit)` on its polling path. -/
inductive Wanted where
  | item
  | batch (limit : Nat)
deriving DecidableEq, Repr

/-- The number of items after which a poll stops. -/
def Wanted.count : Wanted → Nat
  | .item => 1
  | .batch limit => max limit 1

/-- Where the consumer stands. `polling` is before the next turn of the loop and `receiving` at
the channel with the permit given back, both inside one poll that has taken `batch`; `suspended`
is between the polls of one call; `direct` is the hand-off path, at the channel or between polls. -/
inductive Consumer (Item : Type) where
  | idle
  | polling (wanted : Wanted) (batch : List Item)
  | receiving (wanted : Wanted) (batch : List Item)
  | suspended (wanted : Wanted)
  | direct
deriving DecidableEq, Repr

/-- `remaining` and `ending` are what the source still yields: its items, then its error or its
end. `delivered` joins the items of all returned answers; `ended` says that a call returned `None`. -/
structure State (Item Error : Type) where
  remaining : List Item
  ending : Option Error
  reader : Reader Item Error
  available : Nat
  channel : List (PrefetchedBatch Item)
  current : List Item
  permit : Option Nat
  consumer : Consumer Item
  delivered : List Item
  ended : Bool
deriving DecidableEq, Repr

inductive Action where
  | pull
  | partPending
  | deadline
  | acquire
  | send
  | callNext
  | callBatch (limit : Nat)
  | take
  | release
  | receive
  | pending
  | poll
  | cancel
deriving DecidableEq, Repr

def start (items : List Item) (ending : Option Error) (capacity : Nat) : State Item Error :=
  ⟨items, ending, .reading [] [], clampCapacity capacity, [], [], none, .idle, [], false⟩

/-! ### The reader task -/

/-- A chunk goes to the semaphore; an empty one only carries the failure of the source. -/
def dispatch (batch : List Item) (failure : Option Error) : Reader Item Error :=
  if batch.isEmpty then
    match failure with
    | some error => .finished (some error)
    | none => .reading [] []
  else .acquiring batch failure

variable (isCheckpoint : Item → Bool)

/-- What `prefetch_chunk` makes of a part of the batch. -/
def appendPart (limit : Nat) (batch part : List Item) (failure : Option Error) : Reader Item Error :=
  if part.any isCheckpoint || failure.isSome || limit ≤ (batch ++ part).length then
    dispatch (batch ++ part) failure
  else .reading (batch ++ part) []

/-- One poll of the source inside `next_batch(limit - batch.items.len())`. -/
def pull (limit : Nat) (state : State Item Error) (batch part : List Item) : State Item Error :=
  match state.remaining with
  | item :: rest =>
      let part := part ++ [item]
      { state with
        remaining := rest
        reader :=
          if max (limit - batch.length) 1 ≤ part.length then appendPart isCheckpoint limit batch part none
          else .reading batch part }
  | [] =>
      match state.ending with
      | some error => { state with reader := appendPart isCheckpoint limit batch part (some error) }
      | none =>
          { state with
            reader :=
              if !part.isEmpty then appendPart isCheckpoint limit batch part none
              else if !batch.isEmpty then dispatch batch none
              else .finished none }

/-! ### The consumer -/

/-- `permit.take()`: the dropped permit goes back to the semaphore. -/
def releasePermit (state : State Item Error) : State Item Error :=
  { state with available := state.available + state.permit.getD 0, permit := none }

def answer (state : State Item Error) (batch : List Item) : State Item Error :=
  { state with delivered := state.delivered ++ batch, consumer := .idle }

def answerNone (state : State Item Error) : State Item Error :=
  { state with ended := true, consumer := .idle }

/-- The start of `next_batch`: the hand-off path, or the first poll of the other one. -/
def callBatch (state : State Item Error) (limit : Nat) : State Item Error :=
  if prefetchChunk ≤ limit ∧ state.current.length = 0 ∧ state.channel.length ≤ 1 then
    { releasePermit state with consumer := .direct }
  else { state with consumer := .polling (.batch limit) [] }

/-- The loop of a poll with the item that `next` returned. -/
def takeItem (state : State Item Error) (wanted : Wanted) (batch : List Item) (item : Item)
    (rest : List Item) : State Item Error :=
  let state := { state with current := rest }
  let batch := batch ++ [item]
  if wanted.count ≤ batch.length then answer state batch
  else { state with consumer := .polling wanted batch }

/-- The loop of a poll when `next` returned `None` or, with a batch begun, `Pending`. -/
def breakOff (state : State Item Error) (batch : List Item) (otherwise : State Item Error) :
    State Item Error :=
  if batch.isEmpty then otherwise else answer state batch

def step (room : Nat) (state : State Item Error) : Action → Option (State Item Error)
  | .pull =>
      match state.reader with
      | .reading batch part => some (pull isCheckpoint (chunkLimit room) state batch part)
      | _ => none
  | .partPending =>
      match state.reader with
      | .reading batch (first :: part) =>
          some { state with reader := appendPart isCheckpoint (chunkLimit room) batch (first :: part) none }
      | _ => none
  | .deadline =>
      match state.reader with
      | .reading (first :: batch) [] => some { state with reader := dispatch (first :: batch) none }
      | _ => none
  | .acquire =>
      match state.reader with
      | .acquiring batch failure =>
          let wanted := batch.length % 2 ^ 32
          if wanted ≤ state.available then
            some { state with
              available := state.available - wanted
              reader := .sending ⟨batch, wanted⟩ failure }
          else none
      | _ => none
  | .send =>
      match state.reader with
      | .sending batch failure =>
          if state.channel.length < room then
            some { state with
              channel := state.channel ++ [batch]
              reader := if failure.isSome then .finished failure else .reading [] [] }
          else none
      | _ => none
  | .callNext =>
      match state.consumer with
      | .idle => some { state with consumer := .polling .item [] }
      | _ => none
  | .callBatch limit =>
      match state.consumer with
      | .idle => some (callBatch state limit)
      | _ => none
  | .take =>
      match state.consumer, state.current with
      | .polling wanted batch, item :: rest => some (takeItem state wanted batch item rest)
      | _, _ => none
  | .release =>
      match state.consumer, state.current with
      | .polling wanted batch, [] => some { releasePermit state with consumer := .receiving wanted batch }
      | _, _ => none
  | .receive =>
      match state.consumer, state.channel, state.reader with
      | .receiving wanted batch, received :: channel, _ =>
          some { state with
            channel
            current := received.items
            permit := some received.permit
            consumer := .polling wanted batch }
      | .receiving _ batch, [], .finished _ => some (breakOff state batch (answerNone state))
      | .direct, received :: channel, _ =>
          some (answer { state with channel, available := state.available + received.permit } received.items)
      | .direct, [], .finished _ => some (answerNone state)
      | _, _, _ => none
  | .pending =>
      match state.consumer with
      | .receiving wanted batch => some (breakOff state batch { state with consumer := .suspended wanted })
      | _ => none
  | .poll =>
      match state.consumer with
      -- `next()` goes on at the channel, `next_batch` begins its loop again
      | .suspended .item => some { state with consumer := .receiving .item [] }
      | .suspended (.batch limit) => some { state with consumer := .polling (.batch limit) [] }
      | _ => none
  | .cancel =>
      match state.consumer with
      | .suspended _ | .direct => some { state with consumer := .idle }
      | _ => none

/-- `ScanInput::new` with a capacity, the reader task and the calls on it. -/
def machine (capacity : Nat) : Lib.Machine (State Item Error) Action :=
  ⟨step isCheckpoint (clampCapacity capacity)⟩

/-! ### What is where -/

def Reader.held : Reader Item Error → List Item
  | .reading batch part => batch ++ part
  | .acquiring batch _ => batch
  | .sending batch _ => batch.items
  | .finished _ => []

def Reader.permits : Reader Item Error → Nat
  | .sending batch _ => batch.permit
  | _ => 0

def Consumer.held : Consumer Item → List Item
  | .polling _ batch | .receiving _ batch => batch
  | _ => []

/-- The items in the channel. -/
def State.inChannel (state : State Item Error) : List Item := state.channel.flatMap PrefetchedBatch.items

/-- The items taken from the source and not returned, in order, then those still in the source. -/
def State.underway (state : State Item Error) : List Item :=
  state.consumer.held ++ state.current ++ state.inChannel ++ state.reader.held ++ state.remaining

/-- The items that take room of the prefetch. -/
def State.buffered (state : State Item Error) : Nat := state.inChannel.length + state.current.length

def State.permits (state : State Item Error) : Nat :=
  state.permit.getD 0 + (state.channel.map PrefetchedBatch.permit).sum + state.reader.permits

def Action.isConsumer : Action → Bool
  | .pull | .partPending | .deadline | .acquire | .send => false
  | _ => true

end Terrasync.App.ScanInput

namespace Terrasync.Scan.VersionHistory

/-- The items that `prefetch_chunk` sends on at once. -/
def ResumableScanItem.isCheckpoint {Resume Statistics : Type} : ResumableScanItem Resume Statistics → Bool
  | .checkpoint _ => true
  | _ => false

end Terrasync.Scan.VersionHistory
