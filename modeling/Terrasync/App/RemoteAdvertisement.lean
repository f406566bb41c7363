import Mathlib.Algebra.GroupWithZero.Nat
import Mathlib.Logic.Function.Basic
import Terrasync.Transport.RemoteEvents

/-! The remote advertisement of `remote_advertisement.rs`: the sender projects a
traversal onto pages, entry failures and one terminal event; the receiver validates
page sequence, indices and counts event by event. Counters are `u64`. Entries and
their snapshot codec belong to the storage engine and are parameters. -/

set_option autoImplicit false

namespace Terrasync.App.Advertisement

open SyncDelta (Bytes)
open Transport (SessionNdx AdvertisedObservation ObservationPage AdvertisementFailureScope AdvertisementFailure
  AdvertisementTerminal AdvertisementEvent)

/-- `checked_add(1)` on a `u64`. -/
def checkedSucc (count : Nat) : Option Nat :=
  if count + 1 < 2 ^ 64 then some (count + 1) else none

/-- `+= 1` on a `u64` of a release build. -/
def wrappingSucc (count : Nat) : Nat := (count + 1) % 2 ^ 64

inductive AppError (DecodeError : Type) where
  | copyError (text : String)
  | cancelled (observedEntries entryFailures : Nat)
  | countMismatch (projectedEntries projectedFailures reportedEntries reportedFailures : Nat)
  | protocol (reason : String)
  | snapshotDecode (ndx : SessionNdx) (source : DecodeError)
  | peerFailed (diagnostic : String)
  | traversal (failure : AdvertisementFailure)

/-- Entries by session index, with the failures and counts of a complete listing. -/
structure RemoteAdvertisement (Entry : Type) where
  entries : SessionNdx → Option Entry
  failures : List AdvertisementFailure
  pageCount : Nat
  observedEntries : Nat
  entryFailures : Nat

/-! ### Sender -/

/-- Failure of one entry as the traversal reports it. -/
structure EntryOperationFailure where
  path : String
  operation : String
  class_ : String
  transience : String
  diagnostic : String
deriving DecidableEq, Repr

def projectEntryFailure (failure : EntryOperationFailure) : AdvertisementFailure where
  scope := .entry
  path := some failure.path
  identity := none
  operation := some failure.operation
  class_ := some failure.class_
  transience := some failure.transience
  diagnostic := failure.diagnostic

def runtimeFailure (diagnostic : String) : AdvertisementFailure where
  scope := .runtime
  path := none
  identity := none
  operation := none
  class_ := none
  transience := none
  diagnostic := diagnostic

inductive TraversalItem (Entry : Type) where
  | entry (entry : Entry)
  | failure (failure : EntryOperationFailure)
  | directoryListed
  | checkpoint
  | unsupported (description : String)

structure ScanTotals where
  emitted : UInt64
  failedChildren : UInt64
  listingFailures : UInt64
deriving DecidableEq, Repr

/-- `session.finish()`; a terminal failure is given in its projected form. -/
inductive TraversalOutcome where
  | completed (totals : ScanTotals)
  | cancelled
  | failed (failure : AdvertisementFailure)

structure AdvertisementProjection (Entry : Type) where
  pageSize : Nat
  nextPage : Nat
  pending : List AdvertisedObservation
  entries : SessionNdx → Option Entry
  failures : List AdvertisementFailure
  observedEntries : Nat
  entryFailures : Nat

namespace AdvertisementProjection

variable {Entry DecodeError : Type}

def new (pageSize : Nat) : AdvertisementProjection Entry :=
  ⟨pageSize, 0, [], fun _ => none, [], 0, 0⟩

def buildPage (projection : AdvertisementProjection Entry) :
    AdvertisementProjection Entry × ObservationPage :=
  ({ projection with pending := [], nextPage := wrappingSucc projection.nextPage },
    ⟨projection.nextPage, projection.pending⟩)

def takePage (projection : AdvertisementProjection Entry) :
    AdvertisementProjection Entry × Option ObservationPage :=
  if projection.pending.isEmpty then (projection, none)
  else (projection.buildPage.1, some projection.buildPage.2)

/-- The updates of `push_entry` before a full page is taken. -/
def collect (encodeSnapshot : Entry → Bytes) (projection : AdvertisementProjection Entry) (entry : Entry)
    (observedEntries : Nat) : AdvertisementProjection Entry :=
  { projection with
    observedEntries
    pending := projection.pending ++ [⟨projection.observedEntries, encodeSnapshot entry⟩]
    entries := Function.update projection.entries projection.observedEntries (some entry) }

def pushEntry (encodeSnapshot : Entry → Bytes) (projection : AdvertisementProjection Entry)
    (entry : Entry) :
    Except (AppError DecodeError) (AdvertisementProjection Entry × Option ObservationPage) :=
  match checkedSucc projection.observedEntries with
  | none => .error (.copyError "remote advertisement NDX exhausted")
  | some observedEntries =>
      let pushed := projection.collect encodeSnapshot entry observedEntries
      if pushed.pending.length = pushed.pageSize then .ok (pushed.buildPage.1, some pushed.buildPage.2)
      else .ok (pushed, none)

def recordFailure (projection : AdvertisementProjection Entry) (failure : AdvertisementFailure) :
    AdvertisementProjection Entry :=
  { projection with
    entryFailures := wrappingSucc projection.entryFailures
    failures := projection.failures ++ [failure] }

def finish (projection : AdvertisementProjection Entry) : RemoteAdvertisement Entry :=
  ⟨projection.entries, projection.failures, projection.nextPage, projection.observedEntries,
    projection.entryFailures⟩

end AdvertisementProjection

section Sender

variable {Entry DecodeError : Type} (encodeSnapshot : Entry → Bytes)

def pageEvents (page : Option ObservationPage) : List AdvertisementEvent :=
  page.toList.map .page

/-- The item loop of `advertise_remote` with the page flushed after it, for a sink
that accepts every event. -/
def advertiseItems (projection : AdvertisementProjection Entry) :
    List (TraversalItem Entry) →
      List AdvertisementEvent × Except (AppError DecodeError) (AdvertisementProjection Entry)
  | [] => (pageEvents projection.takePage.2, .ok projection.takePage.1)
  | .entry entry :: rest =>
      match projection.pushEntry encodeSnapshot entry with
      | .error error => ([], .error error)
      | .ok (pushed, page) =>
          let remaining := advertiseItems pushed rest
          (pageEvents page ++ remaining.1, remaining.2)
  | .failure failure :: rest =>
      -- a pending page is flushed first, so that events keep the traversal order
      let taken := projection.takePage
      let projected := projectEntryFailure failure
      let remaining := advertiseItems (taken.1.recordFailure projected) rest
      (pageEvents taken.2 ++ .entryFailure projected :: remaining.1, remaining.2)
  | .directoryListed :: rest => advertiseItems projection rest
  | .checkpoint :: rest => advertiseItems projection rest
  | .unsupported description :: _ =>
      ([], .error (.protocol s!"unsupported traversal event: {description}"))

def mismatchText (projectedEntries projectedFailures reportedEntries reportedFailures : Nat) : String :=
  s!"Remote advertisement count mismatch: projected {projectedEntries} entries/{projectedFailures} failures, reported {reportedEntries} entries/{reportedFailures} failures"

/-- The terminal event and the result, once the projection is flushed. -/
def advertiseTerminal (projection : AdvertisementProjection Entry) :
    TraversalOutcome → AdvertisementTerminal × Except (AppError DecodeError) (RemoteAdvertisement Entry)
  | .completed totals =>
      let reportedEntries := totals.emitted.toNat
      let reportedFailures := (totals.failedChildren + totals.listingFailures).toNat
      if projection.observedEntries ≠ reportedEntries ∨ projection.entryFailures ≠ reportedFailures then
        (.failed projection.observedEntries projection.entryFailures
            (runtimeFailure (mismatchText projection.observedEntries projection.entryFailures
              reportedEntries reportedFailures)),
          .error (.countMismatch projection.observedEntries projection.entryFailures reportedEntries
            reportedFailures))
      else
        (.completed projection.observedEntries projection.entryFailures, .ok projection.finish)
  | .cancelled =>
      (.cancelled projection.observedEntries projection.entryFailures,
        .error (.cancelled projection.observedEntries projection.entryFailures))
  | .failed failure =>
      (.failed projection.observedEntries projection.entryFailures failure, .error (.traversal failure))

/-- The events sent and the sender's result. -/
def advertiseRemote (items : List (TraversalItem Entry)) (outcome : TraversalOutcome) (pageSize : Nat) :
    List AdvertisementEvent × Except (AppError DecodeError) (RemoteAdvertisement Entry) :=
  match advertiseItems encodeSnapshot (.new pageSize) items with
  | (events, .error error) => (events, .error error)
  | (events, .ok projection) =>
      let terminal := advertiseTerminal projection outcome
      (events ++ [.terminal terminal.1], terminal.2)

end Sender

/-! ### Receiver -/

structure ReceivedObservationPage (Entry : Type) where
  sequence : Nat
  entries : List (SessionNdx × Entry)

structure RemoteAdvertisementSummary where
  pageCount : Nat
  observedEntries : Nat
  entryFailures : Nat
deriving DecidableEq, Repr

inductive AdvertisementReceipt (Entry : Type) where
  | page (page : ReceivedObservationPage Entry)
  | entryFailure (failure : AdvertisementFailure)
  | completed (summary : RemoteAdvertisementSummary)

structure RemoteAdvertisementReceiver (Backend : Type) where
  backend : Backend
  maximumPageEntries : Nat
  expectedPage : Nat
  expectedNdx : Nat
  entryFailures : Nat
  terminated : Bool

namespace RemoteAdvertisementReceiver

variable {Entry Backend DecodeError : Type}

def new (maximumPageEntries : Nat) (backend : Backend) : RemoteAdvertisementReceiver Backend :=
  ⟨backend, maximumPageEntries, 0, 0, 0, false⟩

variable (decodeSnapshot : Bytes → Backend → Except DecodeError Entry)

/-- The entry loop of a page. The expected index stays advanced when an entry of the
page is rejected. -/
def acceptEntries (receiver : RemoteAdvertisementReceiver Backend) :
    List AdvertisedObservation →
      RemoteAdvertisementReceiver Backend × Except (AppError DecodeError) (List (SessionNdx × Entry))
  | [] => (receiver, .ok [])
  | advertised :: rest =>
      let expected := receiver.expectedNdx
      let received := advertised.ndx
      if received ≠ expected then
        (receiver, .error (.protocol s!"expected session NDX {expected}, received {received}"))
      else
        match decodeSnapshot advertised.snapshot receiver.backend with
        | .error source => (receiver, .error (.snapshotDecode advertised.ndx source))
        | .ok entry =>
            match checkedSucc receiver.expectedNdx with
            | none => (receiver, .error (.protocol "session NDX exhausted"))
            | some expectedNdx =>
                let remaining := acceptEntries { receiver with expectedNdx } rest
                (remaining.1, remaining.2.map fun entries => (advertised.ndx, entry) :: entries)

def acceptPage (receiver : RemoteAdvertisementReceiver Backend) (page : ObservationPage) :
    RemoteAdvertisementReceiver Backend × Except (AppError DecodeError) (ReceivedObservationPage Entry) :=
  let expected := receiver.expectedPage
  let sequence := page.sequence
  let count := page.entries.length
  let maximum := receiver.maximumPageEntries
  if sequence ≠ expected then
    (receiver, .error (.protocol s!"expected page {expected}, received {sequence}"))
  else if page.entries = [] ∨ maximum < count then
    (receiver, .error (.protocol
      s!"page {sequence} contains {count} entries, allowed range is 1..={maximum}"))
  else
    match acceptEntries decodeSnapshot receiver page.entries with
    | (advanced, .error error) => (advanced, .error error)
    | (advanced, .ok entries) =>
        match checkedSucc advanced.expectedPage with
        | none => (advanced, .error (.protocol "page sequence exhausted"))
        | some expectedPage => ({ advanced with expectedPage }, .ok ⟨page.sequence, entries⟩)

def acceptFailure (receiver : RemoteAdvertisementReceiver Backend) (failure : AdvertisementFailure) :
    RemoteAdvertisementReceiver Backend × Except (AppError DecodeError) AdvertisementFailure :=
  if failure.scope ≠ .entry then
    (receiver, .error (.protocol "entry-failure event did not have Entry scope"))
  else
    match checkedSucc receiver.entryFailures with
    | none => (receiver, .error (.protocol "entry-failure count exhausted"))
    | some entryFailures => ({ receiver with entryFailures }, .ok failure)

def validateCounts (observedEntries entryFailures reportedEntries reportedFailures : Nat) :
    Except (AppError DecodeError) Unit :=
  if observedEntries = reportedEntries ∧ entryFailures = reportedFailures then .ok ()
  else .error (.countMismatch observedEntries entryFailures reportedEntries reportedFailures)

def acceptTerminal (receiver : RemoteAdvertisementReceiver Backend) :
    AdvertisementTerminal → Except (AppError DecodeError) RemoteAdvertisementSummary
  | .completed reportedEntries reportedFailures => do
      validateCounts receiver.expectedNdx receiver.entryFailures reportedEntries reportedFailures
      return ⟨receiver.expectedPage, receiver.expectedNdx, receiver.entryFailures⟩
  | .cancelled reportedEntries reportedFailures => do
      validateCounts receiver.expectedNdx receiver.entryFailures reportedEntries reportedFailures
      throw (.cancelled receiver.expectedNdx receiver.entryFailures)
  | .failed reportedEntries reportedFailures failure => do
      validateCounts receiver.expectedNdx receiver.entryFailures reportedEntries reportedFailures
      throw (.peerFailed failure.diagnostic)

def accept (receiver : RemoteAdvertisementReceiver Backend) (event : AdvertisementEvent) :
    RemoteAdvertisementReceiver Backend × Except (AppError DecodeError) (AdvertisementReceipt Entry) :=
  if receiver.terminated then (receiver, .error (.protocol "event received after terminal"))
  else
    match event with
    | .page page =>
        let accepted := acceptPage decodeSnapshot receiver page
        (accepted.1, accepted.2.map .page)
    | .entryFailure failure =>
        let accepted := receiver.acceptFailure failure
        (accepted.1, accepted.2.map .entryFailure)
    | .terminal terminal =>
        ({ receiver with terminated := true }, (receiver.acceptTerminal terminal).map .completed)

/-- `entries.extend(page.entries)`. -/
def extendEntries (entries : SessionNdx → Option Entry) (received : List (SessionNdx × Entry)) :
    SessionNdx → Option Entry :=
  received.foldl (fun table keyed => Function.update table keyed.1 (some keyed.2)) entries

/-- The loop of `receive` with the entries and failures collected so far. -/
def receiveFrom (receiver : RemoteAdvertisementReceiver Backend) (entries : SessionNdx → Option Entry)
    (failures : List AdvertisementFailure) :
    List AdvertisementEvent → Except (AppError DecodeError) (RemoteAdvertisement Entry)
  | [] => .error (.protocol "advertisement ended without terminal")
  | event :: rest =>
      match receiver.accept decodeSnapshot event with
      | (_, .error error) => .error error
      | (next, .ok (.page page)) => next.receiveFrom (extendEntries entries page.entries) failures rest
      | (next, .ok (.entryFailure failure)) => next.receiveFrom entries (failures ++ [failure]) rest
      | (_, .ok (.completed summary)) =>
          if rest.isEmpty then
            .ok ⟨entries, failures, summary.pageCount, summary.observedEntries, summary.entryFailures⟩
          else .error (.protocol "event received after terminal")

def receive (receiver : RemoteAdvertisementReceiver Backend) (events : List AdvertisementEvent) :
    Except (AppError DecodeError) (RemoteAdvertisement Entry) :=
  receiver.receiveFrom decodeSnapshot (fun _ => none) [] events

end RemoteAdvertisementReceiver

end Terrasync.App.Advertisement
