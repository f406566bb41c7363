import Terrasync.App.RemoteAdvertisement
import Terrasync.Lib.Machine

/-! A caller that feeds events to the receiver one by one and goes on after an error.
The page loop advances the expected index before the page is known to be valid, so a
page that is refused half way leaves entries counted that no receipt returned. -/

set_option autoImplicit false

namespace Terrasync.App.Advertisement

open Lib (Machine)
open SyncDelta (Bytes)
open Transport (SessionNdx AdvertisedObservation ObservationPage AdvertisementFailureScope AdvertisementFailure
  AdvertisementTerminal AdvertisementEvent)

variable {Entry Backend DecodeError : Type}

/-- A receiver with the receipts its caller holds. -/
structure Validation (Entry Backend : Type) where
  receiver : RemoteAdvertisementReceiver Backend
  receipts : List (AdvertisementReceipt Entry)

def receivedEntries : List (AdvertisementReceipt Entry) → Nat
  | [] => 0
  | .page page :: rest => page.entries.length + receivedEntries rest
  | .entryFailure _ :: rest => receivedEntries rest
  | .completed _ :: rest => receivedEntries rest

def receivedPages : List (AdvertisementReceipt Entry) → Nat
  | [] => 0
  | .page _ :: rest => receivedPages rest + 1
  | .entryFailure _ :: rest => receivedPages rest
  | .completed _ :: rest => receivedPages rest

def receivedFailures : List (AdvertisementReceipt Entry) → Nat
  | [] => 0
  | .page _ :: rest => receivedFailures rest
  | .entryFailure _ :: rest => receivedFailures rest + 1
  | .completed _ :: rest => receivedFailures rest

/-- The summary of what the receipts hold. -/
def received (receipts : List (AdvertisementReceipt Entry)) : RemoteAdvertisementSummary :=
  ⟨receivedPages receipts, receivedEntries receipts, receivedFailures receipts⟩

section Pages

variable (decodeSnapshot : Bytes → Backend → Except DecodeError Entry)

/-- An entry that the page loop takes at an index. -/
def Acceptable (backend : Backend) (ndx : SessionNdx) (advertised : AdvertisedObservation) : Prop :=
  advertised.ndx = ndx ∧ (decodeSnapshot advertised.snapshot backend).isOk ∧ ndx + 1 < 2 ^ 64

instance (backend : Backend) (ndx : SessionNdx) (advertised : AdvertisedObservation) :
    Decidable (Acceptable decodeSnapshot backend ndx advertised) :=
  inferInstanceAs (Decidable (_ ∧ _ ∧ _))

/-- Every entry of a page has the index of its position and decodes. -/
def InOrder (backend : Backend) (start : SessionNdx) (entries : List AdvertisedObservation) : Prop :=
  ∀ position : Fin entries.length,
    Acceptable decodeSnapshot backend (start + position) (entries.get position)

instance (backend : Backend) (start : SessionNdx) (entries : List AdvertisedObservation) :
    Decidable (InOrder decodeSnapshot backend start entries) :=
  inferInstanceAs (Decidable (∀ _, _))

/-- A page of the expected number and size that cannot be taken as a whole, although
its first entry can. -/
structure Torn (receiver : RemoteAdvertisementReceiver Backend) (page : ObservationPage) : Prop where
  opened : receiver.terminated = false
  expected : page.sequence = receiver.expectedPage
  fits : page.entries.length ≤ receiver.maximumPageEntries
  begun : ∃ first ∈ page.entries.head?,
    Acceptable decodeSnapshot receiver.backend receiver.expectedNdx first
  refused : ¬InOrder decodeSnapshot receiver.backend receiver.expectedNdx page.entries ∨
    2 ^ 64 ≤ receiver.expectedPage + 1

instance (receiver : RemoteAdvertisementReceiver Backend) (page : ObservationPage) :
    Decidable (Torn decodeSnapshot receiver page) :=
  decidable_of_iff
    (receiver.terminated = false ∧ page.sequence = receiver.expectedPage ∧
      page.entries.length ≤ receiver.maximumPageEntries ∧
      (∃ first ∈ page.entries.head?,
        Acceptable decodeSnapshot receiver.backend receiver.expectedNdx first) ∧
      (¬InOrder decodeSnapshot receiver.backend receiver.expectedNdx page.entries ∨
        2 ^ 64 ≤ receiver.expectedPage + 1))
    ⟨fun ⟨opened, expected, fits, begun, refused⟩ => ⟨opened, expected, fits, begun, refused⟩,
      fun torn => ⟨torn.opened, torn.expected, torn.fits, torn.begun, torn.refused⟩⟩

/-- The event is not a torn page. -/
def Whole (validation : Validation Entry Backend) : AdvertisementEvent → Prop
  | .page page => ¬Torn decodeSnapshot validation.receiver page
  | .entryFailure _ => True
  | .terminal _ => True

instance (validation : Validation Entry Backend) :
    ∀ event, Decidable (Whole decodeSnapshot validation event)
  | .page _ => inferInstanceAs (Decidable (¬_))
  | .entryFailure _ => inferInstanceAs (Decidable True)
  | .terminal _ => inferInstanceAs (Decidable True)

/-- An error leaves the counters as they were, or the receiver terminated. -/
def ErrorKeepsCounters (validation : Validation Entry Backend) (event : AdvertisementEvent) : Prop :=
  ∀ error, (validation.receiver.accept decodeSnapshot event).2 = .error error →
    let next := (validation.receiver.accept decodeSnapshot event).1
    next.terminated = true ∨
      (next.expectedPage, next.expectedNdx, next.entryFailures) =
        (validation.receiver.expectedPage, validation.receiver.expectedNdx,
          validation.receiver.entryFailures)

/-- One call of `accept`; an error is dropped and the feeding goes on. -/
def feed (validation : Validation Entry Backend) (event : AdvertisementEvent) :
    Validation Entry Backend :=
  match validation.receiver.accept decodeSnapshot event with
  | (receiver, .ok receipt) => ⟨receiver, validation.receipts ++ [receipt]⟩
  | (receiver, .error _) => ⟨receiver, validation.receipts⟩

def feeding : Machine (Validation Entry Backend) AdvertisementEvent where
  step validation event := some (feed decodeSnapshot validation event)

/-- Entries at the head of a page that the page loop takes. -/
def takenCount (backend : Backend) (start : SessionNdx) : List AdvertisedObservation → Nat
  | [] => 0
  | advertised :: rest =>
      if Acceptable decodeSnapshot backend start advertised then takenCount backend (start + 1) rest + 1
      else 0

end Pages

end Terrasync.App.Advertisement
