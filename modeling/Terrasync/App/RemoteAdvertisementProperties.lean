import Terrasync.App.RemoteAdvertisement

/-! Sender and receiver of an advertisement stay in step: after every event the
receiver expects the page, the index and the counts of the sender's projection. What
the sender tells is its traversal, cut into pages: entries under consecutive indices
with the failures between them. -/

set_option autoImplicit false

namespace Terrasync.App.Advertisement

open SyncDelta (Bytes)
open Transport (SessionNdx AdvertisedObservation ObservationPage AdvertisementFailureScope AdvertisementFailure
  AdvertisementTerminal AdvertisementEvent)

variable {Entry Backend DecodeError : Type}

/-- Entries of a traversal. -/
def entryCount : List (TraversalItem Entry) → Nat
  | [] => 0
  | .entry _ :: rest => entryCount rest + 1
  | .failure _ :: rest => entryCount rest
  | .directoryListed :: rest => entryCount rest
  | .checkpoint :: rest => entryCount rest
  | .unsupported _ :: rest => entryCount rest

/-- Entry failures of a traversal. -/
def failureCount : List (TraversalItem Entry) → Nat
  | [] => 0
  | .entry _ :: rest => failureCount rest
  | .failure _ :: rest => failureCount rest + 1
  | .directoryListed :: rest => failureCount rest
  | .checkpoint :: rest => failureCount rest
  | .unsupported _ :: rest => failureCount rest

def traversalEntries : List (TraversalItem Entry) → List Entry
  | [] => []
  | .entry entry :: rest => entry :: traversalEntries rest
  | .failure _ :: rest => traversalEntries rest
  | .directoryListed :: rest => traversalEntries rest
  | .checkpoint :: rest => traversalEntries rest
  | .unsupported _ :: rest => traversalEntries rest

def traversalFailures : List (TraversalItem Entry) → List EntryOperationFailure
  | [] => []
  | .entry _ :: rest => traversalFailures rest
  | .failure failure :: rest => failure :: traversalFailures rest
  | .directoryListed :: rest => traversalFailures rest
  | .checkpoint :: rest => traversalFailures rest
  | .unsupported _ :: rest => traversalFailures rest

theorem length_traversalEntries (items : List (TraversalItem Entry)) :
    (traversalEntries items).length = entryCount items := by
  induction items with
  | nil => rfl
  | cons item rest ih =>
      cases item <;> simp only [traversalEntries, entryCount, List.length_cons, ih]

theorem length_traversalFailures (items : List (TraversalItem Entry)) :
    (traversalFailures items).length = failureCount items := by
  induction items with
  | nil => rfl
  | cons item rest ih =>
      cases item <;> simp only [traversalFailures, failureCount, List.length_cons, ih]

/-- What an advertisement tells, one observation or failure at a time. -/
inductive Telling where
  | observation (observed : AdvertisedObservation)
  | failure (failure : AdvertisementFailure)
deriving DecidableEq, Repr

def AdvertisementEvent.tellings : AdvertisementEvent → List Telling
  | .page built => built.entries.map .observation
  | .entryFailure reported => [.failure reported]
  | .terminal _ => []

/-- The traversal in its own order, its entries under consecutive indices. -/
def traversalTellings (encodeSnapshot : Entry → Bytes) (start : SessionNdx) :
    List (TraversalItem Entry) → List Telling
  | [] => []
  | .entry entry :: rest =>
      .observation ⟨start, encodeSnapshot entry⟩ :: traversalTellings encodeSnapshot (start + 1) rest
  | .failure failure :: rest =>
      .failure (projectEntryFailure failure) :: traversalTellings encodeSnapshot start rest
  | .directoryListed :: rest => traversalTellings encodeSnapshot start rest
  | .checkpoint :: rest => traversalTellings encodeSnapshot start rest
  | .unsupported _ :: rest => traversalTellings encodeSnapshot start rest

def pagesOf : List AdvertisementEvent → List ObservationPage
  | [] => []
  | .page page :: rest => page :: pagesOf rest
  | .entryFailure _ :: rest => pagesOf rest
  | .terminal _ :: rest => pagesOf rest

theorem pagesOf_append (before after : List AdvertisementEvent) :
    pagesOf (before ++ after) = pagesOf before ++ pagesOf after := by
  induction before with
  | nil => rfl
  | cons event rest ih => cases event <;> simp only [List.cons_append, pagesOf, ih]

/-- The totals of a completed traversal count its entries and its failures. -/
structure Matching (totals : ScanTotals) (items : List (TraversalItem Entry)) : Prop where
  entries : entryCount items = totals.emitted.toNat
  failures : failureCount items = (totals.failedChildren + totals.listingFailures).toNat

def Supported (items : List (TraversalItem Entry)) : Prop :=
  ∀ description, TraversalItem.unsupported description ∉ items

/-- Consecutive indices from `start`. -/
def keyed (start : SessionNdx) : List Entry → List (SessionNdx × Entry)
  | [] => []
  | entry :: rest => (start, entry) :: keyed (start + 1) rest

theorem keyed_append (start : SessionNdx) (entries : List Entry) (last : Entry) :
    keyed start (entries ++ [last]) = keyed start entries ++ [(start + entries.length, last)] := by
  induction entries generalizing start with
  | nil => rfl
  | cons entry rest ih =>
      simp only [List.cons_append, keyed, ih, List.length_cons]
      rw [Nat.add_assoc, Nat.add_comm 1]

theorem length_keyed (start : SessionNdx) (entries : List Entry) :
    (keyed start entries).length = entries.length := by
  induction entries generalizing start with
  | nil => rfl
  | cons entry rest ih => rw [keyed, List.length_cons, ih, List.length_cons]

def snapshots (encodeSnapshot : Entry → Bytes) (start : SessionNdx) (entries : List Entry) :
    List AdvertisedObservation :=
  (keyed start entries).map fun entry => ⟨entry.1, encodeSnapshot entry.2⟩

open RemoteAdvertisementReceiver

theorem checkedSucc_of_lt {count : Nat} (bounded : count + 1 < 2 ^ 64) :
    checkedSucc count = some (count + 1) := if_pos bounded

theorem wrappingSucc_of_lt {count : Nat} (bounded : count + 1 < 2 ^ 64) :
    wrappingSucc count = count + 1 := Nat.mod_eq_of_lt bounded

section Contents

variable {encodeSnapshot : Entry → Bytes} {projection pushed final : AdvertisementProjection Entry}

/-- The projection still fits its page, and every page built took at least one entry. -/
structure Filling (projection : AdvertisementProjection Entry) : Prop where
  room : projection.pending.length < projection.pageSize
  pages : projection.nextPage + projection.pending.length ≤ projection.observedEntries

/-- What the events sent between two states of the projection carry. -/
structure Carries (projection final : AdvertisementProjection Entry) (events : List AdvertisementEvent)
    (told : List Telling) (seen : List Entry) (failed : List EntryOperationFailure) : Prop where
  told : events.flatMap AdvertisementEvent.tellings = projection.pending.map .observation ++ told
  sequence : (pagesOf events).map (·.sequence) = List.range' projection.nextPage (pagesOf events).length
  page : final.nextPage = projection.nextPage + (pagesOf events).length
  sized : ∀ page ∈ pagesOf events, page.entries ≠ [] ∧ page.entries.length ≤ projection.pageSize
  entries : final.entries = extendEntries projection.entries (keyed projection.observedEntries seen)
  failures : final.failures = projection.failures ++ failed.map projectEntryFailure

/-- Pages of the size given and failures, then everything after the first page or failure. -/
theorem Carries.cons_page {events : List AdvertisementEvent} {told : List Telling} {seen : List Entry}
    {failed : List EntryOperationFailure} (bounded : projection.nextPage + 1 < 2 ^ 64)
    (nonempty : projection.pending ≠ []) (fits : projection.pending.length ≤ projection.pageSize)
    (carries : Carries projection.buildPage.1 final events told seen failed) :
    Carries projection final (.page projection.buildPage.2 :: events) told seen failed := by
  have next : projection.buildPage.1.nextPage = projection.nextPage + 1 := wrappingSucc_of_lt bounded
  obtain ⟨contents, sequence, page, sized, entries, failures⟩ := carries
  refine ⟨?_, ?_, ?_, ?_, entries, failures⟩
  · rw [List.flatMap_cons, contents]
    rfl
  · rw [pagesOf, List.map_cons, sequence, next, List.length_cons, List.range'_succ]
    rfl
  · rw [page, next, pagesOf, List.length_cons]
    omega
  · intro built member
    rcases List.mem_cons.mp member with rfl | later
    · exact ⟨nonempty, fits⟩
    · exact sized built later

/-- `takePage` changes nothing of what is still to be told. -/
theorem Carries.takePage {events : List AdvertisementEvent} {told : List Telling} {seen : List Entry}
    {failed : List EntryOperationFailure} (filling : Filling projection)
    (bounded : projection.observedEntries < 2 ^ 64)
    (carries : Carries projection.takePage.1 final events told seen failed) :
    Carries projection final (pageEvents projection.takePage.2 ++ events) told seen failed := by
  unfold AdvertisementProjection.takePage at carries ⊢
  by_cases waiting : projection.pending.isEmpty
  · rw [if_pos waiting] at carries ⊢
    exact carries
  · rw [if_neg waiting] at carries ⊢
    have nonempty : projection.pending ≠ [] := fun empty => waiting (by rw [empty]; rfl)
    have positive := List.length_pos_iff.mpr nonempty
    have counted := filling.pages
    exact carries.cons_page (by omega) nonempty (Nat.le_of_lt filling.room)

theorem Filling.takePage (filling : Filling projection) (bounded : projection.observedEntries < 2 ^ 64) :
    Filling projection.takePage.1 ∧ projection.takePage.1.pending = [] ∧
      projection.takePage.1.observedEntries = projection.observedEntries := by
  unfold AdvertisementProjection.takePage
  split
  · rename_i waiting
    exact ⟨filling, List.isEmpty_iff.mp waiting, rfl⟩
  · rename_i waiting
    have nonempty : projection.pending ≠ [] := fun empty => waiting (by rw [empty]; rfl)
    have positive := List.length_pos_iff.mpr nonempty
    have counted := filling.pages
    refine ⟨⟨Nat.lt_of_le_of_lt (Nat.zero_le _) filling.room, ?_⟩, rfl, rfl⟩
    simp only [AdvertisementProjection.buildPage, List.length_nil,
      wrappingSucc_of_lt (show projection.nextPage + 1 < 2 ^ 64 by omega)]
    omega

theorem Carries.collect {entry : Entry} {observedEntries : Nat} {events : List AdvertisementEvent}
    {told : List Telling} {seen : List Entry} {failed : List EntryOperationFailure}
    (counted : observedEntries = projection.observedEntries + 1)
    (carries : Carries (projection.collect encodeSnapshot entry observedEntries) final events told seen failed) :
    Carries projection final events
      (.observation ⟨projection.observedEntries, encodeSnapshot entry⟩ :: told) (entry :: seen) failed := by
  subst counted
  obtain ⟨contents, sequence, page, sized, entries, failures⟩ := carries
  refine ⟨?_, sequence, page, sized, entries, failures⟩
  rw [contents, AdvertisementProjection.collect, List.map_append, List.append_assoc]
  rfl

/-- An entry pushed is told after what was pending, whether or not it fills the page. -/
theorem pushEntry_carries {entry : Entry} {page : Option ObservationPage} (filling : Filling projection)
    (accepted : (projection.pushEntry encodeSnapshot entry : Except (AppError DecodeError) _) =
      .ok (pushed, page)) :
    Filling pushed ∧ pushed.observedEntries = projection.observedEntries + 1 ∧
      pushed.observedEntries < 2 ^ 64 ∧
      ∀ {events : List AdvertisementEvent} {told : List Telling} {seen : List Entry}
        {failed : List EntryOperationFailure}, Carries pushed final events told seen failed →
        Carries projection final (pageEvents page ++ events)
          (.observation ⟨projection.observedEntries, encodeSnapshot entry⟩ :: told) (entry :: seen)
          failed := by
  have room := filling.room
  have counted := filling.pages
  unfold AdvertisementProjection.pushEntry checkedSucc at accepted
  by_cases bounded : projection.observedEntries + 1 < 2 ^ 64
  · rw [if_pos bounded] at accepted
    let collected := projection.collect encodeSnapshot entry (projection.observedEntries + 1)
    have length : collected.pending.length = projection.pending.length + 1 := List.length_append
    change (if collected.pending.length = collected.pageSize then
        Except.ok (collected.buildPage.1, some collected.buildPage.2)
      else Except.ok (collected, none)) = Except.ok (pushed, page) at accepted
    by_cases full : collected.pending.length = collected.pageSize
    · rw [if_pos full] at accepted
      obtain ⟨rfl, rfl⟩ := Prod.mk.inj (Except.ok.inj accepted)
      have next : collected.buildPage.1.nextPage = projection.nextPage + 1 :=
        wrappingSucc_of_lt (show projection.nextPage + 1 < 2 ^ 64 by omega)
      have nonempty : collected.pending ≠ [] := List.length_pos_iff.mp (by omega)
      refine ⟨⟨Nat.lt_of_le_of_lt (Nat.zero_le _) room, ?_⟩, rfl, bounded, fun carries => ?_⟩
      · rw [next]
        change projection.nextPage + 1 + 0 ≤ projection.observedEntries + 1
        omega
      · exact Carries.collect rfl (carries.cons_page
          (show projection.nextPage + 1 < 2 ^ 64 by omega) nonempty (Nat.le_of_eq full))
    · rw [if_neg full] at accepted
      obtain ⟨rfl, rfl⟩ := Prod.mk.inj (Except.ok.inj accepted)
      have size : collected.pageSize = projection.pageSize := rfl
      have fits : collected.pending.length < collected.pageSize := by omega
      refine ⟨⟨fits, ?_⟩, rfl, bounded, fun carries => Carries.collect rfl carries⟩
      change projection.nextPage + collected.pending.length ≤ projection.observedEntries + 1
      omega
  · rw [if_neg bounded] at accepted
    cases accepted

/-- A failure is told after the page flushed before it. -/
theorem Carries.recordFailure {failure : EntryOperationFailure} {events : List AdvertisementEvent}
    {told : List Telling} {seen : List Entry} {failed : List EntryOperationFailure}
    (flushed : projection.pending = [])
    (carries : Carries (projection.recordFailure (projectEntryFailure failure)) final events told seen failed) :
    Carries projection final (.entryFailure (projectEntryFailure failure) :: events)
      (.failure (projectEntryFailure failure) :: told) seen (failure :: failed) := by
  obtain ⟨contents, sequence, page, sized, entries, failures⟩ := carries
  refine ⟨?_, sequence, page, sized, entries, ?_⟩
  · rw [List.flatMap_cons, contents, flushed, AdvertisementProjection.recordFailure, flushed]
    rfl
  · rw [failures, AdvertisementProjection.recordFailure, List.map_cons, List.append_assoc]
    rfl

/-- The item loop tells the traversal: by induction on the items, the projection at
each of them being what was told so far and what waits for its page. -/
theorem advertiseItems_carries (items : List (TraversalItem Entry)) {events : List AdvertisementEvent}
    (filling : Filling projection) (bounded : projection.observedEntries < 2 ^ 64)
    (sent : (advertiseItems encodeSnapshot projection items :
      _ × Except (AppError DecodeError) (AdvertisementProjection Entry)) = (events, .ok final)) :
    Carries projection final events (traversalTellings encodeSnapshot projection.observedEntries items)
      (traversalEntries items) (traversalFailures items) := by
  induction items generalizing projection events with
  | nil =>
      cases sent
      have done : Carries projection.takePage.1 projection.takePage.1 [] [] [] [] := by
        refine ⟨?_, rfl, rfl, fun page member => absurd member List.not_mem_nil, rfl, (List.append_nil _).symm⟩
        rw [(filling.takePage bounded).2.1]
        rfl
      have told := done.takePage filling bounded
      rw [List.append_nil] at told
      exact told
  | cons item rest ih =>
      cases item with
      | entry entry =>
          rw [advertiseItems] at sent
          cases pushes : (projection.pushEntry encodeSnapshot entry : Except (AppError DecodeError) _) with
          | error error =>
              rw [pushes] at sent
              cases sent
          | ok accepted =>
              obtain ⟨pushed, page⟩ := accepted
              rw [pushes] at sent
              obtain ⟨rfl, ended⟩ := Prod.mk.inj sent
              obtain ⟨pushedFilling, observed, pushedBounded, carried⟩ := pushEntry_carries filling pushes
              have remaining := ih pushedFilling pushedBounded (Prod.ext rfl ended)
              rw [observed] at remaining
              exact carried remaining
      | failure failure =>
          rw [advertiseItems] at sent
          obtain ⟨rfl, ended⟩ := Prod.mk.inj sent
          obtain ⟨takenFilling, flushed, observed⟩ := filling.takePage bounded
          have recorded : Filling (projection.takePage.1.recordFailure (projectEntryFailure failure)) :=
            ⟨takenFilling.room, takenFilling.pages⟩
          have remaining := ih recorded (Nat.lt_of_le_of_lt (Nat.le_of_eq observed) bounded)
            (Prod.ext rfl ended)
          have told := (Carries.recordFailure flushed remaining).takePage filling bounded
          change Carries projection final _
            (.failure (projectEntryFailure failure) ::
              traversalTellings encodeSnapshot projection.takePage.1.observedEntries rest) _ _ at told
          rw [observed] at told
          exact told
      | directoryListed => exact ih filling bounded sent
      | checkpoint => exact ih filling bounded sent
      | unsupported description => cases sent

/-- Entries under consecutive indices, looked up by index. -/
theorem extendEntries_keyed (table : SessionNdx → Option Entry) (start : Nat) (entries : List Entry)
    (ndx : Nat) :
    extendEntries table (keyed start entries) ndx =
      if ndx < start then table ndx else (entries[ndx - start]?).or (table ndx) := by
  induction entries generalizing table start with
  | nil => simp [keyed, extendEntries]
  | cons entry rest ih =>
      have stepped := ih (Function.update table start (some entry)) (start + 1)
      simp only [extendEntries, keyed, List.foldl_cons] at stepped ⊢
      rw [stepped]
      rcases Nat.lt_trichotomy ndx start with before | same | after
      · rw [if_pos (by omega), if_pos before, Function.update_of_ne (Nat.ne_of_lt before)]
      · subst same
        simp
      · obtain ⟨offset, reached⟩ : ∃ offset, ndx - start = offset + 1 := ⟨ndx - start - 1, by omega⟩
        rw [if_neg (by omega), if_neg (by omega), Function.update_of_ne (Nat.ne_of_gt after), reached,
          List.getElem?_cons_succ, show ndx - (start + 1) = offset by omega]

/-- The advertisement of a complete traversal: its entries in order under the indices
from 0, its failures in order, and pages of 1 to `pageSize` entries in sequence. -/
structure Tells (encodeSnapshot : Entry → Bytes) (items : List (TraversalItem Entry)) (pageSize : Nat)
    (events : List AdvertisementEvent) (advertisement : RemoteAdvertisement Entry) : Prop where
  entries : ∀ ndx, advertisement.entries ndx = (traversalEntries items)[ndx]?
  failures : advertisement.failures = (traversalFailures items).map projectEntryFailure
  observedEntries : advertisement.observedEntries = (traversalEntries items).length
  entryFailures : advertisement.entryFailures = (traversalFailures items).length
  pageCount : advertisement.pageCount = (pagesOf events).length
  sequence : (pagesOf events).map (·.sequence) = List.range advertisement.pageCount
  sized : ∀ page ∈ pagesOf events, page.entries ≠ [] ∧ page.entries.length ≤ pageSize
  told : events.flatMap AdvertisementEvent.tellings = traversalTellings encodeSnapshot 0 items
  terminal : events.getLast? =
    some (.terminal (.completed (traversalEntries items).length (traversalFailures items).length))

theorem Carries.tells {items : List (TraversalItem Entry)} {pageSize : Nat} {events : List AdvertisementEvent}
    (carries : Carries (.new pageSize) final events (traversalTellings encodeSnapshot 0 items)
      (traversalEntries items) (traversalFailures items))
    (observed : final.observedEntries = (traversalEntries items).length)
    (failed : final.entryFailures = (traversalFailures items).length) :
    Tells encodeSnapshot items pageSize
      (events ++ [.terminal (.completed final.observedEntries final.entryFailures)]) final.finish := by
  obtain ⟨told, sequence, page, sized, entries, failures⟩ := carries
  have pages : pagesOf (events ++ [.terminal (.completed final.observedEntries final.entryFailures)]) =
      pagesOf events := by
    rw [pagesOf_append]
    exact List.append_nil _
  have counted : final.nextPage = (pagesOf events).length := by
    rw [page]
    exact Nat.zero_add _
  refine ⟨?_, failures, observed, failed, ?_, ?_, ?_, ?_, ?_⟩
  · intro ndx
    change final.entries ndx = _
    rw [entries, extendEntries_keyed]
    simp [AdvertisementProjection.new]
  · rw [pages]
    exact counted
  · rw [pages, sequence]
    change _ = List.range final.nextPage
    rw [counted, List.range_eq_range']
    rfl
  · rw [pages]
    exact sized
  · rw [List.flatMap_append, told]
    simp [AdvertisementProjection.new, AdvertisementEvent.tellings]
  · rw [List.getLast?_concat, observed, failed]

end Contents

section Codec

variable {encodeSnapshot : Entry → Bytes} {decodeSnapshot : Bytes → Backend → Except DecodeError Entry}
  {backend : Backend}

theorem acceptEntries_snapshots (inverse : ∀ entry, decodeSnapshot (encodeSnapshot entry) backend = .ok entry)
    {receiver : RemoteAdvertisementReceiver Backend} (same : receiver.backend = backend)
    (entries : List Entry) (bounded : receiver.expectedNdx + entries.length < 2 ^ 64) :
    acceptEntries decodeSnapshot receiver (snapshots encodeSnapshot receiver.expectedNdx entries) =
      ({ receiver with expectedNdx := receiver.expectedNdx + entries.length },
        .ok (keyed receiver.expectedNdx entries)) := by
  induction entries generalizing receiver with
  | nil => rfl
  | cons entry rest ih =>
      rw [List.length_cons] at bounded
      have remaining := @ih { receiver with expectedNdx := receiver.expectedNdx + 1 } same
        (by simp only; omega)
      simp only [snapshots, keyed, List.map_cons] at remaining ⊢
      have decoded := inverse entry
      rw [← same] at decoded
      rw [acceptEntries]
      simp only [ne_eq, not_true_eq_false, if_false, decoded,
        checkedSucc_of_lt (show receiver.expectedNdx + 1 < 2 ^ 64 by omega), remaining]
      simp only [Except.map, List.length_cons]
      rw [Nat.add_assoc, Nat.add_comm 1]

/-- A page of the expected sequence and indices is accepted as it stands. -/
theorem acceptPage_snapshots (inverse : ∀ entry, decodeSnapshot (encodeSnapshot entry) backend = .ok entry)
    {receiver : RemoteAdvertisementReceiver Backend} (same : receiver.backend = backend)
    {entries : List Entry} (nonempty : entries ≠ []) (fits : entries.length ≤ receiver.maximumPageEntries)
    (bounded : receiver.expectedNdx + entries.length < 2 ^ 64)
    (pageBound : receiver.expectedPage ≤ receiver.expectedNdx) :
    acceptPage decodeSnapshot receiver
        ⟨receiver.expectedPage, snapshots encodeSnapshot receiver.expectedNdx entries⟩ =
      ({ receiver with
          expectedNdx := receiver.expectedNdx + entries.length
          expectedPage := receiver.expectedPage + 1 },
        .ok ⟨receiver.expectedPage, keyed receiver.expectedNdx entries⟩) := by
  have positive := List.length_pos_iff.mpr nonempty
  have length : (snapshots encodeSnapshot receiver.expectedNdx entries).length = entries.length := by
    rw [snapshots, List.length_map, length_keyed]
  have sized : ¬(snapshots encodeSnapshot receiver.expectedNdx entries = [] ∨
      receiver.maximumPageEntries < (snapshots encodeSnapshot receiver.expectedNdx entries).length) := by
    rintro (none | many)
    · rw [none, List.length_nil] at length
      omega
    · omega
  refine (if_neg (by simp)).trans ((if_neg sized).trans ?_)
  rw [acceptEntries_snapshots inverse same entries bounded]
  simp only [checkedSucc_of_lt (show receiver.expectedPage + 1 < 2 ^ 64 by omega)]

/-- The receiver has accepted every event sent; `waiting` are the entries of the page
the projection is still collecting. -/
structure Synced (encodeSnapshot : Entry → Bytes) (backend : Backend)
    (projection : AdvertisementProjection Entry) (receiver : RemoteAdvertisementReceiver Backend)
    (entries : SessionNdx → Option Entry) (failures : List AdvertisementFailure)
    (waiting : List Entry) : Prop where
  opened : receiver.terminated = false
  backend : receiver.backend = backend
  capacity : projection.pageSize ≤ receiver.maximumPageEntries
  page : receiver.expectedPage = projection.nextPage
  pageBound : receiver.expectedPage ≤ receiver.expectedNdx
  failureCount : receiver.entryFailures = projection.entryFailures
  failures : failures = projection.failures
  pending : projection.pending = snapshots encodeSnapshot receiver.expectedNdx waiting
  entries : projection.entries = extendEntries entries (keyed receiver.expectedNdx waiting)
  observed : projection.observedEntries = receiver.expectedNdx + waiting.length

variable {projection : AdvertisementProjection Entry} {receiver : RemoteAdvertisementReceiver Backend}
  {entries : SessionNdx → Option Entry} {failures : List AdvertisementFailure} {waiting : List Entry}

/-- A non-empty page of at most the page size is accepted. -/
theorem receiveFrom_page (inverse : ∀ entry, decodeSnapshot (encodeSnapshot entry) backend = .ok entry)
    (synced : Synced encodeSnapshot backend projection receiver entries failures waiting)
    (nonempty : waiting ≠ []) (fits : waiting.length ≤ projection.pageSize)
    (bounded : projection.observedEntries < 2 ^ 64) :
    ∃ next : RemoteAdvertisementReceiver Backend,
      (∀ rest, receiver.receiveFrom decodeSnapshot entries failures (.page projection.buildPage.2 :: rest) =
        next.receiveFrom decodeSnapshot projection.entries failures rest) ∧
      Synced encodeSnapshot backend projection.buildPage.1 next projection.entries failures [] := by
  obtain ⟨opened, same, capacity, page, pageBound, failureCount, failuresEq, pending, tables, observed⟩ := synced
  have built : projection.buildPage.2 =
      ⟨receiver.expectedPage, snapshots encodeSnapshot receiver.expectedNdx waiting⟩ := by
    rw [AdvertisementProjection.buildPage, pending, page]
  have positive := List.length_pos_iff.mpr nonempty
  have accepted := @acceptPage_snapshots _ _ _ encodeSnapshot decodeSnapshot backend inverse receiver same
    waiting nonempty (Nat.le_trans fits capacity) (by omega) pageBound
  refine ⟨{ receiver with
    expectedNdx := receiver.expectedNdx + waiting.length, expectedPage := receiver.expectedPage + 1 }, ?_, ?_⟩
  · intro rest
    rw [receiveFrom, accept, if_neg (by simp [opened]), built, tables]
    simp only [accepted, Except.map]
  · refine ⟨opened, same, capacity, ?_, ?_, failureCount, failuresEq, rfl, rfl, observed⟩
    · rw [page]
      exact (wrappingSucc_of_lt (by omega)).symm
    · simp only
      omega

theorem receiveFrom_takePage (inverse : ∀ entry, decodeSnapshot (encodeSnapshot entry) backend = .ok entry)
    (synced : Synced encodeSnapshot backend projection receiver entries failures waiting)
    (fits : waiting.length ≤ projection.pageSize) (bounded : projection.observedEntries < 2 ^ 64) :
    ∃ (next : RemoteAdvertisementReceiver Backend) (nextEntries : SessionNdx → Option Entry),
      (∀ rest, receiver.receiveFrom decodeSnapshot entries failures
          (pageEvents projection.takePage.2 ++ rest) =
        next.receiveFrom decodeSnapshot nextEntries failures rest) ∧
      Synced encodeSnapshot backend projection.takePage.1 next nextEntries failures [] := by
  cases waiting with
  | nil =>
      have idle : projection.takePage = (projection, none) := by
        rw [AdvertisementProjection.takePage, synced.pending]
        rfl
      rw [idle]
      exact ⟨receiver, entries, fun _ => rfl, synced⟩
  | cons entry others =>
      have flushed : projection.takePage = (projection.buildPage.1, some projection.buildPage.2) := by
        rw [AdvertisementProjection.takePage, synced.pending]
        rfl
      rw [flushed]
      obtain ⟨next, received, after⟩ := receiveFrom_page inverse synced (by simp) fits bounded
      exact ⟨next, projection.entries, received, after⟩

theorem synced_failure (synced : Synced encodeSnapshot backend projection receiver entries failures [])
    (failure : EntryOperationFailure) (bounded : projection.entryFailures + 1 < 2 ^ 64) :
    (∀ rest, receiver.receiveFrom decodeSnapshot entries failures
        (.entryFailure (projectEntryFailure failure) :: rest) =
      receiveFrom decodeSnapshot { receiver with entryFailures := receiver.entryFailures + 1 } entries
        (failures ++ [projectEntryFailure failure]) rest) ∧
    Synced encodeSnapshot backend (projection.recordFailure (projectEntryFailure failure))
      { receiver with entryFailures := receiver.entryFailures + 1 } entries
      (failures ++ [projectEntryFailure failure]) [] := by
  obtain ⟨opened, same, capacity, page, pageBound, failureCount, failuresEq, pending, tables, observed⟩ := synced
  constructor
  · intro rest
    rw [receiveFrom, accept, if_neg (by simp [opened])]
    simp only [acceptFailure, projectEntryFailure, ne_eq, not_true_eq_false, if_false,
      checkedSucc_of_lt (show receiver.entryFailures + 1 < 2 ^ 64 by omega), Except.map]
  · refine ⟨opened, same, capacity, page, pageBound, ?_, ?_, pending, tables, observed⟩
    · simp only [AdvertisementProjection.recordFailure, wrappingSucc_of_lt bounded, failureCount]
    · simp only [AdvertisementProjection.recordFailure, failuresEq]

theorem synced_collect (synced : Synced encodeSnapshot backend projection receiver entries failures waiting)
    (entry : Entry) :
    Synced encodeSnapshot backend
      (projection.collect encodeSnapshot entry (projection.observedEntries + 1)) receiver entries failures
      (waiting ++ [entry]) := by
  obtain ⟨opened, same, capacity, page, pageBound, failureCount, failuresEq, pending, tables, observed⟩ := synced
  refine ⟨opened, same, capacity, page, pageBound, failureCount, failuresEq, ?_, ?_, ?_⟩
  · simp only [AdvertisementProjection.collect, snapshots, keyed_append, List.map_append, pending, observed,
      List.map_cons, List.map_nil]
  · simp only [AdvertisementProjection.collect, extendEntries, keyed_append, List.foldl_append, tables,
      observed, List.foldl_cons, List.foldl_nil]
  · simp only [AdvertisementProjection.collect, observed, List.length_append, List.length_singleton]
    omega

/-- `pushEntry` collects an entry and sends the page it completes. -/
theorem receiveFrom_pushEntry (inverse : ∀ entry, decodeSnapshot (encodeSnapshot entry) backend = .ok entry)
    (synced : Synced encodeSnapshot backend projection receiver entries failures waiting)
    (room : waiting.length < projection.pageSize) (entry : Entry)
    (bounded : projection.observedEntries + 1 < 2 ^ 64) :
    ∃ (pushed : AdvertisementProjection Entry) (page : Option ObservationPage)
        (next : RemoteAdvertisementReceiver Backend) (nextEntries : SessionNdx → Option Entry)
        (nextWaiting : List Entry),
      (projection.pushEntry encodeSnapshot entry : Except (AppError DecodeError) _) = .ok (pushed, page) ∧
      pushed.observedEntries = projection.observedEntries + 1 ∧
      pushed.entryFailures = projection.entryFailures ∧ pushed.pageSize = projection.pageSize ∧
      nextWaiting.length < pushed.pageSize ∧
      (∀ rest, receiver.receiveFrom decodeSnapshot entries failures (pageEvents page ++ rest) =
        next.receiveFrom decodeSnapshot nextEntries failures rest) ∧
      Synced encodeSnapshot backend pushed next nextEntries failures nextWaiting := by
  let pushed := projection.collect encodeSnapshot entry (projection.observedEntries + 1)
  have grown : Synced encodeSnapshot backend pushed receiver entries failures (waiting ++ [entry]) :=
    synced_collect synced entry
  have length : pushed.pending.length = waiting.length + 1 := by
    rw [grown.pending, snapshots, List.length_map, length_keyed, List.length_append,
      List.length_singleton]
  have pushes : (projection.pushEntry encodeSnapshot entry : Except (AppError DecodeError) _) =
      if pushed.pending.length = pushed.pageSize then .ok (pushed.buildPage.1, some pushed.buildPage.2)
      else .ok (pushed, none) := by
    rw [AdvertisementProjection.pushEntry, checkedSucc_of_lt bounded]
  by_cases full : pushed.pending.length = pushed.pageSize
  · obtain ⟨next, received, after⟩ := receiveFrom_page inverse grown (by simp)
      (Nat.le_of_eq (by rw [← full, length, List.length_append, List.length_singleton])) bounded
    exact ⟨pushed.buildPage.1, some pushed.buildPage.2, next, pushed.entries, [],
      pushes.trans (if_pos full), rfl, rfl, rfl, Nat.lt_of_le_of_lt (Nat.zero_le _) room, received, after⟩
  · refine ⟨pushed, none, receiver, entries, waiting ++ [entry], pushes.trans (if_neg full), rfl, rfl, rfl,
      ?_, fun _ => rfl, grown⟩
    rw [length] at full
    rw [List.length_append, List.length_singleton]
    exact Nat.lt_of_le_of_ne room full

/-- The item loop: every event sent is accepted, and nothing is left waiting. -/
theorem receiveFrom_advertiseItems
    (inverse : ∀ entry, decodeSnapshot (encodeSnapshot entry) backend = .ok entry)
    (items : List (TraversalItem Entry)) (supported : Supported items)
    (synced : Synced encodeSnapshot backend projection receiver entries failures waiting)
    (room : waiting.length < projection.pageSize)
    (entriesFit : projection.observedEntries + entryCount items < 2 ^ 64)
    (failuresFit : projection.entryFailures + failureCount items < 2 ^ 64) :
    ∃ (events : List AdvertisementEvent) (final : AdvertisementProjection Entry)
        (next : RemoteAdvertisementReceiver Backend) (nextEntries : SessionNdx → Option Entry)
        (nextFailures : List AdvertisementFailure),
      (advertiseItems encodeSnapshot projection items :
        _ × Except (AppError DecodeError) (AdvertisementProjection Entry)) = (events, .ok final) ∧
      final.observedEntries = projection.observedEntries + entryCount items ∧
      final.entryFailures = projection.entryFailures + failureCount items ∧
      (∀ rest, receiver.receiveFrom decodeSnapshot entries failures (events ++ rest) =
        next.receiveFrom decodeSnapshot nextEntries nextFailures rest) ∧
      Synced encodeSnapshot backend final next nextEntries nextFailures [] := by
  induction items generalizing projection receiver entries failures waiting with
  | nil =>
      obtain ⟨next, nextEntries, received, after⟩ :=
        receiveFrom_takePage inverse synced (Nat.le_of_lt room) entriesFit
      refine ⟨_, _, next, nextEntries, failures, rfl, ?_, ?_, received, after⟩
      · simp only [AdvertisementProjection.takePage, entryCount]
        split <;> rfl
      · simp only [AdvertisementProjection.takePage, failureCount]
        split <;> rfl
  | cons item rest ih =>
      have restSupported : Supported rest := fun description member =>
        supported description (List.mem_cons_of_mem item member)
      cases item with
      | entry entry =>
          simp only [entryCount, failureCount] at entriesFit failuresFit ⊢
          obtain ⟨pushed, page, middle, middleEntries, middleWaiting, pushes, observed, failed, size,
            middleRoom, received, middleSynced⟩ :=
            @receiveFrom_pushEntry _ _ DecodeError _ _ _ _ _ _ _ _ inverse synced room entry (by omega)
          obtain ⟨events, final, next, nextEntries, nextFailures, sent, finalObserved, finalFailed,
            receivedRest, after⟩ := ih restSupported middleSynced middleRoom (by omega) (by omega)
          refine ⟨pageEvents page ++ events, final, next, nextEntries, nextFailures, ?_, by omega,
            by omega, ?_, after⟩
          · rw [advertiseItems, pushes]
            simp only [sent]
          · intro others
            rw [List.append_assoc, received, receivedRest]
      | failure failure =>
          simp only [entryCount, failureCount] at entriesFit failuresFit ⊢
          obtain ⟨middle, middleEntries, received, middleSynced⟩ :=
            receiveFrom_takePage inverse synced (Nat.le_of_lt room) (by omega)
          have kept : projection.takePage.1.observedEntries = projection.observedEntries ∧
              projection.takePage.1.entryFailures = projection.entryFailures ∧
              projection.takePage.1.pageSize = projection.pageSize := by
            simp only [AdvertisementProjection.takePage]
            split <;> exact ⟨rfl, rfl, rfl⟩
          obtain ⟨observedKept, failuresKept, sizeKept⟩ := kept
          obtain ⟨receivedFailure, failureSynced⟩ :=
            @synced_failure _ _ DecodeError _ decodeSnapshot _ _ _ _ _ middleSynced failure
              (by rw [failuresKept]; omega)
          have counted : (projection.takePage.1.recordFailure (projectEntryFailure failure)).entryFailures =
              projection.entryFailures + 1 := by
            rw [AdvertisementProjection.recordFailure, failuresKept, wrappingSucc_of_lt (by omega)]
          obtain ⟨events, final, next, nextEntries, nextFailures, sent, finalObserved, finalFailed,
            receivedRest, after⟩ := ih restSupported failureSynced
              (by
                simp only [AdvertisementProjection.recordFailure, sizeKept, List.length_nil]
                omega)
              (by simp only [AdvertisementProjection.recordFailure, observedKept]; omega)
              (by rw [counted]; omega)
          refine ⟨pageEvents projection.takePage.2 ++ .entryFailure (projectEntryFailure failure) :: events,
            final, next, nextEntries, nextFailures, ?_, ?_, ?_, ?_, after⟩
          · simp only [advertiseItems, sent]
          · rw [finalObserved]
            simp only [AdvertisementProjection.recordFailure, observedKept]
          · rw [finalFailed, counted]
            omega
          · intro others
            rw [List.append_assoc, received, List.cons_append, receivedFailure, receivedRest]
      | directoryListed => exact ih restSupported synced room entriesFit failuresFit
      | checkpoint => exact ih restSupported synced room entriesFit failuresFit
      | unsupported description => exact absurd (by simp) (supported description)

/-- A complete traversal is advertised without error, in pages that tell its entries
and failures in order, and received as it was sent: same entries under the same
indices, same failures, same counts. -/
theorem receive_advertiseRemote (encodeSnapshot : Entry → Bytes)
    (decodeSnapshot : Bytes → Backend → Except DecodeError Entry) (backend : Backend)
    (inverse : ∀ entry, decodeSnapshot (encodeSnapshot entry) backend = .ok entry)
    (items : List (TraversalItem Entry)) (supported : Supported items) (totals : ScanTotals)
    (matching : Matching totals items) (pageSize maximumPageEntries : Nat) (positive : 0 < pageSize)
    (within : pageSize ≤ maximumPageEntries) :
    ∃ (events : List AdvertisementEvent) (advertisement : RemoteAdvertisement Entry),
      (advertiseRemote encodeSnapshot items (.completed totals) pageSize :
        _ × Except (AppError DecodeError) (RemoteAdvertisement Entry)) = (events, .ok advertisement) ∧
      RemoteAdvertisementReceiver.receive decodeSnapshot (.new maximumPageEntries backend) events =
        .ok advertisement ∧
      Tells encodeSnapshot items pageSize events advertisement := by
  have fresh : Synced encodeSnapshot backend (.new pageSize) (.new maximumPageEntries backend)
      (fun _ => none) [] [] :=
    ⟨rfl, rfl, within, rfl, Nat.le_refl 0, rfl, rfl, rfl, rfl, rfl⟩
  have entriesFit : 0 + entryCount items < 2 ^ 64 := by
    rw [matching.entries, Nat.zero_add]
    exact totals.emitted.toNat_lt
  have failuresFit : 0 + failureCount items < 2 ^ 64 := by
    rw [matching.failures, Nat.zero_add]
    exact (totals.failedChildren + totals.listingFailures).toNat_lt
  obtain ⟨events, final, next, nextEntries, nextFailures, sent, observed, failed, received, synced⟩ :=
    @receiveFrom_advertiseItems _ _ DecodeError _ _ _ _ _ _ _ _ inverse items supported fresh positive
      entriesFit failuresFit
  have observedTotal : final.observedEntries = totals.emitted.toNat := by
    rw [observed, ← matching.entries]
    exact Nat.zero_add _
  have failedTotal :
      final.entryFailures = (totals.failedChildren + totals.listingFailures).toNat := by
    rw [failed, ← matching.failures]
    exact Nat.zero_add _
  refine ⟨events ++ [.terminal (.completed final.observedEntries final.entryFailures)], final.finish,
    ?_, ?_, ?_⟩
  · rw [advertiseRemote, sent]
    simp only [advertiseTerminal, observedTotal, failedTotal, ne_eq, not_true_eq_false, or_self,
      if_false]
  · obtain ⟨opened, -, -, page, -, failureCount, failuresEq, -, tables, count⟩ := synced
    rw [List.length_nil, Nat.add_zero] at count
    rw [receive, received, receiveFrom, accept, if_neg (by simp [opened])]
    simp only [acceptTerminal, validateCounts, count, failureCount, and_self, if_true, bind, Except.bind,
      pure, Except.pure, Except.map, List.isEmpty_nil, page, AdvertisementProjection.finish, tables,
      failuresEq, keyed, extendEntries, List.foldl_nil]
  · have filling : Filling (.new pageSize : AdvertisementProjection Entry) := ⟨positive, Nat.le_refl 0⟩
    have carries := advertiseItems_carries items filling (Nat.lt_of_le_of_lt (Nat.le_add_right _ _) entriesFit)
      sent
    refine carries.tells ?_ ?_
    · rw [observed, length_traversalEntries]
      exact Nat.zero_add _
    · rw [failed, length_traversalFailures]
      exact Nat.zero_add _

end Codec

/-- The codec of entries that are their own snapshots. -/
def decodeIdentity (snapshot : Bytes) (_ : Unit) : Except Empty Bytes := .ok snapshot

/-- Three entries and a failure between them, in pages of two. -/
theorem receive_advertiseRemote_sample :
    ∃ (events : List AdvertisementEvent) (advertisement : RemoteAdvertisement Bytes),
      (advertiseRemote id
          [.entry [1], .failure ⟨"d", "List", "NotFound", "Permanent", "gone"⟩, .entry [2],
            .directoryListed, .entry [3]]
          (.completed ⟨3, 1, 0⟩) 2 :
        _ × Except (AppError Empty) (RemoteAdvertisement Bytes)) = (events, .ok advertisement) ∧
      RemoteAdvertisementReceiver.receive decodeIdentity (.new 2 ()) events = .ok advertisement ∧
      Tells id
        [.entry [1], .failure ⟨"d", "List", "NotFound", "Permanent", "gone"⟩, .entry [2],
          .directoryListed, .entry [3]] 2 events advertisement :=
  receive_advertiseRemote id decodeIdentity () (fun _ => rfl) _ (by intro description; simp) ⟨3, 1, 0⟩
    ⟨rfl, rfl⟩ 2 2 (by decide) (by decide)

end Terrasync.App.Advertisement
