import Terrasync.App.AdvertisementEvidence

/-! The evidence of a completed advertisement against the receipts its caller holds:
what one event does to the counters, and what a run of events does. -/

set_option autoImplicit false

namespace Terrasync.App.Advertisement

open Lib (Machine)
open SyncDelta (Bytes)
open Transport (SessionNdx AdvertisedObservation ObservationPage AdvertisementFailureScope AdvertisementFailure
  AdvertisementTerminal AdvertisementEvent)

variable {Entry Backend DecodeError : Type}

theorem receivedEntries_append (first second : List (AdvertisementReceipt Entry)) :
    receivedEntries (first ++ second) = receivedEntries first + receivedEntries second := by
  induction first with
  | nil => simp [receivedEntries]
  | cons receipt rest ih => cases receipt <;> simp [receivedEntries, ih, Nat.add_assoc]

theorem receivedPages_append (first second : List (AdvertisementReceipt Entry)) :
    receivedPages (first ++ second) = receivedPages first + receivedPages second := by
  induction first with
  | nil => simp [receivedPages]
  | cons receipt rest ih => cases receipt <;> simp [receivedPages, ih, Nat.add_right_comm]

theorem receivedFailures_append (first second : List (AdvertisementReceipt Entry)) :
    receivedFailures (first ++ second) = receivedFailures first + receivedFailures second := by
  induction first with
  | nil => simp [receivedFailures]
  | cons receipt rest ih => cases receipt <;> simp [receivedFailures, ih, Nat.add_right_comm]

open RemoteAdvertisementReceiver

variable {decodeSnapshot : Bytes → Backend → Except DecodeError Entry}

theorem inOrder_cons {backend : Backend} {start : SessionNdx} {advertised : AdvertisedObservation}
    {rest : List AdvertisedObservation} :
    InOrder decodeSnapshot backend start (advertised :: rest) ↔
      Acceptable decodeSnapshot backend start advertised ∧
        InOrder decodeSnapshot backend (start + 1) rest := by
  constructor
  · intro ordered
    refine ⟨ordered ⟨0, Nat.succ_pos _⟩, fun position => ?_⟩
    have shifted := ordered position.succ
    rw [Fin.val_succ, Nat.add_comm _ 1, ← Nat.add_assoc] at shifted
    exact shifted
  · rintro ⟨first, later⟩ ⟨position, bound⟩
    cases position with
    | zero => exact first
    | succ position =>
        have shifted := later ⟨position, Nat.lt_of_succ_lt_succ bound⟩
        rw [Nat.add_assoc, Nat.add_comm 1] at shifted
        exact shifted

theorem takenCount_eq_length {backend : Backend} {start : SessionNdx}
    {entries : List AdvertisedObservation} :
    takenCount decodeSnapshot backend start entries = entries.length ↔
      InOrder decodeSnapshot backend start entries := by
  induction entries generalizing start with
  | nil => exact ⟨fun _ position => position.elim0, fun _ => rfl⟩
  | cons advertised rest ih =>
      rw [inOrder_cons, takenCount, List.length_cons]
      split
      case isTrue acceptable => rw [Nat.add_right_cancel_iff, ih, and_iff_right acceptable]
      case isFalse refused =>
          exact ⟨fun none => by omega, fun ordered => absurd ordered.1 refused⟩

theorem takenCount_pos {backend : Backend} {start : SessionNdx} {entries : List AdvertisedObservation} :
    0 < takenCount decodeSnapshot backend start entries ↔
      ∃ first ∈ entries.head?, Acceptable decodeSnapshot backend start first := by
  cases entries with
  | nil => simp [takenCount]
  | cons advertised rest =>
      rw [takenCount]
      split
      case isTrue acceptable => simpa using acceptable
      case isFalse refused => simpa using refused

theorem acceptEntries_acceptable {receiver : RemoteAdvertisementReceiver Backend}
    {advertised : AdvertisedObservation}
    (acceptable : Acceptable decodeSnapshot receiver.backend receiver.expectedNdx advertised)
    (rest : List AdvertisedObservation) :
    ∃ entry, acceptEntries decodeSnapshot receiver (advertised :: rest) =
      let remaining := acceptEntries decodeSnapshot
        { receiver with expectedNdx := receiver.expectedNdx + 1 } rest
      (remaining.1, remaining.2.map fun entries => (advertised.ndx, entry) :: entries) := by
  obtain ⟨ordered, decodes, bounded⟩ := acceptable
  cases decoded : decodeSnapshot advertised.snapshot receiver.backend with
  | error source =>
      rw [decoded] at decodes
      cases decodes
  | ok entry =>
      refine ⟨entry, ?_⟩
      rw [acceptEntries]
      simp only [ordered, ne_eq, not_true_eq_false, if_false, decoded, checkedSucc, if_pos bounded]

theorem acceptEntries_refused {receiver : RemoteAdvertisementReceiver Backend}
    {advertised : AdvertisedObservation}
    (refused : ¬Acceptable decodeSnapshot receiver.backend receiver.expectedNdx advertised)
    (rest : List AdvertisedObservation) :
    ∃ error, acceptEntries decodeSnapshot receiver (advertised :: rest) = (receiver, .error error) := by
  rw [acceptEntries]
  by_cases ordered : advertised.ndx = receiver.expectedNdx
  · rw [if_neg (not_not_intro ordered)]
    cases decoded : decodeSnapshot advertised.snapshot receiver.backend with
    | error source => exact ⟨_, rfl⟩
    | ok entry =>
        have exhausted : ¬receiver.expectedNdx + 1 < 2 ^ 64 := fun bounded =>
          refused ⟨ordered, by rw [decoded]; rfl, bounded⟩
        simp only [checkedSucc, if_neg exhausted]
        exact ⟨_, rfl⟩
  · exact ⟨_, if_pos ordered⟩

/-- The page loop advances the expected index by the entries it took, whether or not it
reaches the end of the page. -/
theorem acceptEntries_spec (receiver : RemoteAdvertisementReceiver Backend)
    (entries : List AdvertisedObservation) :
    let taken := takenCount decodeSnapshot receiver.backend receiver.expectedNdx entries
    ∃ result, acceptEntries decodeSnapshot receiver entries =
        ({ receiver with expectedNdx := receiver.expectedNdx + taken }, result) ∧
      (∀ decoded, result = .ok decoded → taken = entries.length ∧ decoded.length = entries.length) ∧
      ∀ error, result = .error error → taken < entries.length := by
  induction entries generalizing receiver with
  | nil =>
      refine ⟨.ok [], rfl, ?_, fun error failed => by cases failed⟩
      rintro decoded ⟨⟩
      exact ⟨rfl, rfl⟩
  | cons advertised rest ih =>
      intro taken
      by_cases acceptable :
          Acceptable decodeSnapshot receiver.backend receiver.expectedNdx advertised
      · obtain ⟨entry, step⟩ := acceptEntries_acceptable acceptable rest
        obtain ⟨result, looped, succeeded, failed⟩ :=
          ih { receiver with expectedNdx := receiver.expectedNdx + 1 }
        have counted : taken = takenCount decodeSnapshot receiver.backend (receiver.expectedNdx + 1) rest + 1 :=
          if_pos acceptable
        rw [looped] at step
        refine ⟨result.map fun entries => (advertised.ndx, entry) :: entries, ?_, ?_, ?_⟩
        · rw [step, counted, Nat.add_assoc, Nat.add_comm 1]
        · intro decoded mapped
          cases result with
          | error error => cases mapped
          | ok later =>
              cases mapped
              obtain ⟨all, length⟩ := succeeded later rfl
              rw [counted, List.length_cons, List.length_cons, length]
              exact ⟨congrArg (· + 1) all, rfl⟩
        · intro error mapped
          cases result with
          | error error =>
              rw [counted, List.length_cons]
              exact Nat.succ_lt_succ (failed error rfl)
          | ok later => cases mapped
      · obtain ⟨error, step⟩ := acceptEntries_refused acceptable rest
        have counted : taken = 0 := if_neg acceptable
        refine ⟨.error error, ?_, ?_, ?_⟩
        · rw [step, counted, Nat.add_zero]
        · intro decoded succeeded
          cases succeeded
        · intro _ _
          rw [counted]
          exact Nat.succ_pos _

/-- Entries that a page takes from the count without returning them. -/
def tornCount (decodeSnapshot : Bytes → Backend → Except DecodeError Entry)
    (receiver : RemoteAdvertisementReceiver Backend) (page : ObservationPage) : Nat :=
  if Torn decodeSnapshot receiver page then
    takenCount decodeSnapshot receiver.backend receiver.expectedNdx page.entries
  else 0

theorem tornCount_pos {receiver : RemoteAdvertisementReceiver Backend} {page : ObservationPage} :
    0 < tornCount decodeSnapshot receiver page ↔ Torn decodeSnapshot receiver page := by
  rw [tornCount]
  split
  case isTrue torn => exact iff_of_true (takenCount_pos.2 torn.begun) torn
  case isFalse whole => exact iff_of_false (Nat.lt_irrefl 0) whole

/-- A page of the expected number and size that is refused loses the entries taken. -/
theorem tornCount_refused {receiver : RemoteAdvertisementReceiver Backend} {page : ObservationPage}
    (opened : receiver.terminated = false) (expected : page.sequence = receiver.expectedPage)
    (fits : page.entries.length ≤ receiver.maximumPageEntries)
    (refused : ¬InOrder decodeSnapshot receiver.backend receiver.expectedNdx page.entries ∨
      2 ^ 64 ≤ receiver.expectedPage + 1) :
    tornCount decodeSnapshot receiver page =
      takenCount decodeSnapshot receiver.backend receiver.expectedNdx page.entries := by
  rw [tornCount]
  split
  case isTrue torn => rfl
  case isFalse whole =>
      have untaken : ¬0 < takenCount decodeSnapshot receiver.backend receiver.expectedNdx page.entries :=
        fun taken => whole ⟨opened, expected, fits, takenCount_pos.1 taken, refused⟩
      omega

/-- What a page does to an open receiver. -/
theorem acceptPage_spec {receiver : RemoteAdvertisementReceiver Backend} {page : ObservationPage}
    (opened : receiver.terminated = false) :
    (∃ error, acceptPage decodeSnapshot receiver page =
      ({ receiver with
        expectedNdx := receiver.expectedNdx + tornCount decodeSnapshot receiver page }, .error error)) ∨
    ∃ entries, ¬Torn decodeSnapshot receiver page ∧ acceptPage decodeSnapshot receiver page =
      ({ receiver with
        expectedNdx := receiver.expectedNdx + entries.length
        expectedPage := receiver.expectedPage + 1 }, .ok ⟨page.sequence, entries⟩) := by
  by_cases expected : page.sequence = receiver.expectedPage
  swap
  · have whole : ¬Torn decodeSnapshot receiver page := fun torn => expected torn.expected
    rw [tornCount, if_neg whole]
    exact .inl ⟨_, if_pos expected⟩
  by_cases sized : page.entries = [] ∨ receiver.maximumPageEntries < page.entries.length
  · have whole : ¬Torn decodeSnapshot receiver page := by
      intro torn
      cases sized with
      | inl empty =>
          obtain ⟨first, member, -⟩ := torn.begun
          rw [empty] at member
          cases member
      | inr long => exact Nat.not_le_of_lt long torn.fits
    rw [tornCount, if_neg whole]
    exact .inl ⟨_, (if_neg (not_not_intro expected)).trans (if_pos sized)⟩
  have fits : page.entries.length ≤ receiver.maximumPageEntries :=
    Nat.le_of_not_lt fun long => sized (.inr long)
  obtain ⟨result, looped, succeeded, failed⟩ :=
    @acceptEntries_spec _ _ _ decodeSnapshot receiver page.entries
  have entered : acceptPage decodeSnapshot receiver page = _ :=
    (if_neg (not_not_intro expected)).trans (if_neg sized)
  rw [looped] at entered
  cases result with
  | error error =>
      have disordered : ¬InOrder decodeSnapshot receiver.backend receiver.expectedNdx page.entries :=
        fun ordered => Nat.ne_of_lt (failed error rfl) (takenCount_eq_length.2 ordered)
      rw [tornCount_refused opened expected fits (.inl disordered)]
      exact .inl ⟨error, entered⟩
  | ok entries =>
      obtain ⟨all, length⟩ := succeeded entries rfl
      by_cases bounded : receiver.expectedPage + 1 < 2 ^ 64
      · refine .inr ⟨entries, ?_, ?_⟩
        · intro torn
          cases torn.refused with
          | inl disordered => exact disordered (takenCount_eq_length.1 all)
          | inr exhausted => exact Nat.not_le_of_lt bounded exhausted
        · simp only [checkedSucc, if_pos bounded] at entered
          rw [entered, all, length]
      · rw [tornCount_refused opened expected fits (.inr (Nat.le_of_not_lt bounded))]
        simp only [checkedSucc, if_neg bounded] at entered
        exact .inl ⟨_, entered⟩

theorem accept_page {receiver : RemoteAdvertisementReceiver Backend}
    (opened : receiver.terminated = false) (page : ObservationPage) :
    receiver.accept decodeSnapshot (.page page) =
      ((acceptPage decodeSnapshot receiver page).1,
        (acceptPage decodeSnapshot receiver page).2.map .page) := by
  rw [accept, opened]
  rfl

theorem accept_terminated {receiver : RemoteAdvertisementReceiver Backend}
    (terminated : receiver.terminated = true) (event : AdvertisementEvent) :
    receiver.accept decodeSnapshot event =
      (receiver, .error (.protocol "event received after terminal")) :=
  if_pos terminated

/-- Entries that an event takes from the count without returning them. -/
def lostCount (decodeSnapshot : Bytes → Backend → Except DecodeError Entry)
    (receiver : RemoteAdvertisementReceiver Backend) : AdvertisementEvent → Nat
  | .page page => tornCount decodeSnapshot receiver page
  | .entryFailure _ => 0
  | .terminal _ => 0

theorem lostCount_eq_zero {validation : Validation Entry Backend} {event : AdvertisementEvent} :
    lostCount decodeSnapshot validation.receiver event = 0 ↔ Whole decodeSnapshot validation event := by
  cases event with
  | page page =>
      rw [lostCount, Whole, ← tornCount_pos]
      omega
  | entryFailure failure => exact iff_of_true rfl trivial
  | terminal terminal => exact iff_of_true rfl trivial

/-- The counters agree with the receipts, `lost` entries apart. -/
structure Counted (validation : Validation Entry Backend) (lost : Nat) : Prop where
  pages : validation.receiver.expectedPage = receivedPages validation.receipts
  entries : validation.receiver.expectedNdx = receivedEntries validation.receipts + lost
  failures : validation.receiver.entryFailures = receivedFailures validation.receipts

theorem Counted.page {validation : Validation Entry Backend} {lost : Nat} (counted : Counted validation lost)
    (opened : validation.receiver.terminated = false) (page : ObservationPage) :
    Counted (feed decodeSnapshot validation (.page page))
      (lost + tornCount decodeSnapshot validation.receiver page) := by
  rw [feed, accept_page opened]
  obtain ⟨error, refused⟩ | ⟨entries, whole, taken⟩ :=
    @acceptPage_spec _ _ _ decodeSnapshot validation.receiver page opened
  · rw [refused]
    refine ⟨counted.pages, ?_, counted.failures⟩
    simp only [Except.map, counted.entries, Nat.add_assoc]
  · rw [taken, tornCount, if_neg whole]
    refine ⟨?_, ?_, ?_⟩
    · simp only [Except.map, receivedPages_append, counted.pages, receivedPages]
    · simp only [Except.map, receivedEntries_append, counted.entries, receivedEntries]
      omega
    · simp only [Except.map, receivedFailures_append, counted.failures, receivedFailures]
      rfl

/-- What a failure event does to an open receiver. -/
theorem acceptFailure_spec (receiver : RemoteAdvertisementReceiver Backend) (failure : AdvertisementFailure) :
    (∃ error : AppError DecodeError, receiver.acceptFailure failure = (receiver, .error error)) ∨
      @acceptFailure _ DecodeError receiver failure =
        ({ receiver with entryFailures := receiver.entryFailures + 1 }, .ok failure) := by
  rw [acceptFailure, checkedSucc]
  split
  case isTrue foreign => exact .inl ⟨_, rfl⟩
  case isFalse own =>
      by_cases bounded : receiver.entryFailures + 1 < 2 ^ 64
      · rw [if_pos bounded]
        exact .inr rfl
      · rw [if_neg bounded]
        exact .inl ⟨_, rfl⟩

theorem accept_entryFailure {receiver : RemoteAdvertisementReceiver Backend}
    (opened : receiver.terminated = false) (failure : AdvertisementFailure) :
    receiver.accept decodeSnapshot (.entryFailure failure) =
      ((@acceptFailure _ DecodeError receiver failure).1,
        (@acceptFailure _ DecodeError receiver failure).2.map .entryFailure) := by
  rw [accept, opened]
  rfl

theorem Counted.entryFailure {validation : Validation Entry Backend} {lost : Nat}
    (counted : Counted validation lost) (opened : validation.receiver.terminated = false)
    (failure : AdvertisementFailure) :
    Counted (feed decodeSnapshot validation (.entryFailure failure)) lost := by
  rw [feed, accept_entryFailure opened]
  obtain ⟨error, refused⟩ | taken := @acceptFailure_spec _ DecodeError validation.receiver failure
  · rw [refused]
    exact ⟨counted.pages, counted.entries, counted.failures⟩
  · rw [taken]
    refine ⟨?_, ?_, ?_⟩
    · simp only [Except.map, receivedPages_append, counted.pages, receivedPages]
      rfl
    · simp only [Except.map, receivedEntries_append, counted.entries, receivedEntries]
      rfl
    · simp only [Except.map, receivedFailures_append, counted.failures, receivedFailures]

theorem Counted.terminal {validation : Validation Entry Backend} {lost : Nat}
    (counted : Counted validation lost) (opened : validation.receiver.terminated = false)
    (terminal : AdvertisementTerminal) :
    Counted (feed decodeSnapshot validation (.terminal terminal)) lost := by
  simp only [feed, accept, opened, Bool.false_eq_true, if_false]
  cases @acceptTerminal _ DecodeError validation.receiver terminal with
  | error error => exact ⟨counted.pages, counted.entries, counted.failures⟩
  | ok summary =>
      refine ⟨?_, ?_, ?_⟩
      · simp only [Except.map, receivedPages_append, counted.pages, receivedPages]
        rfl
      · simp only [Except.map, receivedEntries_append, counted.entries, receivedEntries]
        rfl
      · simp only [Except.map, receivedFailures_append, counted.failures, receivedFailures]
        rfl

theorem Counted.feed {validation : Validation Entry Backend} {lost : Nat} (counted : Counted validation lost)
    (event : AdvertisementEvent) :
    Counted (feed decodeSnapshot validation event)
      (lost + lostCount decodeSnapshot validation.receiver event) := by
  cases terminated : validation.receiver.terminated with
  | true =>
      have unlost : lostCount decodeSnapshot validation.receiver event = 0 := by
        cases event with
        | page page => exact if_neg fun torn => by cases terminated.symm.trans torn.opened
        | entryFailure failure => rfl
        | terminal terminal => rfl
      rw [unlost, Advertisement.feed, accept_terminated terminated]
      exact counted
  | false =>
      cases event with
      | page page => exact counted.page terminated page
      | entryFailure failure => exact counted.entryFailure terminated failure
      | terminal terminal => exact counted.terminal terminated terminal

/-- Over a run, nothing is lost exactly when no page of it is torn. -/
theorem Counted.exec {events : List AdvertisementEvent} {validation final : Validation Entry Backend}
    {lost : Nat} (counted : Counted validation lost)
    (run : (feeding decodeSnapshot).exec validation events = some final) :
    ∃ more, Counted final (lost + more) ∧
      (more = 0 ↔ (feeding decodeSnapshot).Along (Whole decodeSnapshot) validation events) := by
  induction events generalizing validation lost with
  | nil =>
      cases run
      exact ⟨0, counted, iff_of_true rfl trivial⟩
  | cons event rest ih =>
      obtain ⟨next, stepped, remaining⟩ := Machine.exec_cons run
      cases stepped
      obtain ⟨more, final, exact_⟩ := ih (counted.feed event) remaining
      refine ⟨lostCount decodeSnapshot validation.receiver event + more, ?_, ?_⟩
      · rwa [← Nat.add_assoc]
      · rw [Nat.add_eq_zero_iff, lostCount_eq_zero, exact_]
        constructor
        · rintro ⟨whole, later⟩
          refine ⟨whole, fun next stepped => ?_⟩
          cases stepped
          exact later
        · rintro ⟨whole, later⟩
          exact ⟨whole, later _ rfl⟩

/-- Only a torn page is refused with the counters changed. -/
theorem errorKeepsCounters_iff (validation : Validation Entry Backend) (event : AdvertisementEvent) :
    ErrorKeepsCounters decodeSnapshot validation event ↔ Whole decodeSnapshot validation event := by
  cases terminated : validation.receiver.terminated with
  | true =>
      refine iff_of_true (fun _ _ => .inl ?_) ?_
      · rw [accept_terminated terminated, terminated]
      · cases event with
        | page page => exact fun torn => by cases terminated.symm.trans torn.opened
        | entryFailure failure => trivial
        | terminal terminal => trivial
  | false =>
      cases event with
      | page page =>
          rw [Whole, ← tornCount_pos, ErrorKeepsCounters, accept_page terminated]
          obtain ⟨error, refused⟩ | ⟨entries, whole, taken⟩ :=
            @acceptPage_spec _ _ _ decodeSnapshot validation.receiver page terminated
          · simp only [refused, Except.map, Except.error.injEq, terminated, Bool.false_eq_true, false_or,
              Prod.mk.injEq, true_and, and_true, forall_eq']
            omega
          · rw [taken, tornCount_pos]
            exact iff_of_true (fun error failed => by cases failed) whole
      | entryFailure failure =>
          refine iff_of_true (fun error failed => .inr ?_) trivial
          rw [accept_entryFailure terminated] at failed ⊢
          obtain ⟨_, refused⟩ | taken := @acceptFailure_spec _ DecodeError validation.receiver failure
          · rw [refused]
          · rw [taken] at failed
            cases failed
      | terminal terminal =>
          refine iff_of_true (fun error failed => .inl ?_) trivial
          rw [accept, terminated]
          rfl

/-- The summary of a completed advertisement is read off the counters. -/
theorem accept_completed {receiver : RemoteAdvertisementReceiver Backend} {event : AdvertisementEvent}
    {summary : RemoteAdvertisementSummary}
    (completed : (receiver.accept decodeSnapshot event).2 = .ok (.completed summary)) :
    summary = ⟨receiver.expectedPage, receiver.expectedNdx, receiver.entryFailures⟩ := by
  cases terminated : receiver.terminated with
  | true =>
      rw [accept_terminated terminated] at completed
      cases completed
  | false =>
      cases event with
      | page page =>
          rw [accept_page terminated] at completed
          cases result : (acceptPage decodeSnapshot receiver page).2 <;> rw [result] at completed <;>
            cases completed
      | entryFailure failure =>
          rw [accept_entryFailure terminated] at completed
          cases result : (@acceptFailure _ DecodeError receiver failure).2 <;> rw [result] at completed <;>
            cases completed
      | terminal terminal =>
          have ended : (@acceptTerminal _ DecodeError receiver terminal).map
              (AdvertisementReceipt.completed : _ → AdvertisementReceipt Entry) = .ok (.completed summary) := by
            rw [accept, terminated] at completed
            exact completed
          cases terminal with
          | completed reportedEntries reportedFailures =>
              simp only [acceptTerminal, validateCounts] at ended
              split at ended
              · cases ended
                rfl
              · cases ended
          | cancelled reportedEntries reportedFailures =>
              simp only [acceptTerminal, validateCounts] at ended
              split at ended <;> cases ended
          | failed reportedEntries reportedFailures failure =>
              simp only [acceptTerminal, validateCounts] at ended
              split at ended <;> cases ended

/-- An error keeps the counters throughout a run exactly when no page of the run is torn,
and a completed summary is what the receipts hold exactly when no page before it was. -/
theorem completion_evidence_exact (decodeSnapshot : Bytes → Backend → Except DecodeError Entry)
    (maximumPageEntries : Nat) (backend : Backend) (events : List AdvertisementEvent) :
    let start : Validation Entry Backend := ⟨.new maximumPageEntries backend, []⟩
    ((feeding decodeSnapshot).Along (ErrorKeepsCounters decodeSnapshot) start events ↔
      (feeding decodeSnapshot).Along (Whole decodeSnapshot) start events) ∧
    ∀ before event after validation summary, events = before ++ event :: after →
      (feeding decodeSnapshot).exec start before = some validation →
      (validation.receiver.accept decodeSnapshot event).2 = .ok (.completed summary) →
      (summary = received validation.receipts ↔
        (feeding decodeSnapshot).Along (Whole decodeSnapshot) start before) := by
  intro start
  refine ⟨?_, fun before event after validation summary _ run completed => ?_⟩
  · rw [show ErrorKeepsCounters decodeSnapshot = Whole decodeSnapshot from
      funext fun validation => funext fun event => propext (errorKeepsCounters_iff validation event)]
  · have counted : Counted start 0 := ⟨rfl, rfl, rfl⟩
    obtain ⟨lost, final, exact_⟩ := counted.exec run
    rw [← exact_, accept_completed completed, received, final.pages, final.entries, final.failures,
      Nat.zero_add, RemoteAdvertisementSummary.mk.injEq]
    constructor
    · rintro ⟨-, entries, -⟩
      exact Nat.add_left_cancel entries
    · intro nothing
      rw [nothing]
      exact ⟨rfl, rfl, rfl⟩

section Runs

/-- A codec that keeps the bytes of a snapshot. -/
def verbatim (snapshot : Bytes) (_ : Unit) : Except Unit Bytes := .ok snapshot

/-- Between two pages one comes that is out of sequence, and one whose first entry is out of order. -/
def refusedPages : List AdvertisementEvent :=
  [.page ⟨0, [⟨0, [1]⟩, ⟨1, [2]⟩]⟩, .page ⟨2, [⟨2, [3]⟩]⟩, .page ⟨1, [⟨9, [3]⟩, ⟨2, [3]⟩]⟩, .page ⟨1, [⟨2, [3]⟩]⟩]

/-- Pages that are refused before their first entry leave no trace in the summary. -/
theorem completion_evidence_refused_pages :
    (⟨2, 3, 0⟩ : RemoteAdvertisementSummary) =
        received [.page ⟨0, [(0, [1]), (1, [2])]⟩, .page ⟨1, [(2, [3])]⟩] ↔
      (feeding verbatim).Along (Whole verbatim) ⟨.new 2 (), []⟩ refusedPages :=
  (completion_evidence_exact verbatim 2 () (refusedPages ++ [.terminal (.completed 3 0)])).2
    refusedPages (.terminal (.completed 3 0)) [] _ ⟨2, 3, 0⟩ rfl rfl rfl

/-- A page is refused at its second entry and sent again from there: the summary counts
two entries, the receipts hold one. -/
theorem completion_evidence_torn_page :
    ∃ validation, (feeding verbatim).exec ⟨.new 2 (), []⟩
        [.page ⟨0, [⟨0, []⟩, ⟨5, []⟩]⟩, .page ⟨0, [⟨1, []⟩]⟩] = some validation ∧
      (validation.receiver.accept verbatim (.terminal (.completed 2 0))).2 =
        .ok (.completed ⟨1, 2, 0⟩) ∧
      received validation.receipts = ⟨1, 1, 0⟩ :=
  ⟨_, rfl, rfl, rfl⟩

end Runs

end Terrasync.App.Advertisement
