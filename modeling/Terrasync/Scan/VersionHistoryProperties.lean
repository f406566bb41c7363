import Terrasync.Scan.VersionHistory

/-! The two machines that follow version histories admit the same entries, whole histories
only, as long as no history goes through its last possible segment number. There
`HistorySequence` refuses the segment and `ResumableScan` stays where it is. -/

set_option autoImplicit false

namespace Terrasync.Scan.VersionHistory

open Lib (Shape)
open Lib.SegmentRuns

variable {Resume Statistics F : Type}

/-! ### One entry -/

/-- The open history as the acceptor keeps it. -/
def HistorySequence.standing (sequence : HistorySequence) : Option (RelativePath × Nat) :=
  sequence.path.map fun path => (path, sequence.nextSegment)

/-- The required tags of an entry were observed. -/
def Tagged (F : Type) (includeTags : Bool) (entry : ObservedEntry) : Prop :=
  requireTags (F := F) includeTags entry = .ok ()

/-- The segment number after this one is still a `u32`. -/
def HasSuccessor : Shape RelativePath → Prop
  | .segment _ index _ => index + 1 < 2 ^ 32
  | _ => True

theorem shape_segment {entry : ObservedEntry} {key : RelativePath} {index : Nat} {last : Bool}
    (shaped : entry.shape = .segment key index last) :
    ∃ history, entry.history = some history ∧ entry.path = key ∧ history.segment = index ∧
      history.isComplete = last := by
  unfold ObservedEntry.shape at shaped
  split at shaped
  · cases shaped
  · rename_i history found
    cases shaped
    exact ⟨history, found, rfl, rfl, rfl⟩

theorem shape_ne_reset (entry : ObservedEntry) : entry.shape ≠ .reset := by
  unfold ObservedEntry.shape
  split <;> nofun

theorem tagged_or (F : Type) (includeTags : Bool) (entry : ObservedEntry) :
    Tagged F includeTags entry ∨ ∃ error, requireTags (F := F) includeTags entry = .error error := by
  cases result : requireTags (F := F) includeTags entry with
  | ok value => exact .inl result
  | error error => exact .inr ⟨error, rfl⟩

/-- The open history an entry has to continue; its own first segment, if none is open. -/
abbrev expected (state : Option (RelativePath × Nat)) (entry : ObservedEntry) : RelativePath × Nat :=
  state.getD (entry.path, 0)

theorem advance_eq (state : Option (RelativePath × Nat)) {entry : ObservedEntry} {history : ObjectHistory}
    (found : entry.history = some history) :
    advance state entry.shape =
      if (expected state entry).1 ≠ entry.path ∨ (expected state entry).2 ≠ history.segment then none
      else some (if history.isComplete then none else some (entry.path, history.segment + 1)) := by
  simp only [ObservedEntry.shape, found]
  cases state with
  | none =>
      by_cases first : history.segment = 0
      · simp [advance, first]
      · simp [advance, first, Ne.symm first]
  | some started =>
      by_cases same : entry.path = started.1 ∧ history.segment = started.2
      · simp [advance, same.1, same.2]
      · have other : started.1 ≠ entry.path ∨ started.2 ≠ history.segment := by
          rw [Decidable.not_and_iff_or_not] at same
          exact same.imp Ne.symm Ne.symm
        simp [advance, same, other]

theorem admitEntry_eq {includeTags : Bool} (state : Option (RelativePath × Nat)) {entry : ObservedEntry}
    (tagged : Tagged F includeTags entry) {history : ObjectHistory} (found : entry.history = some history) :
    ResumableScan.admitEntry (F := F) includeTags state entry =
      if (expected state entry).1 ≠ entry.path ∨ (expected state entry).2 ≠ history.segment then
        (.error (.operation "out-of-order object history"), some (expected state entry))
      else (.ok (), if history.isComplete then none
        else some ((expected state entry).1, ResumableScan.saturatingSuccessor (expected state entry).2)) := by
  unfold ResumableScan.admitEntry
  rw [tagged, found]

theorem check_eq {includeTags : Bool} (sequence : HistorySequence) {entry : ObservedEntry}
    (tagged : Tagged F includeTags entry) {history : ObjectHistory} (found : entry.history = some history) :
    sequence.check (F := F) entry includeTags =
      if (expected sequence.standing entry).1 ≠ entry.path ∨
          (expected sequence.standing entry).2 ≠ history.segment then
        .error (.operation "out-of-order object history")
      else if history.segment + 1 < 2 ^ 32 then
        .ok (if history.isComplete then ⟨none, history.segment + 1⟩
          else ⟨some entry.path, history.segment + 1⟩)
      else .error (.operation "history segment overflow") := by
  obtain ⟨path, segment⟩ := sequence
  unfold HistorySequence.check
  rw [tagged, found]
  cases path with
  | none =>
      by_cases first : history.segment = 0
      · simp [HistorySequence.standing, HistorySequence.checkedSuccessor, first, bind, Except.bind, pure, Except.pure]
      · simp [HistorySequence.standing, first, Ne.symm first, bind, Except.bind, throw, throwThe, MonadExceptOf.throw]
  | some started =>
      by_cases other : started ≠ entry.path ∨ segment ≠ history.segment
      · obtain wrong | wrong := other
        · simp [HistorySequence.standing, wrong, bind, Except.bind, throw, throwThe, MonadExceptOf.throw]
        · simp [HistorySequence.standing, wrong, Ne.symm wrong, bind, Except.bind, throw, throwThe,
            MonadExceptOf.throw]
      · obtain ⟨rfl, rfl⟩ := not_or.mp other |>.imp not_not.mp not_not.mp
        by_cases room : history.segment + 1 < 2 ^ 32
        · simp [HistorySequence.standing, HistorySequence.checkedSuccessor, room, bind, Except.bind, pure,
            Except.pure, -Nat.reducePow]
        · simp [HistorySequence.standing, HistorySequence.checkedSuccessor, room, bind, Except.bind, throw,
            throwThe, MonadExceptOf.throw, -Nat.reducePow]

theorem admitEntry_alone {includeTags : Bool} (state : Option (RelativePath × Nat)) {entry : ObservedEntry}
    (tagged : Tagged F includeTags entry) (found : entry.history = none) :
    ResumableScan.admitEntry (F := F) includeTags state entry =
      if state.isSome then (.error (.operation "interrupted object history"), state) else (.ok (), state) := by
  unfold ResumableScan.admitEntry
  rw [tagged, found]

theorem check_alone {includeTags : Bool} (sequence : HistorySequence) {entry : ObservedEntry}
    (tagged : Tagged F includeTags entry) (found : entry.history = none) :
    sequence.check (F := F) entry includeTags =
      if sequence.path.isSome then .error (.operation "interrupted object history") else .ok sequence := by
  unfold HistorySequence.check
  rw [tagged, found]
  rfl

theorem untagged_refused {includeTags : Bool} (sequence : HistorySequence) {entry : ObservedEntry}
    (untagged : ¬Tagged F includeTags entry) :
    (∃ error later, ResumableScan.admitEntry (F := F) includeTags sequence.standing entry = (.error error, later)) ∧
      ∃ error, sequence.check (F := F) entry includeTags = .error error := by
  obtain ⟨error, failed⟩ := (tagged_or F includeTags entry).resolve_left untagged
  unfold ResumableScan.admitEntry HistorySequence.check
  rw [failed]
  exact ⟨⟨error, _, rfl⟩, error, rfl⟩

theorem advance_alone (state : Option (RelativePath × Nat)) {entry : ObservedEntry}
    (found : entry.history = none) :
    advance state entry.shape = if state.isSome then none else some none := by
  unfold ObservedEntry.shape
  rw [found]
  cases state <;> rfl

/-- Where a segment has a successor, both machines take it as the acceptor does. -/
theorem accepted_both {includeTags : Bool} {sequence : HistorySequence} {entry : ObservedEntry}
    {next : Option (RelativePath × Nat)} (tagged : Tagged F includeTags entry)
    (accepted : advance sequence.standing entry.shape = some next) (room : HasSuccessor entry.shape) :
    ResumableScan.admitEntry (F := F) includeTags sequence.standing entry = (.ok (), next) ∧
      ∃ later, sequence.check (F := F) entry includeTags = .ok later ∧ later.standing = next := by
  cases found : entry.history with
  | none =>
      rw [admitEntry_alone _ tagged found, check_alone _ tagged found]
      rw [advance_alone _ found] at accepted
      obtain ⟨path, segment⟩ := sequence
      cases path with
      | some started => cases accepted
      | none =>
          cases accepted
          exact ⟨rfl, _, rfl, rfl⟩
  | some history =>
      have fits : history.segment + 1 < 2 ^ 32 := by
        simpa [ObservedEntry.shape, found, HasSuccessor] using room
      rw [advance_eq _ found] at accepted
      rw [admitEntry_eq _ tagged found, check_eq _ tagged found]
      split at accepted
      · cases accepted
      · rename_i continues
        cases accepted
        obtain ⟨same, index⟩ := not_or.mp continues |>.imp not_not.mp not_not.mp
        have successor : ResumableScan.saturatingSuccessor history.segment = history.segment + 1 :=
          Nat.min_eq_left (by omega)
        rw [if_neg continues, if_neg continues, if_pos fits, same, index, successor]
        exact ⟨rfl, _, rfl, by cases history.isComplete <;> rfl⟩

theorem refused_both {includeTags : Bool} {sequence : HistorySequence} {entry : ObservedEntry}
    (refused : ¬Tagged F includeTags entry ∨ advance sequence.standing entry.shape = none) :
    (∃ error later, ResumableScan.admitEntry (F := F) includeTags sequence.standing entry = (.error error, later)) ∧
      ∃ error, sequence.check (F := F) entry includeTags = .error error := by
  by_cases tagged : Tagged F includeTags entry
  · have refused := refused.resolve_left (not_not_intro tagged)
    cases found : entry.history with
    | none =>
        rw [admitEntry_alone _ tagged found, check_alone _ tagged found]
        rw [advance_alone _ found] at refused
        obtain ⟨path, segment⟩ := sequence
        cases path with
        | none => cases refused
        | some started => exact ⟨⟨_, _, rfl⟩, _, rfl⟩
    | some history =>
        rw [advance_eq _ found] at refused
        rw [admitEntry_eq _ tagged found, check_eq _ tagged found]
        split at refused
        · rename_i breaks
          rw [if_pos breaks, if_pos breaks]
          exact ⟨⟨_, _, rfl⟩, _, rfl⟩
        · cases refused
  · exact untagged_refused sequence tagged

/-- At the last segment number the scan goes on and the sequence does not. -/
theorem exhausted_apart {includeTags : Bool} {sequence : HistorySequence} {entry : ObservedEntry}
    {next : Option (RelativePath × Nat)} (tagged : Tagged F includeTags entry)
    (accepted : advance sequence.standing entry.shape = some next) (last : ¬HasSuccessor entry.shape) :
    (∃ later, ResumableScan.admitEntry (F := F) includeTags sequence.standing entry = (.ok (), later)) ∧
      ∃ error, sequence.check (F := F) entry includeTags = .error error := by
  cases found : entry.history with
  | none => exact absurd last (by simp [ObservedEntry.shape, found, HasSuccessor])
  | some history =>
      have full : ¬history.segment + 1 < 2 ^ 32 := by
        simpa [ObservedEntry.shape, found, HasSuccessor] using last
      rw [advance_eq _ found] at accepted
      rw [admitEntry_eq _ tagged found, check_eq _ tagged found]
      split at accepted
      · cases accepted
      · rename_i continues
        rw [if_neg continues, if_neg continues, if_neg full]
        exact ⟨⟨_, rfl⟩, _, rfl⟩

/-- An entry that the sequence takes leaves it where the acceptor stands. -/
theorem check_ok_standing {includeTags : Bool} {sequence later : HistorySequence} {entry : ObservedEntry}
    {next : Option (RelativePath × Nat)} (accepted : advance sequence.standing entry.shape = some next)
    (checked : sequence.check (F := F) entry includeTags = .ok later) : later.standing = next := by
  by_cases tagged : Tagged F includeTags entry
  · by_cases room : HasSuccessor entry.shape
    · obtain ⟨-, other, same, stands⟩ := accepted_both tagged accepted room
      rw [checked] at same
      cases same
      exact stands
    · obtain ⟨-, error, failed⟩ := exhausted_apart tagged accepted room
      rw [checked] at failed
      cases failed
  · obtain ⟨-, error, failed⟩ := untagged_refused sequence tagged
    rw [checked] at failed
    cases failed

/-! ### Streams -/

/-- The acceptor comes to a segment that has no successor. -/
def Exhausts (includeTags : Bool) :
    Option (RelativePath × Nat) → List (TraversalItem Resume Statistics F) → Prop
  | _, [] => False
  | _, .resumed _ :: rest => Exhausts includeTags none rest
  | state, .entry entry :: rest =>
      Tagged F includeTags entry ∧ ∃ next, advance state entry.shape = some next ∧
        (¬HasSuccessor entry.shape ∨ Exhausts includeTags next rest)
  | state, _ :: rest => Exhausts includeTags state rest

namespace ResumableScan

theorem returned_entry_ok {calls : Nat} {includeTags : Bool} {history later : Option (RelativePath × Nat)}
    {entry : ObservedEntry} (rest : List (TraversalItem Resume Statistics F))
    (taken : admitEntry (F := F) includeTags history entry = (.ok (), later)) :
    returned (calls + 1) ⟨includeTags, .entry entry :: rest, history⟩ =
      (.entry entry :: (returned calls ⟨includeTags, rest, later⟩).1,
        (returned calls ⟨includeTags, rest, later⟩).2) := by
  simp only [returned, next, nextFrom, taken]

theorem returned_entry_error {calls : Nat} {includeTags : Bool} {history later : Option (RelativePath × Nat)}
    {entry : ObservedEntry} {error : StorageError F} (rest : List (TraversalItem Resume Statistics F))
    (refused : admitEntry includeTags history entry = (.error error, later)) :
    (returned (calls + 1) ⟨includeTags, .entry entry :: rest, history⟩).1 = [] := by
  simp only [returned, next, nextFrom, refused]

theorem returned_resumed {calls : Nat} {includeTags : Bool} {history : Option (RelativePath × Nat)}
    (event : Resume) (rest : List (TraversalItem Resume Statistics F)) :
    returned (calls + 1) ⟨includeTags, .resumed event :: rest, history⟩ =
      (.resumed event :: (returned calls ⟨includeTags, rest, none⟩).1,
        (returned calls ⟨includeTags, rest, none⟩).2) := rfl

/-- Statistics and checkpoints outside a history are returned, those inside are skipped. -/
theorem returned_aside (calls : Nat) (includeTags : Bool) (history : Option (RelativePath × Nat))
    {item : TraversalItem Resume Statistics F} (rest : List (TraversalItem Resume Statistics F))
    (aside : item.concernsHistory = false) (sound : item.isFailure = false) :
    (history.isSome ∧ returned (calls + 1) ⟨includeTags, item :: rest, history⟩ =
        returned (calls + 1) ⟨includeTags, rest, history⟩) ∨
      history = none ∧ ∃ answer : ResumableScanItem Resume Statistics, answer.shape = .alone ∧
        answer.entry? = none ∧ returned (calls + 1) ⟨includeTags, item :: rest, history⟩ =
          (answer :: (returned calls ⟨includeTags, rest, none⟩).1,
            (returned calls ⟨includeTags, rest, none⟩).2) := by
  cases history with
  | some started =>
      refine .inl ⟨rfl, ?_⟩
      cases item with
      | resumed | entry => cases aside
      | failure | observationFailure => cases sound
      | directoryStatistics | checkpoint => rfl
  | none =>
      refine .inr ⟨rfl, ?_⟩
      cases item with
      | resumed | entry => cases aside
      | failure | observationFailure => cases sound
      | directoryStatistics statistics => exact ⟨.statistics statistics, rfl, rfl, rfl⟩
      | checkpoint bytes => exact ⟨.checkpoint bytes, rfl, rfl, rfl⟩

theorem finish_reports {Outcome : Type} {scan : ResumableScan Resume Statistics F} (open_ : scan.history.isSome)
    (session : Except F Outcome) : ∃ error, scan.finish session = .error error := by
  cases session with
  | error failure => exact ⟨.terminal failure, rfl⟩
  | ok outcome =>
      exact ⟨.operation "scan ended with an incomplete version history", by
        simp [finish, open_, Except.mapError, bind, Except.bind, throw, throwThe, MonadExceptOf.throw]⟩

/-- An entry refused for its place leaves a history open, also one that would have begun with it. -/
theorem admitEntry_refused_open {includeTags : Bool} {history later : Option (RelativePath × Nat)}
    {entry : ObservedEntry} {error : StorageError F} (tagged : Tagged F includeTags entry)
    (refused : admitEntry includeTags history entry = (.error error, later)) : later.isSome := by
  cases found : entry.history with
  | none =>
      rw [admitEntry_alone _ tagged found] at refused
      split at refused
      · rename_i open_
        cases refused
        exact open_
      · cases refused
  | some segment =>
      rw [admitEntry_eq _ tagged found] at refused
      split at refused
      · cases refused
        rfl
      · cases refused

theorem finish_reports_refused {Outcome : Type} {scan later : ResumableScan Resume Statistics F}
    {entry : ObservedEntry} {rest : List (TraversalItem Resume Statistics F)} {error : StorageError F}
    (tagged : Tagged F scan.includeTags entry) (listed : scan.session = .entry entry :: rest)
    (refused : scan.next = (some (.error error), later)) (session : Except F Outcome) :
    ∃ reported, later.finish session = .error reported := by
  unfold next at refused
  rw [listed, nextFrom] at refused
  split at refused
  · cases refused
  · rename_i left answered
    cases refused
    exact finish_reports (admitEntry_refused_open tagged answered) session

end ResumableScan

theorem HistorySequence.admitted_aside {tags : Bool} (sequence : HistorySequence)
    {item : TraversalItem Resume Statistics F} (rest : List (TraversalItem Resume Statistics F))
    (aside : item.concernsHistory = false) :
    admitted tags sequence (item :: rest) = admitted tags sequence rest := by
  cases item with
  | resumed | entry => cases aside
  | failure | observationFailure | directoryStatistics | checkpoint => rfl

theorem exhausts_aside {includeTags : Bool} {state : Option (RelativePath × Nat)}
    {item : TraversalItem Resume Statistics F} (rest : List (TraversalItem Resume Statistics F))
    (aside : item.concernsHistory = false) :
    Exhausts includeTags state (item :: rest) ↔ Exhausts includeTags state rest := by
  cases item with
  | resumed | entry => cases aside
  | failure | observationFailure | directoryStatistics | checkpoint => exact Iff.rfl

/-- The three ways an entry is met. -/
theorem entry_cases (F : Type) (includeTags : Bool) (state : Option (RelativePath × Nat)) (entry : ObservedEntry) :
    (¬Tagged F includeTags entry ∨ advance state entry.shape = none) ∨
      ∃ next, Tagged F includeTags entry ∧ advance state entry.shape = some next := by
  by_cases tagged : Tagged F includeTags entry
  · cases accepted : advance state entry.shape with
    | none => exact .inl (.inr rfl)
    | some next => exact .inr ⟨next, tagged, rfl⟩
  · exact .inl (.inl tagged)

theorem entries_resumed (event : Resume) (rest : List (ResumableScanItem Resume Statistics)) :
    (ResumableScanItem.resumed event :: rest).filterMap ResumableScanItem.entry? =
      rest.filterMap ResumableScanItem.entry? := rfl

theorem entries_entry (entry : ObservedEntry) (rest : List (ResumableScanItem Resume Statistics)) :
    (ResumableScanItem.entry entry :: rest).filterMap ResumableScanItem.entry? =
      entry :: rest.filterMap ResumableScanItem.entry? := rfl

/-- Items that no history is about, resumptions, entries: the three kinds of step. -/
@[elab_as_elim]
theorem stream_induction {motive : List (TraversalItem Resume Statistics F) → Prop} (nil : motive [])
    (aside : ∀ item rest, item.concernsHistory = false → motive rest → motive (item :: rest))
    (resumed : ∀ event rest, motive rest → motive (.resumed event :: rest))
    (entry : ∀ entry rest, motive rest → motive (.entry entry :: rest))
    (items : List (TraversalItem Resume Statistics F)) : motive items := by
  induction items with
  | nil => exact nil
  | cons item rest ih =>
      cases item with
      | resumed event => exact resumed event rest ih
      | entry observed => exact entry observed rest ih
      | directoryStatistics | checkpoint | failure | observationFailure => exact aside _ rest rfl ih

theorem calls_pos {items : List (TraversalItem Resume Statistics F)} {item : TraversalItem Resume Statistics F}
    {calls : Nat} (enough : (item :: items).length < calls) :
    ∃ fewer, calls = fewer + 1 ∧ items.length < fewer := by
  simp only [List.length_cons] at enough
  exact ⟨calls - 1, by omega, by omega⟩

theorem entries_eq_iff {includeTags : Bool} {items : List (TraversalItem Resume Statistics F)}
    (sound : ∀ item ∈ items, item.isFailure = false) {sequence : HistorySequence} {calls : Nat}
    (enough : items.length < calls) :
    ((ResumableScan.returned calls ⟨includeTags, items, sequence.standing⟩).1.filterMap
        ResumableScanItem.entry? = sequence.admitted includeTags items) ↔
      ¬Exhausts includeTags sequence.standing items := by
  induction items using stream_induction generalizing sequence calls with
  | nil =>
      obtain ⟨calls, rfl⟩ := Nat.exists_eq_add_of_lt enough
      simp [ResumableScan.returned, ResumableScan.next, ResumableScan.nextFrom, HistorySequence.admitted, Exhausts]
  | aside item rest kind ih =>
      obtain ⟨first, others⟩ := List.forall_mem_cons.mp sound
      obtain ⟨calls, rfl, fewer⟩ := calls_pos enough
      rw [HistorySequence.admitted_aside _ _ kind, exhausts_aside _ kind]
      obtain ⟨-, same⟩ | ⟨closed, answer, -, silent, same⟩ :=
        ResumableScan.returned_aside calls includeTags sequence.standing rest kind first
      · rw [same]
        exact ih others (by omega)
      · rw [same, List.filterMap_cons_none silent, ← closed]
        exact ih others fewer
  | resumed event rest ih =>
      obtain ⟨calls, rfl, fewer⟩ := calls_pos enough
      rw [ResumableScan.returned_resumed, entries_resumed]
      exact @ih (List.forall_mem_cons.mp sound).2 .default _ fewer
  | entry entry rest ih =>
      obtain ⟨-, others⟩ := List.forall_mem_cons.mp sound
      obtain ⟨calls, rfl, fewer⟩ := calls_pos enough
      simp only [HistorySequence.admitted, Exhausts]
      obtain refused | ⟨next, tagged, accepted⟩ := entry_cases F includeTags sequence.standing entry
      · obtain ⟨⟨error, _, scanned⟩, other, checked⟩ := refused_both (F := F) refused
        rw [ResumableScan.returned_entry_error rest scanned, checked]
        refine iff_of_true rfl fun ⟨tagged, next, accepted, _⟩ => ?_
        obtain untagged | rejected := refused
        · exact untagged tagged
        · rw [rejected] at accepted
          cases accepted
      · by_cases room : HasSuccessor entry.shape
        · obtain ⟨scanned, later, checked, rfl⟩ := accepted_both tagged accepted room
          rw [ResumableScan.returned_entry_ok rest scanned, checked, entries_entry]
          simp only [List.cons.injEq, true_and]
          rw [ih others fewer, accepted]
          simp [tagged, room]
        · obtain ⟨⟨later, scanned⟩, error, checked⟩ := exhausted_apart tagged accepted room
          rw [ResumableScan.returned_entry_ok rest scanned, checked, entries_entry]
          exact iff_of_false nofun fun none => none ⟨tagged, next, accepted, .inl room⟩

theorem not_exhausts_entry {includeTags : Bool} {state next : Option (RelativePath × Nat)} {entry : ObservedEntry}
    {rest : List (TraversalItem Resume Statistics F)} (spared : ¬Exhausts includeTags state (.entry entry :: rest))
    (tagged : Tagged F includeTags entry) (accepted : advance state entry.shape = some next) :
    HasSuccessor entry.shape ∧ ¬Exhausts includeTags next rest := by
  have both : ¬(¬HasSuccessor entry.shape ∨ Exhausts includeTags next rest) := fun either =>
    spared ⟨tagged, next, accepted, either⟩
  exact not_or.mp both |>.imp not_not.mp id

theorem exists_standing (state : Option (RelativePath × Nat)) :
    ∃ sequence : HistorySequence, sequence.standing = state := by
  cases state with
  | none => exact ⟨.default, rfl⟩
  | some started => exact ⟨⟨some started.1, started.2⟩, rfl⟩

/-- What a scan returns is read by the acceptor to the end. -/
theorem returned_followed {includeTags : Bool} {items : List (TraversalItem Resume Statistics F)}
    (sound : ∀ item ∈ items, item.isFailure = false) {state : Option (RelativePath × Nat)} {calls : Nat}
    (enough : items.length < calls) (spared : ¬Exhausts includeTags state items) :
    ∃ final, follow ResumableScanItem.shape state
      (ResumableScan.returned calls ⟨includeTags, items, state⟩).1 = some final := by
  induction items using stream_induction generalizing state calls with
  | nil =>
      obtain ⟨calls, rfl⟩ := Nat.exists_eq_add_of_lt enough
      exact ⟨state, rfl⟩
  | aside item rest kind ih =>
      obtain ⟨first, others⟩ := List.forall_mem_cons.mp sound
      obtain ⟨calls, rfl, fewer⟩ := calls_pos enough
      rw [exhausts_aside _ kind] at spared
      obtain ⟨-, same⟩ | ⟨rfl, answer, alone, -, same⟩ :=
        ResumableScan.returned_aside calls includeTags state rest kind first
      · rw [same]
        exact ih others (by omega) spared
      · rw [same, follow_cons, alone]
        exact ih others fewer spared
  | resumed event rest ih =>
      obtain ⟨calls, rfl, fewer⟩ := calls_pos enough
      rw [ResumableScan.returned_resumed, follow_cons, ResumableScanItem.shape, advance_reset]
      exact ih (List.forall_mem_cons.mp sound).2 fewer spared
  | entry entry rest ih =>
      obtain ⟨-, others⟩ := List.forall_mem_cons.mp sound
      obtain ⟨calls, rfl, fewer⟩ := calls_pos enough
      obtain ⟨sequence, rfl⟩ := exists_standing state
      obtain refused | ⟨next, tagged, accepted⟩ := entry_cases F includeTags sequence.standing entry
      · obtain ⟨⟨error, _, scanned⟩, -⟩ := refused_both (F := F) refused
        rw [ResumableScan.returned_entry_error rest scanned]
        exact ⟨_, rfl⟩
      · obtain ⟨room, spared⟩ := not_exhausts_entry spared tagged accepted
        obtain ⟨scanned, -⟩ := accepted_both tagged accepted room
        rw [ResumableScan.returned_entry_ok rest scanned, follow_cons, ResumableScanItem.shape, accepted]
        exact ih others fewer spared

/-- Where the items of a session leave a history open, the scan has it open at the end. -/
theorem returned_history {includeTags : Bool} {items : List (TraversalItem Resume Statistics F)}
    (sound : ∀ item ∈ items, item.isFailure = false) {state final : Option (RelativePath × Nat)} {calls : Nat}
    (enough : items.length < calls) (spared : ¬Exhausts includeTags state items)
    (tagged : ∀ entry, .entry entry ∈ items → Tagged F includeTags entry)
    (followed : follow TraversalItem.shape state (items.filter TraversalItem.concernsHistory) = some final) :
    (ResumableScan.returned calls ⟨includeTags, items, state⟩).2.history = final := by
  induction items using stream_induction generalizing state calls with
  | nil =>
      obtain ⟨calls, rfl⟩ := Nat.exists_eq_add_of_lt enough
      cases followed
      rfl
  | aside item rest kind ih =>
      obtain ⟨first, others⟩ := List.forall_mem_cons.mp sound
      obtain ⟨calls, rfl, fewer⟩ := calls_pos enough
      rw [exhausts_aside _ kind] at spared
      rw [List.filter_cons_of_neg (by simp [kind])] at followed
      have later := fun entry member => tagged entry (List.mem_cons_of_mem _ member)
      obtain ⟨-, same⟩ | ⟨rfl, answer, alone, -, same⟩ :=
        ResumableScan.returned_aside calls includeTags state rest kind first
      · rw [same]
        exact ih others (by omega) spared later followed
      · rw [same]
        exact ih others fewer spared later followed
  | resumed event rest ih =>
      obtain ⟨calls, rfl, fewer⟩ := calls_pos enough
      rw [List.filter_cons_of_pos rfl, follow_cons, TraversalItem.shape, advance_reset] at followed
      rw [ResumableScan.returned_resumed]
      exact ih (List.forall_mem_cons.mp sound).2 fewer spared
        (fun entry member => tagged entry (List.mem_cons_of_mem _ member)) followed
  | entry entry rest ih =>
      obtain ⟨calls, rfl, fewer⟩ := calls_pos enough
      obtain ⟨sequence, rfl⟩ := exists_standing state
      rw [List.filter_cons_of_pos rfl, follow_cons, TraversalItem.shape] at followed
      obtain ⟨next, accepted, followed⟩ := Option.bind_eq_some_iff.mp followed
      have known := tagged entry List.mem_cons_self
      obtain ⟨room, spared⟩ := not_exhausts_entry spared known accepted
      obtain ⟨scanned, -⟩ := accepted_both known accepted room
      rw [ResumableScan.returned_entry_ok rest scanned]
      exact ih (List.forall_mem_cons.mp sound).2 fewer spared
        (fun entry member => tagged entry (List.mem_cons_of_mem _ member)) followed

/-! ### The inventory -/

namespace DirectoryInventory

theorem answers_reports {requiredTags : Bool} {items : List (TraversalItem Resume Statistics F)}
    {histories : HistorySequence} {calls : Nat} {started : RelativePath × Nat} (enough : items.length < calls)
    (followed : follow TraversalItem.shape histories.standing
      (items.filter TraversalItem.concernsHistory) = some (some started)) :
    ∃ error, .error error ∈ answers calls ⟨requiredTags, items, histories, false⟩ := by
  induction items using stream_induction generalizing histories calls with
  | nil =>
      obtain ⟨calls, rfl⟩ := Nat.exists_eq_add_of_lt enough
      have open_ : histories.isComplete = false := by
        cases path : histories.path with
        | none => simp [HistorySequence.standing, path, follow] at followed
        | some path => simp [HistorySequence.isComplete, path]
      exact ⟨.incompleteHistory, by simp [answers, next, open_]⟩
  | aside item rest kind ih =>
      obtain ⟨calls, rfl, fewer⟩ := calls_pos enough
      rw [List.filter_cons_of_neg (by simp [kind])] at followed
      obtain ⟨error, member⟩ := ih fewer followed
      refine ⟨error, ?_⟩
      cases item with
      | resumed | entry => cases kind
      | directoryStatistics | checkpoint | failure | observationFailure => exact List.mem_cons_of_mem _ member
  | resumed event rest ih =>
      obtain ⟨calls, rfl, fewer⟩ := calls_pos enough
      rw [List.filter_cons_of_pos rfl, follow_cons, TraversalItem.shape, advance_reset] at followed
      obtain ⟨error, member⟩ := @ih .default _ fewer followed
      exact ⟨error, List.mem_cons_of_mem _ member⟩
  | entry entry rest ih =>
      obtain ⟨calls, rfl, fewer⟩ := calls_pos enough
      rw [List.filter_cons_of_pos rfl, follow_cons, TraversalItem.shape] at followed
      obtain ⟨final, accepted, followed⟩ := Option.bind_eq_some_iff.mp followed
      cases checked : histories.check (F := F) entry requiredTags with
      | error error => exact ⟨error, by simp [answers, next, checked]⟩
      | ok later =>
          rw [← check_ok_standing accepted checked] at followed
          obtain ⟨error, member⟩ := ih fewer followed
          exact ⟨error, by simp [answers, next, checked, member]⟩

end DirectoryInventory

/-! ### The last segment number -/

/-- One history of the session has all 2^32 segments, and what precedes them was in order. -/
def Exhausted (includeTags : Bool) (items : List (TraversalItem Resume Statistics F)) : Prop :=
  ∃ before run item after key last,
    items.filter TraversalItem.concernsHistory = before ++ run ++ item :: after ∧
      Whole TraversalItem.shape before ∧ OpenRun TraversalItem.shape key run ∧
      item.shape = .segment key (2 ^ 32 - 1) last ∧ run.length = 2 ^ 32 - 1 ∧
      ∀ entry, .entry entry ∈ before ++ run ++ [item] → Tagged F includeTags entry

theorem segment_of_no_successor {entry : ObservedEntry} (last : ¬HasSuccessor entry.shape) :
    ∃ key final, entry.shape = .segment key (2 ^ 32 - 1) final := by
  cases shaped : entry.shape with
  | reset => exact absurd shaped (shape_ne_reset entry)
  | alone => exact absurd last (by simp [shaped, HasSuccessor])
  | segment key index final =>
      obtain ⟨history, -, rfl, rfl, rfl⟩ := shape_segment shaped
      have small := history.segment_lt
      rw [shaped] at last
      have full : history.segment = 2 ^ 32 - 1 := by
        simp only [HasSuccessor] at last
        omega
      exact ⟨_, _, by rw [full]⟩

theorem parts_of_exhausts {includeTags : Bool} {items seen : List (TraversalItem Resume Statistics F)}
    {state : Option (RelativePath × Nat)} (stood : standing TraversalItem.shape seen = some state)
    (known : ∀ entry, .entry entry ∈ seen → Tagged F includeTags entry)
    (exhausts : Exhausts includeTags state items) :
    ∃ front item after key last, seen ++ items.filter TraversalItem.concernsHistory = front ++ item :: after ∧
      standing TraversalItem.shape front = some (some (key, 2 ^ 32 - 1)) ∧
      item.shape = .segment key (2 ^ 32 - 1) last ∧
      ∀ entry, .entry entry ∈ front ++ [item] → Tagged F includeTags entry := by
  induction items using stream_induction generalizing seen state with
  | nil => exact exhausts.elim
  | aside item rest kind ih =>
      rw [List.filter_cons_of_neg (by simp [kind])]
      exact ih stood known ((exhausts_aside rest kind).mp exhausts)
  | resumed event rest ih =>
      have grown : standing TraversalItem.shape (seen ++ [.resumed event]) = some none := by
        rw [standing_concat, stood, Option.bind_some, TraversalItem.shape, advance_reset]
      obtain found := ih grown (by simpa using known) exhausts
      rwa [List.append_assoc] at found
  | entry entry rest ih =>
      obtain ⟨tagged, next, accepted, full | later⟩ := exhausts
      · obtain ⟨key, final, shaped⟩ := segment_of_no_successor full
        rw [shaped] at accepted
        obtain ⟨⟨-, zero⟩ | rfl, -⟩ := advance_segment accepted
        · cases zero
        · refine ⟨seen, .entry entry, _, key, final, rfl, stood, shaped, fun other member => ?_⟩
          obtain earlier | same := List.mem_append.mp member
          · exact known other earlier
          · cases List.mem_singleton.mp same
            exact tagged
      · have grown : standing TraversalItem.shape (seen ++ [.entry entry]) = some next := by
          rw [standing_concat, stood, Option.bind_some, TraversalItem.shape, accepted]
        have all : ∀ other, .entry other ∈ seen ++ [.entry entry] → Tagged F includeTags other := by
          intro other member
          obtain earlier | same := List.mem_append.mp member
          · exact known other earlier
          · cases List.mem_singleton.mp same
            exact tagged
        obtain found := ih grown all later
        rwa [List.append_assoc] at found

theorem exhausts_of_parts {includeTags : Bool} {items front after : List (TraversalItem Resume Statistics F)}
    {item : TraversalItem Resume Statistics F} {state : Option (RelativePath × Nat)} {key : RelativePath}
    {last : Bool} (split : items.filter TraversalItem.concernsHistory = front ++ item :: after)
    (followed : follow TraversalItem.shape state front = some (some (key, 2 ^ 32 - 1)))
    (shaped : item.shape = .segment key (2 ^ 32 - 1) last)
    (tagged : ∀ entry, .entry entry ∈ front ++ [item] → Tagged F includeTags entry) :
    Exhausts includeTags state items := by
  induction items using stream_induction generalizing front state with
  | nil => simp at split
  | aside other rest kind ih =>
      rw [List.filter_cons_of_neg (by simp [kind])] at split
      exact (exhausts_aside rest kind).mpr (ih split followed tagged)
  | resumed event rest ih =>
      rw [List.filter_cons_of_pos rfl] at split
      cases front with
      | nil =>
          obtain ⟨rfl, -⟩ := List.cons.inj split
          cases shaped
      | cons head front =>
          obtain ⟨rfl, remaining⟩ := List.cons.inj split
          rw [follow_cons, TraversalItem.shape, advance_reset] at followed
          exact ih remaining followed (fun entry member => tagged entry (List.mem_cons_of_mem _ member))
  | entry entry rest ih =>
      rw [List.filter_cons_of_pos rfl] at split
      cases front with
      | nil =>
          obtain ⟨rfl, -⟩ := List.cons.inj split
          cases followed
          have shaped : entry.shape = .segment key (2 ^ 32 - 1) last := shaped
          refine ⟨tagged entry (by simp), if last then none else some (key, 2 ^ 32), ?_, .inl ?_⟩
          · simp [shaped, advance]
          · simp [shaped, HasSuccessor]
      | cons head front =>
          obtain ⟨rfl, remaining⟩ := List.cons.inj split
          rw [follow_cons, TraversalItem.shape] at followed
          obtain ⟨next, accepted, followed⟩ := Option.bind_eq_some_iff.mp followed
          exact ⟨tagged entry (by simp), next, accepted,
            .inr (ih remaining followed fun other member => tagged other (List.mem_cons_of_mem _ member))⟩

theorem exhausts_iff {includeTags : Bool} {items : List (TraversalItem Resume Statistics F)} :
    Exhausts includeTags none items ↔ Exhausted includeTags items := by
  constructor
  · intro exhausts
    obtain ⟨front, item, after, key, last, split, stood, shaped, tagged⟩ :=
      @parts_of_exhausts _ _ _ _ _ [] _ rfl (by simp) exhausts
    obtain ⟨before, run, rfl, whole, open_, long, -⟩ := stands_of_standing stood
    exact ⟨before, run, item, after, key, last, split, whole, open_, shaped, long, tagged⟩
  · intro ⟨before, run, item, after, key, last, split, whole, open_, shaped, long, tagged⟩
    have stood : standing TraversalItem.shape (before ++ run) = some (some (key, 2 ^ 32 - 1)) :=
      standing_some_of_stands ⟨before, run, rfl, whole, open_, long, by decide⟩
    exact exhausts_of_parts split stood shaped tagged

/-- Version histories are delivered whole: both machines admit the same entries, what the scan
returns is whole but for a history that may still go on, and a session that ends inside a
history is reported by both. -/
structure DeliveredWhole (includeTags : Bool) (items : List (TraversalItem Resume Statistics F)) : Prop where
  samePrefix :
    ((ResumableScan.start includeTags items).returned (items.length + 1)).1.filterMap ResumableScanItem.entry? =
      HistorySequence.default.admitted includeTags items
  whole : Delivered ResumableScanItem.shape
    ((ResumableScan.start includeTags items).returned (items.length + 1)).1
  unfinished : ∀ before run key, items.filter TraversalItem.concernsHistory = before ++ run →
    Whole TraversalItem.shape before → OpenRun TraversalItem.shape key run → run ≠ [] →
    (∀ entry, .entry entry ∈ items → Tagged F includeTags entry) →
      (∀ (Outcome : Type) (session : Except F Outcome), ∃ error,
        ((ResumableScan.start includeTags items).returned (items.length + 1)).2.finish session = .error error) ∧
      ∃ error, .error error ∈ (DirectoryInventory.start includeTags items).answers (items.length + 1)

theorem not_delivered_of_exhausted {includeTags : Bool} {items : List (TraversalItem Resume Statistics F)}
    (sound : ∀ item ∈ items, item.isFailure = false) (exhausted : Exhausted includeTags items) :
    ¬DeliveredWhole includeTags items := fun delivered =>
  (@entries_eq_iff _ _ _ _ _ sound .default _ (Nat.lt_succ_self _)).mp delivered.samePrefix
    (exhausts_iff.mpr exhausted)

theorem histories_delivered_whole_iff {includeTags : Bool} {items : List (TraversalItem Resume Statistics F)}
    (sound : ∀ item ∈ items, item.isFailure = false) :
    DeliveredWhole includeTags items ↔ ¬Exhausted includeTags items := by
  constructor
  · exact fun delivered exhausted => not_delivered_of_exhausted sound exhausted delivered
  · intro spared
    rw [← exhausts_iff] at spared
    constructor
    · exact (@entries_eq_iff _ _ _ _ _ sound .default _ (Nat.lt_succ_self _)).mpr spared
    · obtain ⟨final, followed⟩ := returned_followed sound (Nat.lt_succ_self _) spared
      exact (stands_of_standing followed).delivered
    · intro before run key split wholeBefore open_ nonempty tagged
      have followed : follow TraversalItem.shape none (items.filter TraversalItem.concernsHistory) =
          some (some (key, run.length)) := by
        rw [split]
        exact standing_some_of_stands
          ⟨before, run, rfl, wholeBefore, open_, rfl, List.length_pos_iff.mpr nonempty⟩
      refine ⟨fun Outcome session => ?_, DirectoryInventory.answers_reports (Nat.lt_succ_self _) followed⟩
      have left := returned_history sound (Nat.lt_succ_self _) spared tagged followed
      exact ResumableScan.finish_reports (by rw [ResumableScan.start, left]; rfl) session

/-- Fewer than 2^32 items cannot exhaust the segment numbers. -/
theorem not_exhausted_of_short {includeTags : Bool} {items : List (TraversalItem Resume Statistics F)}
    (short : items.length < 2 ^ 32) : ¬Exhausted includeTags items := by
  intro ⟨before, run, item, after, key, last, split, _, _, _, long, _⟩
  have shorter := List.length_filter_le TraversalItem.concernsHistory items
  simp only [split, List.length_append, List.length_cons, long] at shorter
  omega

/-! Entries of one object, for the runs below. -/

def segmentEntry (segment : Nat) (segment_lt : segment < 2 ^ 32) (isComplete : Bool) : ObservedEntry :=
  ⟨['a'], .file, .value, some ⟨segment, segment_lt, isComplete, []⟩, none⟩

theorem histories_delivered_whole_iff_short :
    @DeliveredWhole Unit Unit Unit true [.resumed (), .entry (segmentEntry 0 (by decide) false),
      .checkpoint [7], .entry (segmentEntry 1 (by decide) true), .directoryStatistics ()] :=
  (histories_delivered_whole_iff (by decide)).mpr (not_exhausted_of_short (by decide))

/-- The first segments of one object's versions. -/
def openSegments (count : Nat) (fits : count < 2 ^ 32) : List (TraversalItem Unit Unit Unit) :=
  List.ofFn fun index : Fin count => .entry (segmentEntry index (Nat.lt_trans index.isLt fits) false)

theorem openSegments_openRun {count : Nat} (fits : count < 2 ^ 32) :
    OpenRun TraversalItem.shape ['a'] (openSegments count fits) := by
  apply List.ext_getElem
  · simp [openSegments]
  · intro index below _
    simp [openSegments, TraversalItem.shape, ObservedEntry.shape, segmentEntry]

theorem openSegments_filter {count : Nat} (fits : count < 2 ^ 32) :
    (openSegments count fits).filter TraversalItem.concernsHistory = openSegments count fits := by
  apply List.filter_eq_self.mpr
  intro item member
  obtain ⟨index, rfl⟩ := List.mem_ofFn.mp member
  rfl

theorem exhausted_openSegments {count : Nat} (fits : count < 2 ^ 32) (full : count = 2 ^ 32 - 1) :
    Exhausted false (openSegments count fits ++ [.entry (segmentEntry (2 ^ 32 - 1) (by decide) true)]) := by
  refine ⟨[], openSegments count fits, .entry (segmentEntry (2 ^ 32 - 1) (by decide) true), [], ['a'], true,
    ?_, Whole.nil, openSegments_openRun _, rfl, List.length_ofFn.trans full, fun _ _ => rfl⟩
  rw [List.filter_append, openSegments_filter]
  rfl

/-- All segments of one object, the last one complete. -/
def allSegments : List (TraversalItem Unit Unit Unit) :=
  openSegments (2 ^ 32 - 1) (by decide) ++ [.entry (segmentEntry (2 ^ 32 - 1) (by decide) true)]

theorem last_segment_splits_machines :
    (∀ item ∈ allSegments, item.isFailure = false) ∧ ¬DeliveredWhole false allSegments := by
  have sound : ∀ item ∈ allSegments, item.isFailure = false := by
    intro item member
    obtain member | member := List.mem_append.mp member
    · obtain ⟨index, rfl⟩ := List.mem_ofFn.mp member
      rfl
    · cases List.mem_singleton.mp member
      rfl
  exact ⟨sound, not_delivered_of_exhausted sound (exhausted_openSegments _ rfl)⟩

end Terrasync.Scan.VersionHistory
