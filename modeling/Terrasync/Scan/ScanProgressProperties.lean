import Mathlib.Data.List.Forall2
import Mathlib.Data.List.Induction
import Terrasync.Scan.ScanProgress

/-! Directory contributions are counted once: over any accepted sequence of statistics,
checkpoints and resumptions the snapshot shows the completed prefix and the latest revision
of each active directory, and what is saved balances. -/

set_option autoImplicit false

namespace Terrasync.Scan.Statistics

variable {methods : EntryKindMethods}

/-! ### Counters -/

theorem EntryKindCounts.ext_count {left right : EntryKindCounts}
    (same : ∀ kind, left.count kind = right.count kind) : left = right := by
  obtain ⟨l1, l2, l3, l4, l5, l6, l7, l8⟩ := left
  obtain ⟨r1, r2, r3, r4, r5, r6, r7, r8⟩ := right
  simp only [EntryKindCounts.mk.injEq]
  exact ⟨same .directories, same .regularFiles, same .symlinks, same .blockDevices, same .characterDevices,
    same .fifos, same .sockets, same .unknown⟩

theorem ScanCounts.ext_count {left right : ScanCounts}
    (same : ∀ counter, left.count counter = right.count counter) : left = right := by
  have groups (group : CountGroup) : left.group group = right.group group :=
    EntryKindCounts.ext_count fun kind => same (.kind group kind)
  have scanned : left.scanned = right.scanned := groups .scanned
  have filtered : left.filtered = right.filtered := groups .filtered
  have retained : left.retained = right.retained := groups .retained
  have failed : left.failed = right.failed := groups .failed
  have vanished : left.vanished = right.vanished := groups .vanished
  obtain ⟨_, _, _, _, _, l1, l2, l3, l4, l5, l6, l7, l8, l9, l10, l11⟩ := left
  obtain ⟨_, _, _, _, _, r1, r2, r3, r4, r5, r6, r7, r8, r9, r10, r11⟩ := right
  simp only [ScanCounts.mk.injEq]
  exact ⟨scanned, filtered, retained, failed, vanished, same (.scalar .prunedDirectories),
    same (.scalar .truncatedDirectories), same (.scalar .regularFileBytes), same (.scalar .unknownFileSizes),
    same (.scalar .versions), same (.scalar .deleteMarkers), same (.scalar .allVersionsBytes),
    same (.scalar .completedListings), same (.scalar .interruptedListings),
    same (.scalar .unreadableListings), same (.scalar .vanishedListings)⟩

@[simp] theorem count_default (counter : Counter) : ScanCounts.default.count counter = 0 := by
  cases counter with
  | kind group kind => cases group <;> cases kind <;> rfl
  | scalar scalar => cases scalar <;> rfl

theorem count_replaceKinds (documented : methods.Documented)
    (counts old new : EntryKindCounts) (kind : EntryKindName) :
    (methods.replace counts old new).count kind =
      saturatingAdd (counts.count kind - old.count kind) (new.count kind) := by
  rw [EntryKindMethods.replace, documented.add, documented.sub, saturatingAdd]

theorem count_replace (documented : methods.Documented) (counts old new : ScanCounts) (counter : Counter) :
    (counts.replace methods old new).count counter =
      saturatingAdd (counts.count counter - old.count counter) (new.count counter) := by
  cases counter with
  | kind group kind => cases group <;> exact count_replaceKinds documented ..
  | scalar scalar => cases scalar <;> rfl

/-- Without saturation a replacement is exact. -/
theorem count_replace_exact (documented : methods.Documented) {counts old new : ScanCounts} {counter : Counter}
    {rest : Nat} (before : counts.count counter = old.count counter + rest)
    (fits : rest + new.count counter < 2 ^ 64) :
    (counts.replace methods old new).count counter = rest + new.count counter := by
  rw [count_replace documented, before, saturatingAdd, Nat.add_sub_cancel_left]
  exact Nat.min_eq_left (by omega)

theorem contributed_cons (value : DirectoryStatistics) (values : List DirectoryStatistics) (counter : Counter) :
    contributed (value :: values) counter =
      (ScanCounts.fromDirectory value).count counter + contributed values counter := by
  simp [contributed]

theorem contributed_concat (values : List DirectoryStatistics) (value : DirectoryStatistics) (counter : Counter) :
    contributed (values ++ [value]) counter =
      contributed values counter + (ScanCounts.fromDirectory value).count counter := by
  simp [contributed]

/-! ### The active directories -/

def ActiveDirectory.of (value : DirectoryStatistics) : ActiveDirectory :=
  ⟨value.path, .fromDirectory value, value.revision⟩

theorem find_active (active : List DirectoryStatistics) (path : RelativePath) :
    (active.map ActiveDirectory.of).find? (fun directory => directory.path = path) =
      (active.find? fun value => value.path = path).map ActiveDirectory.of := by
  rw [List.find?_map]
  rfl

theorem filter_active (active : List DirectoryStatistics) (path : RelativePath) :
    (active.map ActiveDirectory.of).filter (fun directory => directory.path ≠ path) =
      (active.filter fun value => value.path ≠ path).map ActiveDirectory.of := by
  rw [List.filter_map]
  rfl

/-- Taking a path out of the active directories takes its latest revision out of the total. -/
theorem contributed_filter {active : List DirectoryStatistics} (distinct : (active.map (·.path)).Nodup)
    (path : RelativePath) (counter : Counter) :
    contributed active counter =
      (((active.find? fun value => value.path = path).map ScanCounts.fromDirectory).getD .default).count counter +
        contributed (active.filter fun value => value.path ≠ path) counter := by
  induction active with
  | nil => simp [contributed]
  | cons value rest ih =>
      obtain ⟨absent, distinct⟩ := List.nodup_cons.mp distinct
      by_cases same : value.path = path
      · subst same
        have others : rest.filter (fun other => other.path ≠ value.path) = rest := by
          refine List.filter_eq_self.mpr fun other member => ?_
          have other_ : other.path ≠ value.path := fun equal =>
            absent (List.mem_map.mpr ⟨other, member, equal⟩)
          simpa using other_
        rw [contributed_cons, List.find?_cons_of_pos (by simp), List.filter_cons_of_neg (by simp), others]
        rfl
      · rw [contributed_cons, List.find?_cons_of_neg (by simpa using same),
          List.filter_cons_of_pos (by simpa using same), contributed_cons, ih distinct]
        omega

/-! ### One event -/

/-- The counters of the code against the directories behind them. -/
structure Tracks (state : State) (ledger : Ledger) : Prop where
  order : state.progress.order = ledger.order
  active : state.progress.active = ledger.active.map ActiveDirectory.of
  distinct : (ledger.active.map (·.path)).Nodup
  completed : ∀ counter, state.progress.completePrefix.count counter = ledger.completed counter
  shown : ∀ counter, state.snapshot.counts.count counter = ledger.total counter
  confirmed : ∀ counter, state.progress.confirmed.count counter =
    ledger.base.count counter + contributed ledger.confirmed counter

theorem tracks_start (order : TraversalOrder) (snapshot : ScanSnapshot) (cursor : Option (List UInt8)) :
    Tracks (start order snapshot cursor) (.of order snapshot.counts []) :=
  ⟨rfl, rfl, List.nodup_nil, fun _ => rfl, fun _ => rfl, fun _ => rfl⟩

/-- The active directories but one; a push puts its revision in their place. -/
def Ledger.others (ledger : Ledger) (path : RelativePath) : List DirectoryStatistics :=
  ledger.active.filter fun directory => directory.path ≠ path

section Push

variable {state next : State} {ledger : Ledger} {value : DirectoryStatistics}

theorem others_distinct (tracks : Tracks state ledger) (path : RelativePath) :
    ((ledger.others path).map (·.path)).Nodup ∧ path ∉ (ledger.others path).map (·.path) := by
  refine ⟨tracks.distinct.sublist (List.filter_sublist.map _), fun member => ?_⟩
  obtain ⟨directory, inside, same⟩ := List.mem_map.mp member
  simpa [same] using (List.mem_filter.mp inside).2

/-- The replacement in the snapshot takes the previous revision out and puts the new one in. -/
theorem replaced_shown (documented : methods.Documented) (tracks : Tracks state ledger) {counter : Counter}
    (fits : ledger.completed counter + contributed (ledger.others value.path) counter +
      (ScanCounts.fromDirectory value).count counter < 2 ^ 64) :
    (state.snapshot.counts.replace methods
      (((state.progress.active.find? fun directory => directory.path = value.path).map
        ActiveDirectory.counts).getD .default) (.fromDirectory value)).count counter =
      ledger.completed counter + contributed (ledger.others value.path) counter +
        (ScanCounts.fromDirectory value).count counter := by
  refine count_replace_exact documented ?_ fits
  rw [tracks.shown, Ledger.total, contributed_filter tracks.distinct value.path, tracks.active, find_active,
    Option.map_map, Ledger.others]
  have same : ActiveDirectory.counts ∘ ActiveDirectory.of = ScanCounts.fromDirectory := rfl
  rw [same]
  omega

theorem tracks_push (documented : methods.Documented) (tracks : Tracks state ledger)
    (fits : (ledger.record (.push value)).Fits) (pushed : push methods state value = some next) :
    Tracks next (ledger.record (.push value)) := by
  obtain ⟨distinct, absent⟩ := others_distinct tracks value.path
  have remaining : (state.progress.active.filter fun directory => directory.path ≠ value.path) =
      (ledger.others value.path).map ActiveDirectory.of := by
    rw [tracks.active, filter_active, Ledger.others]
  simp only [push] at pushed
  split at pushed
  · cases pushed
  split at pushed
  · cases pushed
  cases outcome : value.outcome with
  | none =>
      simp only [outcome] at pushed
      cases pushed
      have recorded : ledger.record (.push value) =
          { ledger with active := value :: ledger.others value.path } := by
        simp [Ledger.record, outcome, Ledger.others]
      rw [recorded] at fits ⊢
      refine ⟨tracks.order, ?_, ?_, tracks.completed, fun counter => ?_, tracks.confirmed⟩
      · rw [remaining]
        rfl
      · exact List.nodup_cons.mpr ⟨absent, distinct⟩
      · have small := fits counter
        simp only [Ledger.total, Ledger.completed, contributed_cons] at small ⊢
        refine (replaced_shown documented tracks ?_).trans ?_
        · simp only [Ledger.completed]
          omega
        · simp only [Ledger.completed]
          omega
  | some result =>
      cases result with
      | complete =>
          simp only [outcome] at pushed
          split at pushed
          · cases pushed
            have recorded : ledger.record (.push value) =
                { ledger with done := ledger.done ++ [value], active := ledger.others value.path } := by
              simp [Ledger.record, outcome, Ledger.others]
            rw [recorded] at fits ⊢
            refine ⟨tracks.order, remaining, distinct, fun counter => ?_, fun counter => ?_, tracks.confirmed⟩
            · have small := fits counter
              simp only [Ledger.total, Ledger.completed, contributed_concat] at small ⊢
              refine (@count_replace_exact _ documented _ _ _ counter (ledger.completed counter) ?_ ?_).trans ?_
              · rw [tracks.completed, count_default, Nat.zero_add]
              · simp only [Ledger.completed]
                omega
              · simp only [Ledger.completed]
                omega
            · have small := fits counter
              simp only [Ledger.total, Ledger.completed, contributed_concat] at small ⊢
              refine (replaced_shown documented tracks ?_).trans ?_
              · simp only [Ledger.completed]
                omega
              · simp only [Ledger.completed]
                omega
          · cases pushed
      | interrupted | unreadable =>
          simp only [outcome] at pushed
          cases pushed

end Push

/-! ### Runs -/

theorem ScanProgress.checkpointCounts_eq {progress : ScanProgress} {counts : ScanCounts}
    (allowed : progress.checkpointCounts = some counts) : counts = progress.completePrefix := by
  unfold checkpointCounts at allowed
  split at allowed
  · cases allowed
  · exact (Option.some.inj allowed).symm

theorem tracks_step (documented : methods.Documented) {state next : State} {ledger : Ledger} {event : Event}
    (tracks : Tracks state ledger) (fits : (ledger.record event).Fits)
    (stepped : step methods state event = some next) : Tracks next (ledger.record event) := by
  cases event with
  | push value => exact tracks_push documented tracks fits stepped
  | checkpoint cursor =>
      obtain ⟨counts, allowed, rfl⟩ := Option.map_eq_some_iff.mp stepped
      exact ⟨tracks.order, tracks.active, tracks.distinct, tracks.completed, tracks.shown, tracks.completed⟩
  | finish =>
      simp only [step, finish] at stepped
      split at stepped
      · cases stepped
      · cases stepped
        exact ⟨tracks.order, tracks.active, tracks.distinct, tracks.completed, tracks.shown, tracks.confirmed⟩
  | resumed selected =>
      simp only [step, resumed] at stepped
      obtain ⟨counts, chosen, rfl⟩ := Option.map_eq_some_iff.mp stepped
      cases order : state.progress.order with
      | blocks =>
          simp only [order] at chosen
          split at chosen
          · cases chosen
          · cases chosen
            have recorded : ledger.record (.resumed selected) =
                { ledger with done := ledger.confirmed, active := [] } := by
              simp [Ledger.record, ← tracks.order, order]
            rw [recorded]
            exact ⟨order.symm.trans tracks.order, rfl, List.nodup_nil, tracks.confirmed, tracks.confirmed, tracks.confirmed⟩
      | unordered =>
          simp only [order] at chosen
          split at chosen
          · cases chosen
          · cases chosen
            have recorded : ledger.record (.resumed selected) =
                { ledger with base := .default, done := [], confirmed := [], active := [] } := by
              simp [Ledger.record, ← tracks.order, order]
            rw [recorded]
            exact ⟨order.symm.trans tracks.order, rfl, List.nodup_nil, fun _ => rfl, fun _ => rfl, fun _ => rfl⟩

theorem Ledger.of_concat (order : TraversalOrder) (base : ScanCounts) (events : List Event) (event : Event) :
    Ledger.of order base (events ++ [event]) = (Ledger.of order base events).record event := by
  simp [Ledger.of]

/-- The true totals fit after each event. -/
def Fitting (order : TraversalOrder) (base : ScanCounts) (events : List Event) : Prop :=
  ∀ before after, events = before ++ after → (Ledger.of order base before).Fits

theorem Fitting.earlier {order : TraversalOrder} {base : ScanCounts} {events : List Event} {event : Event}
    (fitting : Fitting order base (events ++ [event])) : Fitting order base events := by
  intro before after split
  exact fitting before (after ++ [event]) (by rw [split, List.append_assoc])

theorem tracks_run (documented : methods.Documented) {order : TraversalOrder} {snapshot : ScanSnapshot}
    {cursor : Option (List UInt8)} {events : List Event} {state : State}
    (fitting : Fitting order snapshot.counts events)
    (run : (machine methods).exec (start order snapshot cursor) events = some state) :
    Tracks state (.of order snapshot.counts events) := by
  induction events using List.reverseRecOn generalizing state with
  | nil =>
      cases run
      exact tracks_start order snapshot cursor
  | append_singleton events event ih =>
      obtain ⟨middle, reached, stepped⟩ := Lib.Machine.exec_concat run
      have fits := fitting (events ++ [event]) [] (List.append_nil _).symm
      rw [Ledger.of_concat] at fits ⊢
      exact tracks_step documented (ih fitting.earlier reached) fits stepped

/-! ### What is saved -/

/-- The three totals of a snapshot are those of its counts. -/
structure Totaled (methods : EntryKindMethods) (snapshot : ScanSnapshot) : Prop where
  scanned : snapshot.scannedEntries = methods.total snapshot.counts.scanned
  filtered : snapshot.filteredEntries = methods.total snapshot.counts.filtered
  retained : snapshot.retainedEntries = methods.total snapshot.counts.retained

theorem totaled_setTotals (methods : EntryKindMethods) (snapshot : ScanSnapshot) :
    Totaled methods (snapshot.setTotals methods) := ⟨rfl, rfl, rfl⟩

/-- The counts of the last confirmed checkpoint. -/
def lastConfirmed (initial : ScanCounts) (saved : List SavedCheckpoint) : ScanCounts :=
  ((saved.filter fun saved => saved.cursor.isSome).getLast?.map fun saved => saved.snapshot.counts).getD initial

/-- A push changes neither what is saved nor what is confirmed. -/
theorem push_frame {state next : State} {value : DirectoryStatistics} (pushed : push methods state value = some next) :
    next.saved = state.saved ∧ next.progress.confirmed = state.progress.confirmed ∧
      next.progress.order = state.progress.order ∧ Totaled methods next.snapshot := by
  simp only [push] at pushed
  split at pushed
  · cases pushed
  split at pushed
  · cases pushed
  split at pushed
  · split at pushed
    · cases pushed
      exact ⟨rfl, rfl, rfl, totaled_setTotals ..⟩
    · cases pushed
  · cases pushed
    exact ⟨rfl, rfl, rfl, totaled_setTotals ..⟩
  · cases pushed

/-- What holds of the parts beside the counters. -/
structure Keeps (methods : EntryKindMethods) (initial : ScanCounts) (order : TraversalOrder) (state : State) : Prop where
  ordered : state.progress.order = order
  totaled : Totaled methods state.snapshot
  savedTotaled : ∀ saved ∈ state.saved, Totaled methods saved.snapshot ∧
    saved.observedEntries = saved.snapshot.scannedEntries
  confirmed : order = .blocks → state.progress.confirmed = lastConfirmed initial state.saved

theorem lastConfirmed_cursor (initial : ScanCounts) (saved : List SavedCheckpoint) (cursor : List UInt8)
    (snapshot : ScanSnapshot) (observed : Nat) :
    lastConfirmed initial (saved ++ [⟨some cursor, snapshot, observed⟩]) = snapshot.counts := by
  simp [lastConfirmed]

theorem lastConfirmed_final (initial : ScanCounts) (saved : List SavedCheckpoint) (snapshot : ScanSnapshot)
    (observed : Nat) :
    lastConfirmed initial (saved ++ [⟨none, snapshot, observed⟩]) = lastConfirmed initial saved := by
  simp [lastConfirmed]

theorem Keeps.step {initial : ScanCounts} {order : TraversalOrder} {state next : State} {event : Event}
    (keeps : Keeps methods initial order state) (stepped : step methods state event = some next) :
    Keeps methods initial order next := by
  cases event with
  | push value =>
      obtain ⟨saved, confirmed, sameOrder, totaled⟩ := push_frame stepped
      exact ⟨sameOrder.trans keeps.ordered, totaled, by rw [saved]; exact keeps.savedTotaled,
        fun blocks => by rw [saved, confirmed]; exact keeps.confirmed blocks⟩
  | checkpoint cursor =>
      obtain ⟨counts, allowed, rfl⟩ := Option.map_eq_some_iff.mp stepped
      refine ⟨keeps.ordered, keeps.totaled, fun saved member => ?_, fun _ => ?_⟩
      · obtain earlier | same := List.mem_append.mp member
        · exact keeps.savedTotaled saved earlier
        · cases List.mem_singleton.mp same
          exact ⟨totaled_setTotals .., rfl⟩
      · rw [lastConfirmed_cursor]
        exact (ScanProgress.checkpointCounts_eq allowed).symm
  | resumed selected =>
      simp only [Statistics.step, resumed] at stepped
      obtain ⟨counts, chosen, rfl⟩ := Option.map_eq_some_iff.mp stepped
      refine ⟨keeps.ordered, totaled_setTotals .., keeps.savedTotaled, fun blocks => ?_⟩
      simp only [keeps.ordered, blocks] at chosen
      split at chosen
      · cases chosen
      · cases chosen
        exact keeps.confirmed blocks
  | finish =>
      simp only [Statistics.step, finish] at stepped
      split at stepped
      · cases stepped
      · cases stepped
        have totaled : Totaled methods { state.snapshot with complete := true } :=
          ⟨keeps.totaled.scanned, keeps.totaled.filtered, keeps.totaled.retained⟩
        refine ⟨keeps.ordered, totaled, fun saved member => ?_, fun blocks =>
          (keeps.confirmed blocks).trans (lastConfirmed_final ..).symm⟩
        obtain earlier | same := List.mem_append.mp member
        · exact keeps.savedTotaled saved earlier
        · cases List.mem_singleton.mp same
          exact ⟨totaled, rfl⟩

theorem Keeps.start {order : TraversalOrder} {snapshot : ScanSnapshot} (totaled : Totaled methods snapshot)
    (cursor : Option (List UInt8)) :
    Keeps methods snapshot.counts order (start order snapshot cursor) :=
  ⟨rfl, totaled, fun _ member => absurd member List.not_mem_nil, fun _ => rfl⟩

theorem Keeps.run {order : TraversalOrder} {snapshot : ScanSnapshot} (totaled : Totaled methods snapshot)
    {cursor : Option (List UInt8)} {events : List Event} {state : State}
    (run : (machine methods).exec (Statistics.start order snapshot cursor) events = some state) :
    Keeps methods snapshot.counts order state :=
  Lib.Machine.exec_invariant (fun keeps stepped => keeps.step stepped) (Keeps.start totaled cursor) run

theorem savesFrom_concat (before events : List Event) (event : Event) :
    savesFrom before (events ++ [event]) = savesFrom before events ++
      (event.savedCursor?.map fun cursor => (before ++ events, cursor)).toList := by
  induction events generalizing before with
  | nil =>
      rw [List.nil_append, savesFrom, savesFrom, List.append_nil]
      cases event.savedCursor? <;> rfl
  | cons first rest ih =>
      rw [List.cons_append, savesFrom, savesFrom, ih, List.append_assoc]
      cases first.savedCursor? <;> rfl

theorem saves_concat (events : List Event) (event : Event) :
    saves (events ++ [event]) = saves events ++ (event.savedCursor?.map fun cursor => (events, cursor)).toList :=
  savesFrom_concat [] events event

theorem split_of_mem_saves {events before : List Event} {cursor : Option (List UInt8)}
    (member : (before, cursor) ∈ saves events) : ∃ event after, events = before ++ event :: after := by
  induction events using List.reverseRecOn with
  | nil => cases member
  | append_singleton events event ih =>
      rw [saves_concat] at member
      obtain earlier | last := List.mem_append.mp member
      · obtain ⟨first, after, rfl⟩ := ih earlier
        exact ⟨first, after ++ [event], by simp⟩
      · obtain ⟨same, -⟩ : events = before ∧ event.savedCursor? = some cursor := by
          simpa [and_comm] using last
        exact ⟨event, [], by rw [same]⟩

/-- The save names its cursor and counts the directories completed before it. -/
def SaveCounts (order : TraversalOrder) (initial : ScanCounts) (saved : SavedCheckpoint)
    (save : List Event × Option (List UInt8)) : Prop :=
  saved.cursor = save.2 ∧
    ∀ counter, saved.snapshot.counts.count counter = (Ledger.of order initial save.1).completed counter

/-- Each save counts the directories completed before it. -/
theorem saved_completed (documented : methods.Documented) {order : TraversalOrder} {snapshot : ScanSnapshot}
    {cursor : Option (List UInt8)} {events : List Event} {state : State}
    (fitting : Fitting order snapshot.counts events)
    (run : (machine methods).exec (start order snapshot cursor) events = some state) :
    List.Forall₂ (SaveCounts order snapshot.counts) state.saved (saves events) := by
  induction events using List.reverseRecOn generalizing state with
  | nil =>
      cases run
      exact .nil
  | append_singleton events event ih =>
      obtain ⟨middle, reached, stepped⟩ := Lib.Machine.exec_concat run
      have tracks := tracks_run documented fitting.earlier reached
      have old := ih fitting.earlier reached
      rw [saves_concat]
      cases event with
      | push value =>
          rw [(push_frame stepped).1]
          simpa [Event.savedCursor?] using old
      | resumed selected =>
          simp only [machine, step, resumed] at stepped
          obtain ⟨counts, chosen, rfl⟩ := Option.map_eq_some_iff.mp stepped
          simpa [Event.savedCursor?] using old
      | checkpoint cursor =>
          obtain ⟨counts, allowed, rfl⟩ := Option.map_eq_some_iff.mp stepped
          cases ScanProgress.checkpointCounts_eq allowed
          exact List.rel_append old (.cons ⟨rfl, tracks.completed⟩ .nil)
      | finish =>
          simp only [machine, step, finish] at stepped
          split at stepped
          · cases stepped
          · rename_i settled
            cases stepped
            refine List.rel_append old (.cons ⟨rfl, fun counter => (tracks.shown counter).trans ?_⟩ .nil)
            have empty : (Ledger.of order snapshot.counts events).active = [] := by
              have none : middle.progress.active = [] := by simpa using settled
              exact List.map_eq_nil_iff.mp (tracks.active.symm.trans none)
            simp [Ledger.total, empty, contributed]

theorem exists_save {order : TraversalOrder} {initial : ScanCounts} {saves : List (List Event × Option (List UInt8))}
    {all : List SavedCheckpoint} (counted : List.Forall₂ (SaveCounts order initial) all saves)
    {saved : SavedCheckpoint} (member : saved ∈ all) : ∃ save ∈ saves, SaveCounts order initial saved save := by
  induction counted with
  | nil => cases member
  | cons first rest ih =>
      obtain rfl | later := List.mem_cons.mp member
      · exact ⟨_, List.mem_cons_self, first⟩
      · obtain ⟨save, inside, counts⟩ := ih later
        exact ⟨save, List.mem_cons_of_mem _ inside, counts⟩

/-! ### Validity of checkpoints -/

theorem contributed_balanced {values : List DirectoryStatistics}
    (balanced : ∀ value ∈ values, (ScanCounts.fromDirectory value).Balanced) (kind : EntryKindName) :
    contributed values (.kind .scanned kind) =
      contributed values (.kind .filtered kind) + contributed values (.kind .retained kind) +
        contributed values (.kind .failed kind) + contributed values (.kind .vanished kind) := by
  induction values with
  | nil => rfl
  | cons value rest ih =>
      obtain ⟨first, others⟩ := List.forall_mem_cons.mp balanced
      have here := first kind
      have later := ih others
      simp only [contributed_cons, ScanCounts.count, ScanCounts.group] at here later ⊢
      omega

/-- Directories are recorded from pushes. -/
theorem recorded_pushed {order : TraversalOrder} {base : ScanCounts} {events : List Event} :
    (∀ value ∈ (Ledger.of order base events).done, .push value ∈ events) ∧
      ∀ value ∈ (Ledger.of order base events).confirmed, .push value ∈ events := by
  induction events using List.reverseRecOn with
  | nil => exact ⟨nofun, nofun⟩
  | append_singleton events event ih =>
      have done := fun value member => List.mem_append_left [event] (ih.1 value member)
      have confirmed := fun value member => List.mem_append_left [event] (ih.2 value member)
      rw [Ledger.of_concat]
      cases event with
      | push value =>
          simp only [Ledger.record]
          split
          · refine ⟨fun other member => ?_, confirmed⟩
            obtain earlier | same := List.mem_append.mp member
            · exact done other earlier
            · cases List.mem_singleton.mp same
              simp
          · exact ⟨done, confirmed⟩
      | checkpoint cursor => exact ⟨done, done⟩
      | resumed selected =>
          simp only [Ledger.record]
          split
          · exact ⟨confirmed, confirmed⟩
          · exact ⟨nofun, nofun⟩
      | finish => exact ⟨done, confirmed⟩

theorem base_balanced {order : TraversalOrder} {base : ScanCounts} {events : List Event} (balanced : base.Balanced) :
    (Ledger.of order base events).base.Balanced := by
  induction events using List.reverseRecOn with
  | nil => exact balanced
  | append_singleton events event ih =>
      rw [Ledger.of_concat]
      cases event with
      | push value =>
          simp only [Ledger.record]
          split <;> exact ih
      | checkpoint cursor => exact ih
      | resumed selected =>
          simp only [Ledger.record]
          split
          · exact ih
          · exact fun kind => by cases kind <;> rfl
      | finish => exact ih

theorem completed_balanced {order : TraversalOrder} {base counts : ScanCounts} {events : List Event}
    (balanced : base.Balanced)
    (each : ∀ value, .push value ∈ events → (ScanCounts.fromDirectory value).Balanced)
    (counted : ∀ counter, counts.count counter = (Ledger.of order base events).completed counter) :
    counts.Balanced := by
  intro kind
  have restored := @base_balanced order _ events balanced kind
  have done := contributed_balanced
    (fun value member => each value ((@recorded_pushed order base events).1 value member)) kind
  have scanned := counted (.kind .scanned kind)
  have filtered := counted (.kind .filtered kind)
  have retained := counted (.kind .retained kind)
  have failed := counted (.kind .failed kind)
  have vanished := counted (.kind .vanished kind)
  simp only [Ledger.completed, ScanCounts.count, ScanCounts.group] at scanned filtered retained failed vanished
  omega

theorem validCheckpoint_of_balanced (documented : methods.Documented) {snapshot : ScanSnapshot} {observed : Nat}
    (totaled : Totaled methods snapshot) (same : observed = snapshot.scannedEntries)
    (balanced : snapshot.counts.Balanced) (small : ∀ kind, snapshot.counts.scanned.count kind < 2 ^ 64) :
    snapshot.validCheckpoint methods observed = true := by
  have accounted : snapshot.counts.scanned = methods.saturatingAdd (methods.saturatingAdd
      (methods.saturatingAdd snapshot.counts.filtered snapshot.counts.retained) snapshot.counts.failed)
        snapshot.counts.vanished := by
    refine EntryKindCounts.ext_count fun kind => ?_
    have exact_ := balanced kind
    have bound := small kind
    rw [documented.add, documented.add, documented.add]
    omega
  simp only [ScanSnapshot.validCheckpoint, ← accounted, ← totaled.scanned, ← totaled.filtered, ← totaled.retained,
    same, decide_true, Bool.and_self]

/-! ### Contributions are counted once -/

/-- What holds of the state after an accepted sequence of events that began with `initial` counts. -/
structure CountedOnce (methods : EntryKindMethods) (order : TraversalOrder) (initial : ScanCounts)
    (events : List Event) (state : State) : Prop where
  shown : ∀ counter, state.snapshot.counts.count counter = state.progress.completePrefix.count counter +
    (state.progress.active.map fun directory => directory.counts.count counter).sum
  latest : state.progress.active = (Ledger.of order initial events).active.map ActiveDirectory.of
  completed : ∀ counter, state.progress.completePrefix.count counter =
    (Ledger.of order initial events).completed counter
  saved : List.Forall₂ (SaveCounts order initial) state.saved (saves events)
  resumed : ∀ before selected, events = before ++ [Event.resumed selected] →
    state.snapshot.counts =
      match order with
      | .blocks => lastConfirmed initial state.saved
      | .unordered => .default
  valid : initial.Balanced → (∀ value, .push value ∈ events → (ScanCounts.fromDirectory value).Balanced) →
    ∀ saved ∈ state.saved, saved.snapshot.validCheckpoint methods saved.observedEntries = true ∧
      saved.observedEntries = methods.total saved.snapshot.counts.scanned

theorem contributions_counted_once (documented : methods.Documented) {order : TraversalOrder}
    {snapshot : ScanSnapshot} (totaled : Totaled methods snapshot) {cursor : Option (List UInt8)}
    {events : List Event} (fitting : Fitting order snapshot.counts events) {state : State}
    (run : (machine methods).exec (start order snapshot cursor) events = some state) :
    CountedOnce methods order snapshot.counts events state := by
  have tracks := tracks_run documented fitting run
  have keeps := Keeps.run totaled run
  refine ⟨fun counter => ?_, tracks.active, tracks.completed, saved_completed documented fitting run,
    fun before selected last => ?_, fun balanced each saved member => ?_⟩
  · rw [tracks.shown, Ledger.total, tracks.completed, tracks.active, List.map_map]
    rfl
  · subst last
    obtain ⟨middle, reached, stepped⟩ := Lib.Machine.exec_concat run
    have before := Keeps.run totaled reached
    simp only [machine, step, resumed] at stepped
    obtain ⟨counts, chosen, rfl⟩ := Option.map_eq_some_iff.mp stepped
    rw [before.ordered] at chosen
    cases order with
    | blocks =>
        simp only at chosen
        split at chosen
        · cases chosen
        · cases chosen
          exact before.confirmed rfl
    | unordered =>
        simp only at chosen
        split at chosen
        · cases chosen
        · cases chosen
          rfl
  · obtain ⟨⟨before, cursor⟩, inside, -, counted⟩ := exists_save (saved_completed documented fitting run) member
    obtain ⟨event, after, split⟩ := split_of_mem_saves inside
    obtain ⟨totals, observed⟩ := keeps.savedTotaled saved member
    have fits := fitting before (event :: after) split
    have even := completed_balanced balanced
      (fun value inside => each value (by rw [split]; exact List.mem_append_left _ inside)) counted
    refine ⟨validCheckpoint_of_balanced documented totals observed even fun kind => ?_,
      observed.trans totals.scanned⟩
    have same := counted (.kind .scanned kind)
    have small := fits (.kind .scanned kind)
    simp only [ScanCounts.count, ScanCounts.group] at same
    rw [same]
    exact Nat.lt_of_le_of_lt (Nat.le_add_right ..) small

/-! ### Totals that fit -/

def pushed (events : List Event) : List DirectoryStatistics :=
  events.filterMap fun
    | .push value => some value
    | _ => none

theorem contributed_filter_le (values : List DirectoryStatistics) (keep : DirectoryStatistics → Bool)
    (counter : Counter) : contributed (values.filter keep) counter ≤ contributed values counter := by
  induction values with
  | nil => exact Nat.le_refl _
  | cons value rest ih =>
      rw [List.filter_cons]
      split
      · rw [contributed_cons, contributed_cons]
        omega
      · rw [contributed_cons]
        omega

theorem contributed_append (first second : List DirectoryStatistics) (counter : Counter) :
    contributed (first ++ second) counter = contributed first counter + contributed second counter := by
  simp [contributed]

theorem total_le_pushed (order : TraversalOrder) (base : ScanCounts) (events : List Event) (counter : Counter) :
    (Ledger.of order base events).total counter ≤ base.count counter + contributed (pushed events) counter ∧
      (Ledger.of order base events).base.count counter +
        contributed (Ledger.of order base events).confirmed counter ≤
          base.count counter + contributed (pushed events) counter := by
  induction events using List.reverseRecOn with
  | nil => exact ⟨Nat.le_refl _, Nat.le_refl _⟩
  | append_singleton events event ih =>
      obtain ⟨total, confirmed⟩ := ih
      rw [Ledger.of_concat]
      have grown : pushed (events ++ [event]) = pushed events ++ pushed [event] := List.filterMap_append ..
      rw [grown, contributed_append]
      cases event with
      | push value =>
          have here : contributed (pushed [.push value]) counter = (ScanCounts.fromDirectory value).count counter := by
            simp [pushed, contributed]
          have fewer := contributed_filter_le (Ledger.of order base events).active
            (fun directory => directory.path ≠ value.path) counter
          simp only [Ledger.total, Ledger.completed] at total
          rw [here]
          simp only [Ledger.record]
          split
          · simp only [Ledger.total, Ledger.completed, contributed_concat]
            omega
          · simp only [Ledger.total, Ledger.completed, contributed_cons]
            omega
      | checkpoint cursor =>
          simp only [Ledger.record, Ledger.total, Ledger.completed] at total ⊢
          omega
      | resumed selected =>
          simp only [Ledger.record]
          split
          · simp only [Ledger.total, Ledger.completed, contributed, List.map_nil, List.sum_nil] at confirmed ⊢
            omega
          · simp [Ledger.total, Ledger.completed, contributed]
      | finish =>
          simp only [Ledger.record, Ledger.total, Ledger.completed] at total ⊢
          omega

/-- The totals fit when all revisions ever pushed do. -/
theorem fitting_of_pushed {order : TraversalOrder} {base : ScanCounts} {events : List Event}
    (small : ∀ counter, base.count counter + contributed (pushed events) counter < 2 ^ 64) :
    Fitting order base events := by
  intro before after split counter
  have all := (total_le_pushed order base before counter).1
  have bound := small counter
  rw [split, pushed, List.filterMap_append, contributed_append] at bound
  exact Nat.lt_of_le_of_lt (Nat.le_trans all (by simp only [pushed]; omega)) bound

/-! An attempt is broken off inside a directory and taken up at the checkpoint before it. -/

def kindwise (combine : Nat → Nat → Nat) (left right : EntryKindCounts) : EntryKindCounts :=
  ⟨combine left.directories right.directories, combine left.regularFiles right.regularFiles,
    combine left.symlinks right.symlinks, combine left.blockDevices right.blockDevices,
    combine left.characterDevices right.characterDevices, combine left.fifos right.fifos,
    combine left.sockets right.sockets, combine left.unknown right.unknown⟩

def u64Methods : EntryKindMethods where
  saturatingAdd := kindwise saturatingAdd
  saturatingSub := kindwise (· - ·)
  total counts := counts.directories + counts.regularFiles + counts.symlinks + counts.blockDevices +
    counts.characterDevices + counts.fifos + counts.sockets + counts.unknown

theorem u64Methods_documented : u64Methods.Documented :=
  ⟨fun _ _ kind => by cases kind <;> rfl, fun _ _ kind => by cases kind <;> rfl⟩

/-- A block of regular files of ten bytes each. -/
def block (path : RelativePath) (files revision : Nat) (outcome : Option ListingOutcome) : DirectoryStatistics where
  path := path
  passStart := revision = 1
  revision := revision
  scanned := { EntryKindCounts.default with regularFiles := files }
  filtered := .default
  retained := { EntryKindCounts.default with regularFiles := files }
  failed := .default
  vanished := .default
  prunedDirs := 0
  truncatedDirs := 0
  regularFileBytes := files * 10
  unknownFileSizes := 0
  versions := 0
  deleteMarkers := 0
  allVersionsBytes := files * 10
  outcome := outcome
  vanishedListing := false

def brokenOff : List Event :=
  [.push (block ['a'] 200 1 (some .complete)), .checkpoint [1], .push (block ['b'] 100 1 none), .resumed (some [1]),
    .push (block ['b'] 100 1 none), .push (block ['b'] 800 2 (some .complete)), .checkpoint [2], .finish]

theorem brokenOff_enabled : ((machine u64Methods).exec (start .blocks .new none) brokenOff).isSome = true := by decide

theorem brokenOff_small (counter : Counter) :
    ScanSnapshot.new.counts.count counter + contributed (pushed brokenOff) counter < 2 ^ 64 := by
  cases counter with
  | kind group kind => cases group <;> cases kind <;> decide
  | scalar scalar => cases scalar <;> decide

theorem contributions_counted_once_brokenOff :
    ∃ state, (machine u64Methods).exec (start .blocks .new none) brokenOff = some state ∧
      state.saved.map SavedCheckpoint.observedEntries = [200, 1000, 1000] ∧
        CountedOnce u64Methods .blocks ScanSnapshot.new.counts brokenOff state :=
  ⟨_, (Option.some_get brokenOff_enabled).symm, by decide,
    contributions_counted_once u64Methods_documented ⟨rfl, rfl, rfl⟩ (fitting_of_pushed brokenOff_small)
      (Option.some_get brokenOff_enabled).symm⟩

end Terrasync.Scan.Statistics
