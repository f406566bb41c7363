import Terrasync.Scan.ScanCuts

/-! What a scan can fall back to. The snapshots that the last saved state names are complete and
are the tables as they were when it was saved and when its round began, at every moment of every
history of sessions, crashes and cleanups; so a crash loses nothing that was confirmed, and a
round that is not committed can be undone. -/

set_option autoImplicit false

namespace Terrasync.Scan.Cuts

variable {Entry Event : Type} {digest : RequestFields → List Char}

/-! ### Saved states -/

theorem load_none {manifests : List ScanResumeState} (none_ : loadResumeState manifests = none) :
    manifests = [] := by
  cases manifests with
  | nil => rfl
  | cons row rest =>
      simp only [loadResumeState] at none_
      split at none_
      · split at none_ <;> cases none_
      · cases none_

theorem version_le_of_load {manifests : List ScanResumeState} {latest : ScanResumeState}
    (loaded : loadResumeState manifests = some latest) :
    ∀ row ∈ manifests, row.version ≤ latest.version := by
  induction manifests generalizing latest with
  | nil => simp
  | cons row rest ih =>
      intro other member
      cases best : loadResumeState rest with
      | none =>
          cases load_none best
          cases loaded
          exact Nat.le_of_eq (congrArg ScanResumeState.version (List.mem_singleton.mp member))
      | some best' =>
          simp only [loadResumeState, best] at loaded
          rcases List.mem_cons.mp member with rfl | member
          · split at loaded <;> cases loaded <;> omega
          · have := ih best other member
            split at loaded <;> cases loaded <;> omega

/-- A saved state of a new highest version is the one that is loaded. -/
theorem load_concat {manifests : List ScanResumeState} {saved : ScanResumeState}
    (above : ∀ row ∈ manifests, row.version < saved.version) :
    loadResumeState (manifests ++ [saved]) = some saved := by
  induction manifests with
  | nil => rfl
  | cons row rest ih =>
      have later := ih fun other member => above other (List.mem_cons_of_mem _ member)
      have := above row (List.mem_cons_self ..)
      simp only [List.cons_append, loadResumeState, later]
      rw [if_pos (by omega)]

theorem above_of_load {manifests : List ScanResumeState} {latest saved : ScanResumeState}
    (loaded : loadResumeState manifests = some latest) (later : saved.version = latest.version + 1) :
    ∀ row ∈ manifests, row.version < saved.version := fun row member => by
  have := version_le_of_load loaded row member
  omega

/-! ### The invariant -/

/-- The same rows and the same events, whatever generation the rows carry. -/
def SameRows (first second : Facts Entry Event) : Prop :=
  first.base.map BaseRow.entry = second.base.map BaseRow.entry ∧ first.events = second.events

/-- Both tables of a snapshot are there, and hold these facts. -/
structure Shows (store : Store Entry Event) (token : Nat) (facts : Facts Entry Event) : Prop where
  used : token < store.tokens
  base : store.baseCuts token = some facts.base
  events : store.eventCuts token = some facts.events

/-- A round is open: its state is the last saved one, and its generation is not committed. -/
structure UnderWay (manifests : List ScanResumeState) (scanState : Nat) (saved : ScanResumeState) : Prop where
  loaded : loadResumeState manifests = some saved
  active : saved.active = true
  uncommitted : scanState = 1 - saved.generation

/-- What is behind an active saved state. -/
structure Kept (store : Store Entry Event) (ledger : Ledger Entry Event) (saved : ScanResumeState) :
    Prop where
  checkpoint : Shows store saved.checkpointSnapshot ledger.confirmed
  baseline : Shows store saved.baselineSnapshot ledger.begun
  generation : saved.generation ≤ 1
  place : (store.scanState = 1 - saved.generation ∧ SameRows ledger.begun ledger.published) ∨
    (store.scanState = saved.generation ∧ saved.phase = .finalizing ∧ store.working = ledger.published)

/-- What holds of the store whoever works on it. -/
structure Durable (store : Store Entry Event) (ledger : Ledger Entry Event) : Prop where
  scanState : store.scanState ≤ 1
  settled : (∀ saved, loadResumeState store.manifests = some saved → saved.active = false) →
    SameRows store.working ledger.published
  kept : ∀ saved, loadResumeState store.manifests = some saved → saved.active = true →
    Kept store ledger saved

/-- How much of a snapshot the first statements of `restore` brought back. -/
def Restored (working facts : Facts Entry Event) : Nat → Prop
  | 0 => True
  | 1 => True
  | 2 => working.base = []
  | 3 => working.base = facts.base
  | 4 => working.base = facts.base ∧ working.events = []
  | _ => False

def Cloned {Row : Type} (cut : Option (List Row)) (source : List Row) : Clone → Prop
  | .absent => True
  | .created => cut = some []
  | .attached => cut = some source

/-- A snapshot in the making, which no saved state names. -/
structure Captured (store : Store Entry Event) (token : Nat) (base events : Clone) : Prop where
  used : token < store.tokens
  unnamed : ∀ saved, loadResumeState store.manifests = some saved → saved.active = true →
    token ≠ saved.checkpointSnapshot ∧ token ≠ saved.baselineSnapshot
  base : Cloned (store.baseCuts token) store.working.base base
  events : Cloned (store.eventCuts token) store.working.events events

/-- The next state of the round under way. -/
structure Continues (manifests : List ScanResumeState) (scanState : Nat) (saved : ScanResumeState)
    (next : AfterSave) : Prop where
  latest : ∃ old, UnderWay manifests scanState old ∧ saved.version = old.version + 1 ∧
    saved.generation = old.generation ∧ saved.baselineSnapshot = old.baselineSnapshot
  next : (next = .round true ∧ saved.active = true) ∨ (next = .commit ∧ saved.phase = .finalizing)

/-- The first state of a new round. -/
structure Begins (store : Store Entry Event) (ledger : Ledger Entry Event) (saved : ScanResumeState) :
    Prop where
  settled : ∀ old, loadResumeState store.manifests = some old → old.active = false
  above : ∀ row ∈ store.manifests, row.version < saved.version
  running : saved.phase = .running
  generation : saved.generation ≤ 1 ∧ store.scanState = 1 - saved.generation
  snapshots : saved.checkpointSnapshot = saved.baselineSnapshot
  baseline : Shows store saved.baselineSnapshot ledger.captured
  rows : SameRows ledger.captured ledger.published

/-- The last state of a committed round. -/
structure Completes (store : Store Entry Event) (ledger : Ledger Entry Event) (saved : ScanResumeState) :
    Prop where
  above : ∀ row ∈ store.manifests, row.version < saved.version
  completed : saved.phase = .completed
  published : store.working = ledger.published

/-- What is known when a session goes on behind a saved state. -/
def Onward (store : Store Entry Event) (ledger : Ledger Entry Event) (saved : ScanResumeState) :
    AfterSave → Prop
  | .begun => UnderWay store.manifests store.scanState saved ∧ saved.phase = .running
  | .round _ => UnderWay store.manifests store.scanState saved ∧ store.working = ledger.confirmed
  | .commit =>
      UnderWay store.manifests store.scanState saved ∧ saved.phase = .finalizing ∧
        store.working = ledger.confirmed
  | .baseline => SameRows store.working ledger.published
  | .done => True

def AtSession (store : Store Entry Event) (ledger : Ledger Entry Event) : Session → Prop
  | .closed => True
  | .restoring token statements (.round saved _) =>
      UnderWay store.manifests store.scanState saved ∧ token = saved.checkpointSnapshot ∧
        Restored store.working ledger.confirmed statements
  | .restoring token statements .baseline =>
      ∃ saved, UnderWay store.manifests store.scanState saved ∧ token = saved.baselineSnapshot ∧
        Restored store.working ledger.begun statements
  | .capturing token base events .baseline =>
      Captured store token base events ∧ SameRows store.working ledger.published
  | .capturing token base events (.save saved next) =>
      Captured store token base events ∧ Continues store.manifests store.scanState saved next
  | .beginning baseline =>
      Shows store baseline ledger.captured ∧ store.working = ledger.captured ∧
        SameRows ledger.captured ledger.published
  | .rebasing baseline =>
      (∀ old, loadResumeState store.manifests = some old → old.active = false) ∧
        Shows store baseline ledger.captured ∧ SameRows ledger.captured ledger.published
  | .saving saved _ .begun => Begins store ledger saved
  | .saving saved _ (.round matching) =>
      Continues store.manifests store.scanState saved (.round matching) ∧
        Shows store saved.checkpointSnapshot store.working
  | .saving saved _ .commit =>
      Continues store.manifests store.scanState saved .commit ∧
        Shows store saved.checkpointSnapshot store.working
  | .saving saved _ .baseline => Completes store ledger saved
  | .saving saved _ .done => Completes store ledger saved
  | .cleaning saved tables next =>
      loadResumeState store.manifests = some saved ∧ Onward store ledger saved next ∧
        (saved.active = true → ∀ table ∈ tables,
          table.1 ≠ saved.checkpointSnapshot ∧ table.1 ≠ saved.baselineSnapshot)
  | .round saved snapshotMatchesFacts =>
      UnderWay store.manifests store.scanState saved ∧
        (snapshotMatchesFacts = true → store.working = ledger.confirmed) ∧
        (saved.phase ≠ .running → saved.incremental = false → store.working = ledger.confirmed)
  | .committing saved =>
      UnderWay store.manifests store.scanState saved ∧ saved.phase = .finalizing ∧
        store.working = ledger.confirmed

structure Inv (state : State Entry Event) : Prop where
  durable : Durable state.store state.ledger
  session : AtSession state.store state.ledger state.session

/-! ### Snapshots that stay -/

theorem UnderWay.kept {store : Store Entry Event} {ledger : Ledger Entry Event} {saved : ScanResumeState}
    (durable : Durable store ledger) (open_ : UnderWay store.manifests store.scanState saved) :
    Kept store ledger saved :=
  durable.kept saved open_.loaded open_.active

theorem UnderWay.unique {manifests : List ScanResumeState} {scanState : Nat} {first second : ScanResumeState}
    (left : UnderWay manifests scanState first) (right : UnderWay manifests scanState second) :
    first = second :=
  Option.some.inj (left.loaded.symm.trans right.loaded)

/-- The tables of an open round may change. -/
theorem Durable.write {store : Store Entry Event} {ledger : Ledger Entry Event} {saved : ScanResumeState}
    (durable : Durable store ledger) (open_ : UnderWay store.manifests store.scanState saved)
    (working : Facts Entry Event) :
    Durable { store with working } ledger where
  scanState := durable.scanState
  settled := fun inactive => by
    have := inactive saved open_.loaded
    rw [open_.active] at this
    cases this
  kept := fun old loaded active => by
    have kept := durable.kept old loaded active
    refine ⟨⟨kept.checkpoint.used, kept.checkpoint.base, kept.checkpoint.events⟩,
      ⟨kept.baseline.used, kept.baseline.base, kept.baseline.events⟩, kept.generation, ?_⟩
    cases Option.some.inj (open_.loaded.symm.trans loaded)
    have uncommitted : store.scanState = 1 - saved.generation := open_.uncommitted
    rcases kept.place with place | place
    · exact Or.inl place
    · have := kept.generation
      omega

/-- The snapshots may change, as long as those that are named stay. -/
theorem Durable.cuts {store : Store Entry Event} {ledger : Ledger Entry Event}
    {baseCuts : Nat → Option (List (BaseRow Entry))} {eventCuts : Nat → Option (List Event)} {tokens : Nat}
    (durable : Durable store ledger) (grown : store.tokens ≤ tokens)
    (same : ∀ saved, loadResumeState store.manifests = some saved → saved.active = true →
      ∀ token, token = saved.checkpointSnapshot ∨ token = saved.baselineSnapshot →
        baseCuts token = store.baseCuts token ∧ eventCuts token = store.eventCuts token) :
    Durable { store with baseCuts, eventCuts, tokens } ledger where
  scanState := durable.scanState
  settled := durable.settled
  kept := fun saved loaded active => by
    obtain ⟨⟨used, base, events⟩, ⟨usedBaseline, baseBaseline, eventsBaseline⟩, generation, place⟩ :=
      durable.kept saved loaded active
    obtain ⟨sameBase, sameEvents⟩ := same saved loaded active saved.checkpointSnapshot (Or.inl rfl)
    obtain ⟨sameBaseline, sameEventsBaseline⟩ := same saved loaded active saved.baselineSnapshot (Or.inr rfl)
    exact ⟨⟨Nat.lt_of_lt_of_le used grown, sameBase.trans base, sameEvents.trans events⟩,
      ⟨Nat.lt_of_lt_of_le usedBaseline grown, sameBaseline.trans baseBaseline,
        sameEventsBaseline.trans eventsBaseline⟩, generation, place⟩

/-- A new token is not the name of a snapshot that is kept. -/
theorem Durable.fresh {store : Store Entry Event} {ledger : Ledger Entry Event}
    (durable : Durable store ledger) {saved : ScanResumeState}
    (loaded : loadResumeState store.manifests = some saved) (active : saved.active = true) :
    store.tokens ≠ saved.checkpointSnapshot ∧ store.tokens ≠ saved.baselineSnapshot := by
  have kept := durable.kept saved loaded active
  have := kept.checkpoint.used
  have := kept.baseline.used
  omega

/-! ### One statement -/

theorem capture_inv {state : State Entry Event} {next : AfterCapture}
    (durable : Durable state.store state.ledger)
    (purpose : match next with
      | .baseline => SameRows state.store.working state.ledger.published
      | .save saved after => Continues state.store.manifests state.store.scanState saved after) :
    Inv (state.capture next) := by
  have captured : Captured (state.capture next).store state.store.tokens .absent .absent :=
    ⟨Nat.lt_succ_self _, fun _ loaded active => durable.fresh loaded active, trivial, trivial⟩
  refine ⟨durable.cuts (Nat.le_succ _) fun _ _ _ _ _ => ⟨rfl, rfl⟩, ?_⟩
  cases next with
  | baseline => exact ⟨captured, purpose⟩
  | save saved after => exact ⟨captured, purpose⟩

theorem goOn_inv {state : State Entry Event} {saved : ScanResumeState} {next : AfterSave}
    (durable : Durable state.store state.ledger) (onward : Onward state.store state.ledger saved next) :
    Inv (state.goOn saved next) := by
  cases next with
  | begun =>
      exact ⟨durable, onward.1, (absurd · Bool.false_ne_true), (absurd onward.2 ·)⟩
  | round matching => exact ⟨durable, onward.1, fun _ => onward.2, fun _ _ => onward.2⟩
  | commit => exact ⟨durable, onward⟩
  | baseline => exact capture_inv durable onward
  | done => exact ⟨durable, trivial⟩

theorem openJob_inv {state next : State Entry Event} {resume : Bool}
    (durable : Durable state.store state.ledger) (opened : state.openJob resume = some next) : Inv next := by
  unfold State.openJob at opened
  cases loaded : loadResumeState state.store.manifests with
  | none =>
      simp only [loaded, Option.some.injEq] at opened
      subst opened
      exact capture_inv durable (durable.settled fun saved other => by simp [loaded] at other)
  | some old =>
      simp only [loaded] at opened
      cases active : old.active with
      | false =>
          simp only [active, Bool.not_false, if_true, Option.some.injEq] at opened
          subst opened
          refine capture_inv durable (durable.settled fun saved other => ?_)
          cases Option.some.inj (loaded.symm.trans other)
          exact active
      | true =>
          have kept := durable.kept old loaded active
          have := kept.generation
          simp only [active, Bool.not_true, Bool.false_eq_true, if_false] at opened
          replace opened := (Option.ite_none_left_eq_some.mp opened).2
          by_cases committed : state.store.scanState = old.generation
          · obtain ⟨finalizing, published⟩ :
                old.phase = .finalizing ∧ state.store.working = state.ledger.published := by
              rcases kept.place with place | place
              · omega
              · exact place.2
            rw [if_pos committed, if_pos finalizing] at opened
            obtain ⟨completed, advanced, rfl⟩ := Option.map_eq_some_iff.mp opened
            have completes : Completes state.store state.ledger completed := by
              rw [ScanResumeState.advance_eq advanced]
              exact ⟨above_of_load loaded rfl, rfl, published⟩
            exact ⟨durable, by cases resume <;> exact completes⟩
          · have open_ : UnderWay state.store.manifests state.store.scanState old := by
              refine ⟨loaded, active, ?_⟩
              rcases kept.place with place | place
              · exact place.1
              · exact absurd place.1 committed
            rw [if_neg committed] at opened
            cases resume with
            | true =>
                simp only [if_true, Option.some.injEq] at opened
                subst opened
                exact ⟨durable, open_, rfl, trivial⟩
            | false =>
                simp only [Bool.false_eq_true, if_false, Option.some.injEq] at opened
                subst opened
                exact ⟨durable, old, open_, rfl, trivial⟩

/-- The statements of `restore` find the snapshot and bring it back. -/
theorem restored_step {store next : Store Entry Event} {token statements : Nat} {facts : Facts Entry Event}
    (shows_ : Shows store token facts) (restored : Restored store.working facts statements)
    (stepped : store.restoreStatement token statements = some next) :
    (∃ working, next = { store with working }) ∧
      (statements < 4 → Restored next.working facts (statements + 1)) ∧
      (¬ statements < 4 → next.working = facts) := by
  rcases statements with - | - | - | - | - | more
  · simp only [Store.restoreStatement, shows_.base, shows_.events, Option.isSome_some, Bool.and_self,
      if_true, Option.some.injEq] at stepped
    subst stepped
    exact ⟨⟨_, rfl⟩, fun _ => trivial, fun no => absurd (by omega) no⟩
  · cases stepped
    exact ⟨⟨_, rfl⟩, fun _ => rfl, fun no => absurd (by omega) no⟩
  · simp only [Store.restoreStatement, shows_.base, Option.map_some, Option.some.injEq] at stepped
    subst stepped
    refine ⟨⟨_, rfl⟩, fun _ => ?_, fun no => absurd (by omega) no⟩
    have empty : store.working.base = [] := restored
    simp [Restored, empty]
  · cases stepped
    exact ⟨⟨_, rfl⟩, fun _ => ⟨restored, rfl⟩, fun no => absurd (by omega) no⟩
  · obtain ⟨full, empty⟩ := restored
    simp only [Store.restoreStatement, shows_.events, Option.map_some, Option.some.injEq] at stepped
    subst stepped
    refine ⟨⟨_, rfl⟩, fun few => absurd few (by omega), fun _ => ?_⟩
    simp [full, empty]
  · exact restored.elim

theorem restoring_inv {state next : State Entry Event} {token statements : Nat} {after : AfterRestore}
    (inv : Inv state) (here : state.session = .restoring token statements after)
    (stepped : state.statement = some next) : Inv next := by
  obtain ⟨durable, session⟩ := inv
  rw [here] at session
  simp only [State.statement, here] at stepped
  obtain ⟨store, restored, finished⟩ := Option.map_eq_some_iff.mp stepped
  cases after with
  | round saved matching =>
      obtain ⟨open_, rfl, partial_⟩ := session
      obtain ⟨⟨working, rfl⟩, more, done⟩ := restored_step (open_.kept durable).checkpoint partial_ restored
      split at finished
      next few =>
          subst finished
          exact ⟨durable.write open_ working, open_, rfl, more few⟩
      next full =>
          subst finished
          exact ⟨durable.write open_ working, open_, fun _ => done full, fun _ _ => done full⟩
  | baseline =>
      obtain ⟨saved, open_, rfl, partial_⟩ := session
      have kept := open_.kept durable
      obtain ⟨⟨working, rfl⟩, more, done⟩ := restored_step kept.baseline partial_ restored
      split at finished
      next few =>
          subst finished
          exact ⟨durable.write open_ working, saved, open_, rfl, more few⟩
      next full =>
          subst finished
          refine capture_inv (durable.write open_ working) ?_
          show SameRows working state.ledger.published
          rw [show working = state.ledger.begun from done full]
          have := open_.uncommitted
          have := kept.generation
          rcases kept.place with place | place
          · exact place.2
          · omega

theorem cloneBase_spec {store next : Store Entry Event} {token : Nat} {clone after : Clone}
    (cloned : Cloned (store.baseCuts token) store.working.base clone)
    (stepped : store.cloneBase token clone = some (next, after)) :
    ∃ rows, next = { store with baseCuts := Function.update store.baseCuts token rows } ∧
      Cloned rows store.working.base after := by
  cases clone with
  | absent =>
      cases stepped
      exact ⟨_, rfl, rfl⟩
  | created =>
      have cloned : store.baseCuts token = some [] := cloned
      simp only [Store.cloneBase, cloned, Option.map_some, List.nil_append] at stepped
      cases stepped
      exact ⟨_, rfl, rfl⟩
  | attached => cases stepped

theorem cloneEvents_spec {store next : Store Entry Event} {token : Nat} {clone after : Clone}
    (cloned : Cloned (store.eventCuts token) store.working.events clone)
    (stepped : store.cloneEvents token clone = some (next, after)) :
    ∃ rows, next = { store with eventCuts := Function.update store.eventCuts token rows } ∧
      Cloned rows store.working.events after := by
  cases clone with
  | absent =>
      cases stepped
      exact ⟨_, rfl, rfl⟩
  | created =>
      have cloned : store.eventCuts token = some [] := cloned
      simp only [Store.cloneEvents, cloned, Option.map_some, List.nil_append] at stepped
      cases stepped
      exact ⟨_, rfl, rfl⟩
  | attached => cases stepped

/-- What a snapshot is made for does not look at the snapshots. -/
def Purpose (manifests : List ScanResumeState) (scanState : Nat) (working published : Facts Entry Event) :
    AfterCapture → Prop
  | .baseline => SameRows working published
  | .save saved after => Continues manifests scanState saved after

theorem atCapturing_iff {store : Store Entry Event} {ledger : Ledger Entry Event} {token : Nat}
    {base events : Clone} {next : AfterCapture} :
    AtSession store ledger (.capturing token base events next) ↔
      Captured store token base events ∧
        Purpose store.manifests store.scanState store.working ledger.published next := by
  cases next <;> exact Iff.rfl

theorem clone_inv {state next : State Entry Event} {events : Bool} (inv : Inv state)
    (stepped : state.step digest (.clone events) = some next) : Inv next := by
  obtain ⟨durable, session⟩ := inv
  simp only [State.step] at stepped
  split at stepped
  next token base clonedEvents after here =>
      rw [here, atCapturing_iff] at session
      obtain ⟨⟨used, unnamed, clonedBase, clonedEvent⟩, purpose⟩ := session
      have others : ∀ saved, loadResumeState state.store.manifests = some saved → saved.active = true →
          ∀ other, other = saved.checkpointSnapshot ∨ other = saved.baselineSnapshot → other ≠ token := by
        intro saved loaded active other named same
        have := unnamed saved loaded active
        omega
      cases events with
      | true =>
          simp only [if_true] at stepped
          obtain ⟨⟨store, reached⟩, cloned, rfl⟩ := Option.map_eq_some_iff.mp stepped
          obtain ⟨rows, rfl, done⟩ := cloneEvents_spec clonedEvent cloned
          refine ⟨durable.cuts (Nat.le_refl _) fun saved loaded active other named =>
            ⟨rfl, Function.update_of_ne (others saved loaded active other named) ..⟩, ?_⟩
          exact atCapturing_iff.mpr ⟨⟨used, unnamed, clonedBase, by simpa using done⟩, purpose⟩
      | false =>
          simp only [Bool.false_eq_true, if_false] at stepped
          obtain ⟨⟨store, reached⟩, cloned, rfl⟩ := Option.map_eq_some_iff.mp stepped
          obtain ⟨rows, rfl, done⟩ := cloneBase_spec clonedBase cloned
          refine ⟨durable.cuts (Nat.le_refl _) fun saved loaded active other named =>
            ⟨Function.update_of_ne (others saved loaded active other named) .., rfl⟩, ?_⟩
          exact atCapturing_iff.mpr ⟨⟨used, unnamed, by simpa using done, clonedEvent⟩, purpose⟩
  next => cases stepped

/-- Both tables are copied: the snapshot shows the working tables. -/
theorem captured_inv {state next : State Entry Event} {token : Nat} {after : AfterCapture} (inv : Inv state)
    (here : state.session = .capturing token .attached .attached after)
    (stepped : state.statement = some next) : Inv next := by
  obtain ⟨durable, session⟩ := inv
  rw [here, atCapturing_iff] at session
  obtain ⟨⟨used, -, base, events⟩, purpose⟩ := session
  have shows_ : Shows state.store token state.store.working := ⟨used, base, events⟩
  have ledgerOnly : Durable state.store { state.ledger with captured := state.store.working } :=
    ⟨durable.scanState, durable.settled, fun saved loaded active =>
      let kept := durable.kept saved loaded active
      ⟨kept.checkpoint, kept.baseline, kept.generation, kept.place⟩⟩
  simp only [State.statement, here] at stepped
  cases after with
  | baseline =>
      cases stepped
      exact ⟨ledgerOnly, shows_, rfl, purpose⟩
  | save saved following =>
      cases stepped
      refine ⟨ledgerOnly, ?_⟩
      obtain ⟨⟨old, open_, version, generation, baseline⟩, ⟨rfl, active⟩ | ⟨rfl, finalizing⟩⟩ := purpose
      · exact ⟨⟨⟨old, open_, version, generation, baseline⟩, Or.inl ⟨rfl, active⟩⟩, shows_⟩
      · exact ⟨⟨⟨old, open_, version, generation, baseline⟩, Or.inr ⟨rfl, finalizing⟩⟩, shows_⟩

theorem beginning_inv {state next : State Entry Event} {baseline : Nat} (inv : Inv state)
    (here : state.session = .beginning baseline) (stepped : state.statement = some next) : Inv next := by
  obtain ⟨durable, session⟩ := inv
  rw [here] at session
  obtain ⟨shows_, same, rows⟩ := session
  simp only [State.statement, here, State.begin] at stepped
  cases loaded : loadResumeState state.store.manifests with
  | none =>
      simp only [loaded, Option.some.injEq] at stepped
      subst stepped
      exact ⟨durable, fun old other => by simp [loaded] at other, shows_, rows⟩
  | some old =>
      simp only [loaded] at stepped
      cases active : old.active with
      | false =>
          simp only [active, Bool.false_eq_true, if_false, Option.some.injEq] at stepped
          subst stepped
          refine ⟨durable, fun other reloaded => ?_, shows_, rows⟩
          cases Option.some.inj (loaded.symm.trans reloaded)
          exact active
      | true =>
          simp only [active, if_true] at stepped
          obtain ⟨abandoned, advanced, rfl⟩ := Option.map_eq_some_iff.mp stepped
          have shape := ScanResumeState.advance_eq advanced
          have reload : loadResumeState (state.store.manifests ++ [abandoned]) = some abandoned :=
            load_concat (above_of_load loaded (by rw [shape]))
          have inactive : ∀ saved, loadResumeState (state.store.manifests ++ [abandoned]) = some saved →
              saved.active = false := fun saved other => by
            cases Option.some.inj (reload.symm.trans other)
            rw [shape]
            rfl
          refine ⟨⟨durable.scanState, fun _ => ?_, fun saved other active => ?_⟩, inactive, ?_, rows⟩
          · show SameRows state.store.working state.ledger.published
            rw [same]
            exact rows
          · have := inactive saved other
            rw [active] at this
            cases this
          · exact ⟨shows_.used, shows_.base, shows_.events⟩

theorem rebasing_inv {state next : State Entry Event} {baseline : Nat} (inv : Inv state)
    (here : state.session = .rebasing baseline) (stepped : state.statement = some next) : Inv next := by
  obtain ⟨durable, session⟩ := inv
  rw [here] at session
  obtain ⟨inactive, shows_, rows⟩ := session
  simp only [State.statement, here, State.rebase] at stepped
  obtain ⟨fresh, advanced, rfl⟩ := Option.map_eq_some_iff.mp stepped
  have shape := ScanResumeState.advance_eq advanced
  refine ⟨⟨durable.scanState, fun settled => ?_, fun saved loaded active => ?_⟩, inactive, ?_, ?_, ?_, ?_, ?_,
    rows⟩
  · obtain ⟨base, events⟩ := durable.settled settled
    refine ⟨Eq.trans ?_ base, events⟩
    simp only [Store.rebaseUncommittedGeneration, List.map_map]
    refine List.map_congr_left fun row _ => ?_
    simp only [Function.comp_apply]
    split <;> rfl
  · have := inactive saved loaded
    rw [active] at this
    cases this
  · intro row member
    rw [shape]
    cases loaded : loadResumeState state.store.manifests with
    | none =>
        have member : row ∈ state.store.manifests := member
        rw [load_none loaded] at member
        cases member
    | some old =>
        have := version_le_of_load loaded row member
        simp only [Store.rebaseUncommittedGeneration, loaded, Option.map_some, Option.getD_some]
        omega
  · rw [shape]
  · have := durable.scanState
    rw [shape]
    simp only [Store.rebaseUncommittedGeneration]
    omega
  · rw [shape]
  · rw [shape]
    exact ⟨shows_.used, shows_.base, shows_.events⟩

/-- What a saved state makes of the ledger. -/
def ledgerAfterSave (state : State Entry Event) (saved : ScanResumeState) (next : AfterSave) :
    Ledger Entry Event :=
  if next = AfterSave.begun then
    { state.ledger with begun := state.ledger.captured, confirmed := state.ledger.captured }
  else if saved.active then { state.ledger with confirmed := state.store.working }
  else state.ledger

/-- The state is saved, and the session goes on with or without a cleanup. -/
theorem save_cases {state : State Entry Event} {saved : ScanResumeState} {cleanup : Bool} {next : AfterSave}
    (loaded : loadResumeState (state.store.manifests ++ [saved]) = some saved)
    (durable : Durable { state.store with manifests := state.store.manifests ++ [saved] }
      (ledgerAfterSave state saved next))
    (onward : Onward { state.store with manifests := state.store.manifests ++ [saved] }
      (ledgerAfterSave state saved next) saved next) :
    Inv (state.save saved cleanup next) := by
  unfold State.save
  cases cleanup with
  | false =>
      let written := { state.store with manifests := state.store.manifests ++ [saved] }
      have saving : Inv (State.goOn ⟨written, state.session, ledgerAfterSave state saved next,
        state.requestKey⟩ saved next) :=
        goOn_inv durable onward
      exact saving
  | true =>
      refine ⟨durable, loaded, onward, fun active table member => ?_⟩
      simp only [active, if_true, Store.unreferenced, List.mem_flatMap, List.mem_filter] at member
      obtain ⟨token, ⟨-, kept⟩, here⟩ := member
      have named : table.1 = token := by
        rcases List.mem_append.mp here with here | here <;> split at here <;> simp_all
      simp only [List.mem_cons, List.not_mem_nil, or_false, not_or, decide_eq_true_eq] at kept
      rw [named]
      exact ⟨kept.2, kept.1⟩

/-- The next state of the open round is saved: it confirms the working tables. -/
theorem continues_save {state : State Entry Event} {saved : ScanResumeState} {cleanup : Bool}
    {next : AfterSave} (durable : Durable state.store state.ledger)
    (continues : Continues state.store.manifests state.store.scanState saved next)
    (shows_ : Shows state.store saved.checkpointSnapshot state.store.working) :
    Inv (state.save saved cleanup next) := by
  obtain ⟨⟨old, open_, version, generation, baseline⟩, here⟩ := continues
  have kept := open_.kept durable
  have loaded := load_concat (above_of_load open_.loaded version)
  have active : saved.active = true := by
    rcases here with ⟨-, active⟩ | ⟨-, finalizing⟩
    · exact active
    · exact ScanResumeState.active_iff.mpr (Or.inr finalizing)
  have open' : UnderWay (state.store.manifests ++ [saved]) state.store.scanState saved :=
    ⟨loaded, active, by rw [generation]; exact open_.uncommitted⟩
  have notBegun : next ≠ .begun := by
    rcases here with ⟨rfl, -⟩ | ⟨rfl, -⟩ <;> intro same <;> cases same
  have ledger : ledgerAfterSave state saved next = { state.ledger with confirmed := state.store.working } := by
    rw [ledgerAfterSave, if_neg notBegun, if_pos active]
  apply save_cases loaded
  · rw [ledger]
    refine ⟨durable.scanState, fun settled => ?_, fun other reloaded _ => ?_⟩
    · have := settled saved loaded
      rw [active] at this
      cases this
    · cases Option.some.inj (loaded.symm.trans reloaded)
      refine ⟨⟨shows_.used, shows_.base, shows_.events⟩, ?_, ?_, Or.inl ⟨open'.uncommitted, ?_⟩⟩
      · rw [baseline]
        exact ⟨kept.baseline.used, kept.baseline.base, kept.baseline.events⟩
      · rw [generation]
        exact kept.generation
      · have := open_.uncommitted
        have := kept.generation
        rcases kept.place with place | place
        · exact place.2
        · omega
  · rw [ledger]
    rcases here with ⟨rfl, -⟩ | ⟨rfl, finalizing⟩
    · exact ⟨open', rfl⟩
    · exact ⟨open', finalizing, rfl⟩

/-- The first state of a round is saved: the baseline is all there is to fall back to. -/
theorem begins_save {state : State Entry Event} {saved : ScanResumeState} {cleanup : Bool}
    (durable : Durable state.store state.ledger) (begins : Begins state.store state.ledger saved) :
    Inv (state.save saved cleanup .begun) := by
  obtain ⟨inactive, above, running, ⟨small, generation⟩, snapshots, shows_, rows⟩ := begins
  have loaded := load_concat above
  have active : saved.active = true := ScanResumeState.active_iff.mpr (Or.inl running)
  apply save_cases loaded
  · refine ⟨durable.scanState, fun settled => ?_, fun other reloaded _ => ?_⟩
    · have := settled saved loaded
      rw [active] at this
      cases this
    · cases Option.some.inj (loaded.symm.trans reloaded)
      refine ⟨?_, ⟨shows_.used, shows_.base, shows_.events⟩, small, Or.inl ⟨generation, rows⟩⟩
      rw [snapshots]
      exact ⟨shows_.used, shows_.base, shows_.events⟩
  · exact ⟨⟨loaded, active, generation⟩, running⟩

/-- The last state of a committed round is saved. -/
theorem completes_save {state : State Entry Event} {saved : ScanResumeState} {cleanup : Bool}
    {next : AfterSave} (closing : next = .baseline ∨ next = .done) (durable : Durable state.store state.ledger)
    (completes : Completes state.store state.ledger saved) : Inv (state.save saved cleanup next) := by
  obtain ⟨above, completed, published⟩ := completes
  have loaded := load_concat above
  have inactive : saved.active = false := by simp [ScanResumeState.active, completed]
  have rows : SameRows state.store.working state.ledger.published := by
    rw [published]
    exact ⟨rfl, rfl⟩
  have ledger : ledgerAfterSave state saved next = state.ledger := by
    have notBegun : next ≠ .begun := by
      rcases closing with rfl | rfl <;> intro same <;> cases same
    rw [ledgerAfterSave, if_neg notBegun, inactive]
    rfl
  apply save_cases loaded
  · rw [ledger]
    refine ⟨durable.scanState, fun _ => rows, fun other reloaded active => ?_⟩
    cases Option.some.inj (loaded.symm.trans reloaded)
    rw [inactive] at active
    cases active
  · rw [ledger]
    rcases closing with rfl | rfl
    · exact rows
    · trivial

theorem saving_inv {state next : State Entry Event} {saved : ScanResumeState} {cleanup : Bool}
    {after : AfterSave} (inv : Inv state) (here : state.session = .saving saved cleanup after)
    (stepped : state.statement = some next) : Inv next := by
  obtain ⟨durable, session⟩ := inv
  rw [here] at session
  simp only [State.statement, here, Option.some.injEq] at stepped
  subst stepped
  cases after with
  | begun => exact begins_save durable session
  | round matching => exact continues_save durable session.1 session.2
  | commit => exact continues_save durable session.1 session.2
  | baseline => exact completes_save (Or.inl rfl) durable session
  | done => exact completes_save (Or.inr rfl) durable session

theorem committing_inv {state next : State Entry Event} {saved : ScanResumeState} (inv : Inv state)
    (here : state.session = .committing saved) (stepped : state.statement = some next) : Inv next := by
  obtain ⟨durable, session⟩ := inv
  rw [here] at session
  obtain ⟨open_, finalizing, -⟩ := session
  have kept := open_.kept durable
  simp only [State.statement, here, State.commit] at stepped
  obtain ⟨completed, advanced, rfl⟩ := Option.map_eq_some_iff.mp stepped
  have shape := ScanResumeState.advance_eq advanced
  refine ⟨⟨kept.generation, fun settled => ?_, fun other reloaded _ => ?_⟩, ?_⟩
  · have := settled saved open_.loaded
    rw [open_.active] at this
    cases this
  · cases Option.some.inj (open_.loaded.symm.trans reloaded)
    exact ⟨⟨kept.checkpoint.used, kept.checkpoint.base, kept.checkpoint.events⟩,
      ⟨kept.baseline.used, kept.baseline.base, kept.baseline.events⟩, kept.generation,
      Or.inr ⟨rfl, finalizing, rfl⟩⟩
  · refine ⟨above_of_load open_.loaded ?_, ?_, rfl⟩ <;> rw [shape]

theorem statement_inv {state next : State Entry Event} (inv : Inv state)
    (stepped : state.statement = some next) : Inv next := by
  cases here : state.session with
  | restoring token statements after => exact restoring_inv inv here stepped
  | capturing token base events after =>
      cases base <;> cases events <;> first
        | exact captured_inv inv here stepped
        | simp [State.statement, here] at stepped
  | beginning baseline => exact beginning_inv inv here stepped
  | rebasing baseline => exact rebasing_inv inv here stepped
  | saving saved cleanup after => exact saving_inv inv here stepped
  | committing saved => exact committing_inv inv here stepped
  | closed => simp [State.statement, here] at stepped
  | cleaning saved tables after => simp [State.statement, here] at stepped
  | round saved matching => simp [State.statement, here] at stepped

/-! ### Every action -/

theorem drop_inv {state next : State Entry Event} {table : Nat × Bool} (inv : Inv state)
    (stepped : state.step digest (.drop table) = some next) : Inv next := by
  obtain ⟨durable, session⟩ := inv
  simp only [State.step] at stepped
  split at stepped
  next saved tables after here =>
      rw [here] at session
      obtain ⟨loaded, onward, kept⟩ := session
      split at stepped
      next member =>
          cases stepped
          have others : saved.active = true → ∀ token,
              token = saved.checkpointSnapshot ∨ token = saved.baselineSnapshot → token ≠ table.1 := by
            intro active token named same
            have := kept active table member
            omega
          have spared : saved.active = true → ∀ other ∈ tables.erase table,
              other.1 ≠ saved.checkpointSnapshot ∧ other.1 ≠ saved.baselineSnapshot :=
            fun active other still => kept active other (List.mem_of_mem_erase still)
          unfold Store.dropTable
          split
          next =>
              refine ⟨durable.cuts (Nat.le_refl _) fun other reloaded active token named => ?_,
                loaded, ?_, spared⟩
              · cases Option.some.inj (loaded.symm.trans reloaded)
                exact ⟨rfl, Function.update_of_ne (others active token named) ..⟩
              · cases after <;> exact onward
          next =>
              refine ⟨durable.cuts (Nat.le_refl _) fun other reloaded active token named => ?_,
                loaded, ?_, spared⟩
              · cases Option.some.inj (loaded.symm.trans reloaded)
                exact ⟨Function.update_of_ne (others active token named) .., rfl⟩
              · cases after <;> exact onward
      next => cases stepped
  next => cases stepped

/-- The next state is saved with a new snapshot, or with the old one if that still shows the
tables. -/
theorem sealState_inv {state : State Entry Event} {old saved : ScanResumeState} {matching : Bool}
    {next : AfterSave} (durable : Durable state.store state.ledger)
    (open_ : UnderWay state.store.manifests state.store.scanState old)
    (shape : saved.version = old.version + 1 ∧ saved.generation = old.generation ∧
      saved.baselineSnapshot = old.baselineSnapshot ∧ saved.checkpointSnapshot = old.checkpointSnapshot)
    (following : (next = .round true ∧ saved.active = true) ∨ (next = .commit ∧ saved.phase = .finalizing))
    (current : matching = true → state.store.working = state.ledger.confirmed) :
    Inv (state.sealState saved matching next) := by
  obtain ⟨version, generation, baseline, checkpoint⟩ := shape
  have continues : Continues state.store.manifests state.store.scanState saved next :=
    ⟨⟨old, open_, version, generation, baseline⟩, following⟩
  unfold State.sealState
  cases matching with
  | false => exact capture_inv durable continues
  | true =>
      have shows_ : Shows state.store saved.checkpointSnapshot state.store.working := by
        rw [checkpoint, current rfl]
        exact (open_.kept durable).checkpoint
      refine ⟨durable, ?_⟩
      rcases following with ⟨rfl, active⟩ | ⟨rfl, finalizing⟩
      · exact ⟨continues, shows_⟩
      · exact ⟨continues, shows_⟩

theorem round_inv {state next : State Entry Event} {action : Action Entry Event} {saved : ScanResumeState}
    {matching : Bool} (inv : Inv state) (here : state.session = .round saved matching)
    (stepped : state.step digest action = some next) : Inv next := by
  obtain ⟨durable, session⟩ := inv
  rw [here] at session
  obtain ⟨open_, current, finalized⟩ := session
  have still := open_.active
  cases action with
  | start request resume => simp [State.step, here] at stepped
  | crash =>
      cases stepped
      exact ⟨durable, trivial⟩
  | statement => simp [State.step, State.statement, here] at stepped
  | clone events => simp [State.step, here] at stepped
  | recapture => simp [State.step, here] at stepped
  | drop table => simp [State.step, here] at stepped
  | keepRest => simp [State.step, here] at stepped
  | write facts =>
      simp only [State.step, here] at stepped
      split at stepped
      next allowed =>
          cases stepped
          refine ⟨durable.write open_ facts, open_, (absurd · Bool.false_ne_true), fun finalizing full => ?_⟩
          simp_all
      next => cases stepped
  | checkpoint cursor observedEntries statistics =>
      simp only [State.step, here] at stepped
      split at stepped
      next running =>
          obtain ⟨later, advanced, rfl⟩ := Option.map_eq_some_iff.mp stepped
          have shape := ScanResumeState.advance_eq advanced
          refine sealState_inv durable open_ ?_ (Or.inl ⟨rfl, ?_⟩) current
          · rw [shape]
            exact ⟨rfl, rfl, rfl, rfl⟩
          · rw [shape]
            exact still
      next => cases stepped
  | sourceEnd observedEntries statistics =>
      simp only [State.step, here] at stepped
      split at stepped
      next running =>
          obtain ⟨later, advanced, rfl⟩ := Option.map_eq_some_iff.mp stepped
          have shape := ScanResumeState.advance_eq advanced
          refine sealState_inv durable open_ ?_ (Or.inl ⟨rfl, ?_⟩) current
          · rw [shape]
            exact ⟨rfl, rfl, rfl, rfl⟩
          · rw [shape]
            rfl
      next => cases stepped
  | rewind =>
      simp only [State.step, here] at stepped
      split at stepped
      next running =>
          cases stepped
          exact ⟨durable, open_, rfl, trivial⟩
      next => cases stepped
  | finish statistics =>
      simp only [State.step, here] at stepped
      split at stepped
      next finalizing =>
          obtain ⟨later, advanced, rfl⟩ := Option.map_eq_some_iff.mp stepped
          have shape := ScanResumeState.advance_eq advanced
          refine sealState_inv durable open_ ?_ (Or.inr ⟨rfl, ?_⟩) fun full => finalized ?_ ?_
          · rw [shape]
            exact ⟨rfl, rfl, rfl, rfl⟩
          · rw [shape]
            exact finalizing
          · rw [finalizing]
            intro same
            cases same
          · rw [shape] at full
            simpa using full
      next => cases stepped

theorem step_inv {state next : State Entry Event} {action : Action Entry Event} (inv : Inv state)
    (stepped : (machine digest).step state action = some next) : Inv next := by
  have stepped : state.step digest action = some next := stepped
  cases here : state.session with
  | round saved matching => exact round_inv inv here stepped
  | _ =>
      cases action with
      | start request resume =>
          by_cases closed : state.session = .closed
          · simp only [State.step, if_pos closed] at stepped
            exact @openJob_inv _ _ { state with requestKey := request.requestKey digest resume } _ _ inv.durable stepped
          · simp only [State.step, if_neg closed] at stepped
            cases stepped
      | crash =>
          cases stepped
          exact ⟨inv.durable, trivial⟩
      | statement => exact statement_inv inv stepped
      | clone events => exact clone_inv inv stepped
      | drop table => exact drop_inv inv stepped
      | recapture =>
          simp only [State.step] at stepped
          split at stepped
          next token base events after at_ =>
              cases stepped
              have session := inv.session
              rw [at_, atCapturing_iff] at session
              cases after with
              | baseline => exact capture_inv inv.durable session.2
              | save saved following => exact capture_inv inv.durable session.2
          next => cases stepped
      | keepRest =>
          simp only [State.step] at stepped
          split at stepped
          next saved tables after at_ =>
              cases stepped
              have session := inv.session
              rw [at_] at session
              exact goOn_inv inv.durable session.2.1
          next => cases stepped
      | write facts => simp [State.step, here] at stepped
      | checkpoint cursor observedEntries statistics => simp [State.step, here] at stepped
      | sourceEnd observedEntries statistics => simp [State.step, here] at stepped
      | rewind => simp [State.step, here] at stepped
      | finish statistics => simp [State.step, here] at stepped

theorem initial_inv : Inv (initial : State Entry Event) :=
  ⟨⟨Nat.zero_le _, fun _ => ⟨rfl, rfl⟩, fun _ loaded _ => by cases loaded⟩, trivial⟩

theorem reachable_inv {actions : List (Action Entry Event)} {state : State Entry Event}
    (run : (machine digest).exec initial actions = some state) : Inv state :=
  Lib.Machine.exec_invariant step_inv initial_inv run

end Terrasync.Scan.Cuts
