import Terrasync.Scan.ScanCutsProperties

/-! What the durable checkpoints give a scan: a resumed scan goes on from exactly what was
confirmed, a restarted one first puts back what was there before the round, and a committed round
is never lost. -/

set_option autoImplicit false

namespace Terrasync.Scan.Cuts

variable {Entry Event : Type} {digest : RequestFields → List Char}

/-! ### Snapshots -/

/-- Whatever happened, and wherever the last session is or stopped: both snapshots of an active
saved state are complete. One shows what was confirmed with it, the other what was there when its
round began. -/
theorem snapshots_kept {actions : List (Action Entry Event)} {state : State Entry Event}
    {saved : ScanResumeState} (run : (machine digest).exec initial actions = some state)
    (loaded : loadResumeState state.store.manifests = some saved) (active : saved.active = true) :
    Shows state.store saved.checkpointSnapshot state.ledger.confirmed ∧
      Shows state.store saved.baselineSnapshot state.ledger.begun :=
  have kept := (reachable_inv run).durable.kept saved loaded active
  ⟨kept.checkpoint, kept.baseline⟩

/-- Both tables are copied into the snapshot. -/
def cloneBoth : List (Action Entry Event) := [.clone false, .clone true, .clone true, .clone false]

def sampleRequest : ScanRequest := ⟨"local", "disk", 0, none, none, false⟩

def sampleStatistics : Option StatisticsCheckpoint := some ⟨.new, []⟩

def sampleDigest : RequestFields → List Char :=
  fun (_, kind, identity, _, _, _, _, resume) =>
    kind.toList ++ identity.toList ++ (if resume then ['r'] else ['s'])

/-- A round begins, two batches are written and confirmed, a third is only written. The cleanup
behind the second checkpoint is broken off. -/
def firstRound : List (Action Nat Nat) :=
  List.flatten [[.start sampleRequest true], cloneBoth, List.replicate 4 .statement,
    [.keepRest, .write ⟨[⟨7, 1⟩], [70]⟩, .checkpoint [5] 1 sampleStatistics], cloneBoth,
    [.statement, .statement, .keepRest, .write ⟨[⟨7, 1⟩, ⟨8, 1⟩], [70, 80]⟩,
      .checkpoint [6] 2 sampleStatistics], cloneBoth,
    [.statement, .statement, .drop (1, true), .keepRest, .write ⟨[⟨9, 1⟩], [90]⟩]]

/-- The process dies, a second session goes on and confirms one more batch. -/
def secondSession : List (Action Nat Nat) :=
  List.flatten [firstRound, [.crash, .start sampleRequest true], List.replicate 5 .statement,
    [.write ⟨[⟨7, 1⟩, ⟨8, 1⟩, ⟨9, 1⟩], [70, 80, 90]⟩, .checkpoint [7] 3 sampleStatistics], cloneBoth,
    [.statement, .statement, .drop (2, false), .keepRest, .write ⟨[⟨4, 1⟩], []⟩]]

theorem snapshots_kept_secondSession : ∃ (state : State Nat Nat) (saved : ScanResumeState),
    (machine sampleDigest).exec initial secondSession = some state ∧ saved.checkpointSnapshot = 3 ∧
      Shows state.store saved.checkpointSnapshot ⟨[⟨7, 1⟩, ⟨8, 1⟩, ⟨9, 1⟩], [70, 80, 90]⟩ ∧
        Shows state.store saved.baselineSnapshot ⟨[], []⟩ := by
  obtain ⟨state, saved, run, loaded, active, token, confirmed, begun⟩ :
      ∃ (state : State Nat Nat) (saved : ScanResumeState),
        (machine sampleDigest).exec initial secondSession = some state ∧
          loadResumeState state.store.manifests = some saved ∧ saved.active = true ∧
            saved.checkpointSnapshot = 3 ∧
              state.ledger.confirmed = ⟨[⟨7, 1⟩, ⟨8, 1⟩, ⟨9, 1⟩], [70, 80, 90]⟩ ∧
                state.ledger.begun = ⟨[], []⟩ :=
    ⟨_, _, rfl, rfl, rfl, rfl, rfl, rfl⟩
  have kept := snapshots_kept run loaded active
  rw [confirmed, begun] at kept
  exact ⟨state, saved, run, token, kept⟩

/-! ### Restoring -/

/-- The statements of `restore` but the last, when the snapshot is there. -/
theorem restore_statements {store : Store Entry Event} {token : Nat} {facts : Facts Entry Event}
    (shows_ : Shows store token facts) (next : AfterRestore) (ledger : Ledger Entry Event) (key : List Char) :
    (machine digest).exec ⟨store, .restoring token 0 next, ledger, key⟩ (List.replicate 4 .statement) =
      some ⟨{ store with working := ⟨facts.base, []⟩ }, .restoring token 4 next, ledger, key⟩ := by
  have first : store.restoreStatement token 0 = some store := by
    simp [Store.restoreStatement, shows_.base, shows_.events]
  simp [List.replicate, Lib.Machine.exec, machine, State.step, State.statement, first]
  simp [Store.restoreStatement, shows_.base]

theorem restore_filled {store : Store Entry Event} {token : Nat} {facts : Facts Entry Event}
    (shows_ : Shows store token facts) :
    Store.restoreStatement { store with working := ⟨facts.base, []⟩ } token 4 =
      some { store with working := facts } := by
  simp [Store.restoreStatement, shows_.events]

/-- The last statement hands the tables to the round. -/
theorem restore_round {store : Store Entry Event} {token : Nat} {facts : Facts Entry Event}
    (shows_ : Shows store token facts) (saved : ScanResumeState) (matching : Bool) (ledger : Ledger Entry Event)
    (key : List Char) :
    (machine digest).exec ⟨{ store with working := ⟨facts.base, []⟩ }, .restoring token 4 (.round saved matching),
        ledger, key⟩ [.statement] =
      some ⟨{ store with working := facts }, .round saved matching, ledger, key⟩ := by
  simp only [Lib.Machine.exec, machine, State.step, State.statement, restore_filled shows_, Option.map_some,
    Option.bind_some, Nat.lt_irrefl, if_false]

/-- Or the tables are the ones a new round begins with. -/
theorem restore_baseline {store : Store Entry Event} {token : Nat} {facts : Facts Entry Event}
    (shows_ : Shows store token facts) (ledger : Ledger Entry Event) (key : List Char) :
    (machine digest).exec ⟨{ store with working := ⟨facts.base, []⟩ }, .restoring token 4 .baseline, ledger, key⟩
        [.statement] =
      some ⟨{ store with working := facts, tokens := store.tokens + 1 },
        .capturing store.tokens .absent .absent .baseline, ledger, key⟩ := by
  simp only [Lib.Machine.exec, machine, State.step, State.statement, restore_filled shows_, Option.map_some,
    Option.bind_some, Nat.lt_irrefl, if_false, State.capture]

/-- A run that starts a session and restores a snapshot. -/
theorem start_restores {state : State Entry Event} {token : Nat} {facts : Facts Entry Event}
    {request : ScanRequest} {resume : Bool} (next : AfterRestore) (shows_ : Shows state.store token facts)
    (opened : State.openJob ⟨state.store, .closed, state.ledger, request.requestKey digest resume⟩ resume =
      some ⟨state.store, .restoring token 0 next, state.ledger, request.requestKey digest resume⟩) :
    (machine digest).exec state (.crash :: .start request resume :: List.replicate 5 .statement) =
      (machine digest).exec ⟨{ state.store with working := ⟨facts.base, []⟩ }, .restoring token 4 next, state.ledger,
        request.requestKey digest resume⟩ [.statement] := by
  have started : (machine digest).exec state [.crash, .start request resume] =
      some ⟨state.store, .restoring token 0 next, state.ledger, request.requestKey digest resume⟩ := by
    simp only [Lib.Machine.exec, machine, State.step, Option.bind_some, if_true, opened]
  have split_ : (.crash :: .start request resume :: List.replicate 5 .statement : List (Action Entry Event)) =
      ([.crash, .start request resume] : List (Action Entry Event)) ++
        (List.replicate 4 (.statement : Action Entry Event) ++ ([.statement] : List (Action Entry Event))) := rfl
  rw [split_, Lib.Machine.exec_append, started, Option.bind_some, Lib.Machine.exec_append]
  rw [restore_statements shows_ next state.ledger, Option.bind_some]

/-! ### Within a round -/

theorem UnderWay.scanState_ne {store : Store Entry Event} {ledger : Ledger Entry Event} {saved : ScanResumeState}
    (durable : Durable store ledger) (open_ : UnderWay store.manifests store.scanState saved) :
    store.scanState ≠ saved.generation := by
  have := (open_.kept durable).generation
  have := open_.uncommitted
  omega

/-- A round under way stands on its last saved state. -/
theorem underWay_of_round {actions : List (Action Entry Event)} {state : State Entry Event} {saved : ScanResumeState}
    {matching : Bool} (run : (machine digest).exec initial actions = some state)
    (session : state.session = .round saved matching) :
    UnderWay state.store.manifests state.store.scanState saved := by
  have inv := reachable_inv run
  have here := inv.session
  rw [session] at here
  exact here.1

/-- Only the manifest is saved where the snapshot still shows the tables. -/
theorem seal_manifest {state : State Entry Event} {saved : ScanResumeState} (active : saved.active = true) :
    (machine digest).exec (state.sealState saved true (.round true)) [.statement] =
      some ⟨{ state.store with manifests := state.store.manifests ++ [saved] }, .round saved true,
        { state.ledger with confirmed := state.store.working }, state.requestKey⟩ := by
  simp [Lib.Machine.exec, machine, State.step, State.statement, State.sealState, State.save, State.goOn, active]

/-- Both tables are copied into a snapshot of a new token, and the state is saved with it. -/
theorem seal_captured {state : State Entry Event} {saved : ScanResumeState} (active : saved.active = true) :
    (machine digest).exec (state.sealState saved false (.round true))
        (cloneBoth ++ ([.statement, .statement, .keepRest] : List (Action Entry Event))) =
      some ⟨{ state.store with
          baseCuts := Function.update state.store.baseCuts state.store.tokens (some state.store.working.base)
          eventCuts := Function.update state.store.eventCuts state.store.tokens (some state.store.working.events)
          tokens := state.store.tokens + 1
          manifests := state.store.manifests ++ [{ saved with checkpointSnapshot := state.store.tokens }] },
        .round { saved with checkpointSnapshot := state.store.tokens } true,
        { state.ledger with captured := state.store.working, confirmed := state.store.working },
        state.requestKey⟩ := by
  have active' : ScanResumeState.active { saved with checkpointSnapshot := state.store.tokens } = true := active
  simp [cloneBoth, Lib.Machine.exec, machine, State.step, State.statement, State.sealState, State.capture, State.save,
    State.goOn, Store.cloneBase, Store.cloneEvents, active', Function.update_idem]

/-- The tables are set back to the last checkpoint within the round. -/
theorem rewind_restores {state : State Entry Event} {saved : ScanResumeState} {matching : Bool}
    {facts : Facts Entry Event} (shows_ : Shows state.store saved.checkpointSnapshot facts)
    (session : state.session = .round saved matching) (running : saved.phase = .running) :
    (machine digest).exec state (.rewind :: List.replicate 5 .statement) =
      some ⟨{ state.store with working := facts }, .round saved true, state.ledger, state.requestKey⟩ := by
  have rewound : (machine digest).exec state [.rewind] =
      some ⟨state.store, .restoring saved.checkpointSnapshot 0 (.round saved true), state.ledger,
        state.requestKey⟩ := by
    simp [Lib.Machine.exec, machine, State.step, session, running]
  have split_ : (.rewind :: List.replicate 5 .statement : List (Action Entry Event)) =
      ([.rewind] : List (Action Entry Event)) ++
        (List.replicate 4 (.statement : Action Entry Event) ++ ([.statement] : List (Action Entry Event))) := rfl
  rw [split_, Lib.Machine.exec_append, rewound, Option.bind_some, Lib.Machine.exec_append]
  rw [restore_statements shows_ (.round saved true) state.ledger, Option.bind_some]
  exact restore_round shows_ saved true state.ledger _

/-! ### Behind a crash -/

theorem underWay_of_uncommitted {state : State Entry Event} {saved : ScanResumeState} (inv : Inv state)
    (loaded : loadResumeState state.store.manifests = some saved) (active : saved.active = true)
    (uncommitted : state.store.scanState ≠ saved.generation) :
    UnderWay state.store.manifests state.store.scanState saved ∧
      SameRows state.ledger.begun state.ledger.published := by
  rcases (inv.durable.kept saved loaded active).place with place | place
  · exact ⟨⟨loaded, active, place.1⟩, place.2⟩
  · exact absurd place.1 uncommitted

/-- The checkpoint is put back and the round goes on. -/
theorem resume_restores {state : State Entry Event} {saved : ScanResumeState} {request : ScanRequest}
    {facts : Facts Entry Event} (shows_ : Shows state.store saved.checkpointSnapshot facts)
    (loaded : loadResumeState state.store.manifests = some saved) (active : saved.active = true)
    (uncommitted : state.store.scanState ≠ saved.generation)
    (same : saved.requestKey = request.requestKey digest true) :
    (machine digest).exec state (.crash :: .start request true :: List.replicate 5 .statement) =
      some ⟨{ state.store with working := facts }, .round saved false, state.ledger,
        request.requestKey digest true⟩ := by
  rw [start_restores (.round saved false) shows_]
  · exact restore_round shows_ saved false state.ledger _
  · simp [State.openJob, loaded, active, uncommitted, ScanResumeState.validate, same]

/-- An open round of another request is refused. -/
theorem resume_refused {state : State Entry Event} {saved : ScanResumeState} {request : ScanRequest}
    (loaded : loadResumeState state.store.manifests = some saved) (active : saved.active = true)
    (other : saved.requestKey ≠ request.requestKey digest true) :
    (machine digest).exec state [.crash, .start request true] = none := by
  simp [Lib.Machine.exec, machine, State.step, State.openJob, loaded, active, ScanResumeState.validate, other]

/-- So is one that was begun without resumption. -/
theorem resume_refused_unresumed {state : State Entry Event} {saved : ScanResumeState} {first request : ScanRequest}
    (apart : Function.Injective digest) (loaded : loadResumeState state.store.manifests = some saved)
    (active : saved.active = true) (begun : saved.requestKey = first.requestKey digest false) :
    (machine digest).exec state [.crash, .start request true] = none := by
  apply resume_refused loaded active
  rw [begun]
  exact ScanRequest.requestKey_ne apart first request

/-- The tables show what was committed last whenever no uncommitted round is open; and where one
is, a start without resumption, whatever its request, puts back what was committed last before it
does anything else. -/
theorem published_kept {actions : List (Action Entry Event)} {state : State Entry Event}
    (run : (machine digest).exec initial actions = some state) :
    SameRows state.store.working state.ledger.published ∨
      ∃ saved, loadResumeState state.store.manifests = some saved ∧ saved.active = true ∧
        ∀ request : ScanRequest, ∃ restored,
          (machine digest).exec state (.crash :: .start request false :: List.replicate 5 .statement) =
            some restored ∧
          SameRows restored.store.working state.ledger.published ∧
            restored.session = .capturing state.store.tokens .absent .absent .baseline := by
  have inv := reachable_inv run
  by_cases settled : ∀ saved, loadResumeState state.store.manifests = some saved → saved.active = false
  · exact Or.inl (inv.durable.settled settled)
  · obtain ⟨saved, loaded, active⟩ :
        ∃ saved, loadResumeState state.store.manifests = some saved ∧ saved.active = true := by
      simpa using settled
    by_cases committed : state.store.scanState = saved.generation
    · have kept := inv.durable.kept saved loaded active
      have := kept.generation
      rcases kept.place with place | place
      · omega
      · refine Or.inl ?_
        rw [place.2.2]
        exact ⟨rfl, rfl⟩
    · obtain ⟨-, rows⟩ := underWay_of_uncommitted inv loaded active committed
      have shows_ := (inv.durable.kept saved loaded active).baseline
      refine Or.inr ⟨saved, loaded, active, fun request => ?_⟩
      rw [start_restores .baseline shows_ (by simp [State.openJob, loaded, active, committed])]
      exact ⟨_, restore_baseline shows_ state.ledger _, rows, rfl⟩

/-- A full round is committed, and a second one is broken off behind its first batch. -/
def secondRound : List (Action Nat Nat) :=
  List.flatten [[.start sampleRequest true], cloneBoth, List.replicate 4 .statement,
    [.keepRest, .write ⟨[⟨7, 1⟩], [70]⟩, .sourceEnd 1 sampleStatistics], cloneBoth,
    [.statement, .statement, .keepRest, .finish sampleStatistics, .statement, .statement, .statement, .keepRest,
      .start sampleRequest false], cloneBoth, List.replicate 4 .statement,
    [.keepRest, .write ⟨[⟨9, 0⟩], [70, 90]⟩]]

theorem published_kept_secondRound : ∃ state : State Nat Nat,
    (machine sampleDigest).exec initial secondRound = some state ∧
      state.store.working = ⟨[⟨9, 0⟩], [70, 90]⟩ ∧
      ∃ restored, (machine sampleDigest).exec state
          (.crash :: .start sampleRequest false :: List.replicate 5 .statement) = some restored ∧
        restored.store.working.base.map BaseRow.entry = [7] ∧ restored.store.working.events = [70] := by
  obtain ⟨state, run, working, published⟩ : ∃ state : State Nat Nat,
      (machine sampleDigest).exec initial secondRound = some state ∧
        state.store.working = ⟨[⟨9, 0⟩], [70, 90]⟩ ∧ state.ledger.published = ⟨[⟨7, 1⟩], [70]⟩ :=
    ⟨_, rfl, rfl, rfl⟩
  refine ⟨state, run, working, ?_⟩
  rcases published_kept run with rows | ⟨_, -, -, restores⟩
  · rw [working, published] at rows
    cases rows.2
  · obtain ⟨restored, again, rows, -⟩ := restores sampleRequest
    rw [published] at rows
    exact ⟨restored, again, rows⟩

end Terrasync.Scan.Cuts
