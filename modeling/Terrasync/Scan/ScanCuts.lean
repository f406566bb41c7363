import Mathlib.Algebra.GroupWithZero.Nat
import Mathlib.Logic.Function.Basic
import Terrasync.Lib.Machine
import Terrasync.Scan.ResumeState

/-! The durable checkpoints of a scan: `scan/checkpoint.rs`, the saving and restoring part of
`scan/mod.rs`, the saved states of `catalogue/scan_resume.rs`, the generations of
`catalogue/generation.rs`, and the order in which `run_persisted` and `run` use them on a single
store. Every step is one statement of the database; a process may die before any of them. -/

set_option autoImplicit false

namespace Terrasync.Scan.Cuts

/-- A row of the base table, with the generation it was written in. -/
structure BaseRow (Entry : Type) where
  entry : Entry
  currentState : Nat
deriving DecidableEq, Repr

/-- The base table and the event table of a job, or what a snapshot holds of them. -/
structure Facts (Entry Event : Type) where
  base : List (BaseRow Entry)
  events : List Event
deriving DecidableEq, Repr

/-- What the database keeps. The tables of a snapshot are found under its token; tokens are
UUIDs, so a new one was never used. -/
structure Store (Entry Event : Type) where
  working : Facts Entry Event
  baseCuts : Nat → Option (List (BaseRow Entry))
  eventCuts : Nat → Option (List Event)
  tokens : Nat
  manifests : List ScanResumeState
  scanState : Nat
  baselineCommitted : Bool

/-- `load_resume_state`: the row of the highest version. -/
def loadResumeState : List ScanResumeState → Option ScanResumeState
  | [] => none
  | row :: rest =>
      match loadResumeState rest with
      | some best => if row.version ≤ best.version then some best else some row
      | none => some row

/-! ### Sessions -/

/-- How far the copy of one table into a snapshot is. -/
inductive Clone where
  | absent
  | created
  | attached
deriving DecidableEq, Repr

/-- What a saved state is for: a new round, the round under way, its commit, the round that
takes the place of a committed one, or the end. -/
inductive AfterSave where
  | begun
  | round (snapshotMatchesFacts : Bool)
  | commit
  | baseline
  | done
deriving DecidableEq, Repr

inductive AfterRestore where
  | round (state : ScanResumeState) (snapshotMatchesFacts : Bool)
  | baseline
deriving DecidableEq, Repr

inductive AfterCapture where
  | baseline
  | save (state : ScanResumeState) (next : AfterSave)
deriving DecidableEq, Repr

/-- Where `run_persisted` is. A table of a snapshot is named by its token and whether it is the
event table. -/
inductive Session where
  | closed
  | restoring (token statements : Nat) (next : AfterRestore)
  | capturing (token : Nat) (base events : Clone) (next : AfterCapture)
  | beginning (baseline : Nat)
  | rebasing (baseline : Nat)
  | saving (state : ScanResumeState) (cleanup : Bool) (next : AfterSave)
  | cleaning (state : ScanResumeState) (tables : List (Nat × Bool)) (next : AfterSave)
  | round (state : ScanResumeState) (snapshotMatchesFacts : Bool)
  | committing (state : ScanResumeState)
deriving DecidableEq, Repr

/-- What the tables held when they were last captured, when the round began, when its state was
last saved, and when a round was last committed. No step reads it. -/
structure Ledger (Entry Event : Type) where
  captured : Facts Entry Event
  begun : Facts Entry Event
  confirmed : Facts Entry Event
  published : Facts Entry Event

/-- `requestKey` is what the session under way was started for. -/
structure State (Entry Event : Type) where
  store : Store Entry Event
  session : Session
  ledger : Ledger Entry Event
  requestKey : List Char

/-- `write` is any change of the working tables by a flush or by the finalisation; what is saved of
the statistics comes with the action. -/
inductive Action (Entry Event : Type) where
  | start (request : ScanRequest) (resume : Bool)
  | crash
  | statement
  | clone (events : Bool)
  | recapture
  | drop (table : Nat × Bool)
  | keepRest
  | write (facts : Facts Entry Event)
  | checkpoint (cursor : List UInt8) (observedEntries : Nat) (statistics : Option StatisticsCheckpoint)
  | sourceEnd (observedEntries : Nat) (statistics : Option StatisticsCheckpoint)
  | rewind
  | finish (statistics : Option StatisticsCheckpoint)

section Steps

variable {Entry Event : Type}

namespace Store

/-- `CREATE TABLE cut AS source`, then `ATTACH PARTITION ALL FROM source`. -/
def cloneBase (store : Store Entry Event) (token : Nat) : Clone → Option (Store Entry Event × Clone)
  | .absent => some ({ store with baseCuts := Function.update store.baseCuts token (some []) }, .created)
  | .created => (store.baseCuts token).map fun rows =>
      ({ store with baseCuts := Function.update store.baseCuts token (some (rows ++ store.working.base)) },
        .attached)
  | .attached => none

def cloneEvents (store : Store Entry Event) (token : Nat) : Clone → Option (Store Entry Event × Clone)
  | .absent => some ({ store with eventCuts := Function.update store.eventCuts token (some []) }, .created)
  | .created => (store.eventCuts token).map fun rows =>
      ({ store with eventCuts := Function.update store.eventCuts token (some (rows ++ store.working.events)) },
        .attached)
  | .attached => none

/-- `system.tables` with the prefix of the job, less those of the kept tokens. -/
def unreferenced (store : Store Entry Event) (keep : List Nat) : List (Nat × Bool) :=
  ((List.range store.tokens).filter fun token => token ∉ keep).flatMap fun token =>
    (if (store.baseCuts token).isSome then [(token, false)] else []) ++
      (if (store.eventCuts token).isSome then [(token, true)] else [])

def dropTable (store : Store Entry Event) (table : Nat × Bool) : Store Entry Event :=
  if table.2 then { store with eventCuts := Function.update store.eventCuts table.1 none }
  else { store with baseCuts := Function.update store.baseCuts table.1 none }

/-- `rebase_uncommitted_generation`. -/
def rebaseUncommittedGeneration (store : Store Entry Event) (committed working : Nat) : Store Entry Event :=
  { store with working := { store.working with
      base := store.working.base.map fun row =>
        if row.currentState = working then { row with currentState := committed } else row } }

/-- The statements of `restore`: both snapshots are there, then each table is emptied and filled. -/
def restoreStatement (store : Store Entry Event) (token : Nat) : Nat → Option (Store Entry Event)
  | 0 => if (store.baseCuts token).isSome && (store.eventCuts token).isSome then some store else none
  | 1 => some { store with working := { store.working with base := [] } }
  | 2 => (store.baseCuts token).map fun rows =>
      { store with working := { store.working with base := store.working.base ++ rows } }
  | 3 => some { store with working := { store.working with events := [] } }
  | 4 => (store.eventCuts token).map fun rows =>
      { store with working := { store.working with events := store.working.events ++ rows } }
  | _ => none

end Store

namespace State

/-- The session of `capture` with a new token. -/
def capture (state : State Entry Event) (next : AfterCapture) : State Entry Event :=
  { state with
    store := { state.store with tokens := state.store.tokens + 1 }
    session := .capturing state.store.tokens .absent .absent next }

/-- Behind `save_resume_state`, and `cleanup_scan_snapshots` if it was called. -/
def goOn (state : State Entry Event) (saved : ScanResumeState) : AfterSave → State Entry Event
  | .begun => { state with session := .round saved false }
  | .round snapshotMatchesFacts => { state with session := .round saved snapshotMatchesFacts }
  | .commit => { state with session := .committing saved }
  | .baseline => state.capture .baseline
  | .done => { state with session := .closed }

/-- The first statements of `run_persisted`. Only a session that resumes validates the key. -/
def openJob (state : State Entry Event) (resume : Bool) : Option (State Entry Event) :=
  match loadResumeState state.store.manifests with
  | none => some (state.capture .baseline)
  | some old =>
      if !old.active then some (state.capture .baseline)
      else if resume && !old.validate state.requestKey then none
      else if state.store.scanState = old.generation then
        if old.phase = .finalizing then
          old.complete.map fun completed =>
            { state with session := .saving completed resume (if resume then .done else .baseline) }
        else if resume then none
        else some { state with session := .restoring old.baselineSnapshot 0 .baseline }
      else if resume then
        some { state with session := .restoring old.checkpointSnapshot 0 (.round old false) }
      else some { state with session := .restoring old.baselineSnapshot 0 .baseline }

/-- The state of the new round, and the abandoned one before it. -/
def begin (state : State Entry Event) (baseline : Nat) : Option (State Entry Event) :=
  match loadResumeState state.store.manifests with
  | some old =>
      if old.active then
        { old with phase := .abandoned, checkpoint := [] }.advance.map fun abandoned =>
          { state with
            store := { state.store with manifests := state.store.manifests ++ [abandoned] }
            session := .rebasing baseline }
      else some { state with session := .rebasing baseline }
  | none => some { state with session := .rebasing baseline }

def rebase (state : State Entry Event) (baseline : Nat) : Option (State Entry Event) :=
  let store := state.store.rebaseUncommittedGeneration state.store.scanState (1 - state.store.scanState)
  let previous := ((loadResumeState store.manifests).map ScanResumeState.version).getD 0
  let fresh : ScanResumeState :=
    { version := previous, requestKey := state.requestKey, generation := 1 - store.scanState
      incremental := store.baselineCommitted, phase := .running, observedEntries := 0, checkpoint := []
      statistics := none, baselineSnapshot := baseline, checkpointSnapshot := baseline }
  fresh.advance.map fun fresh => { state with store, session := .saving fresh true .begun }

/-- The saved state is durable. -/
def save (state : State Entry Event) (saved : ScanResumeState) (cleanup : Bool) (next : AfterSave) :
    State Entry Event :=
  let state := { state with
    store := { state.store with manifests := state.store.manifests ++ [saved] }
    ledger :=
      if next = AfterSave.begun then
        { state.ledger with begun := state.ledger.captured, confirmed := state.ledger.captured }
      else if saved.active then { state.ledger with confirmed := state.store.working }
      else state.ledger }
  if cleanup then
    let keep := if saved.active then [saved.baselineSnapshot, saved.checkpointSnapshot] else []
    { state with session := .cleaning saved (state.store.unreferenced keep) next }
  else state.goOn saved next

def commit (state : State Entry Event) (committed : ScanResumeState) : Option (State Entry Event) :=
  committed.complete.map fun completed =>
    { state with
      store := { state.store with scanState := committed.generation, baselineCommitted := true }
      session := .saving completed true .done
      ledger := { state.ledger with published := state.store.working } }

/-- The next statement of the session. -/
def statement (state : State Entry Event) : Option (State Entry Event) :=
  match state.session with
  | .restoring token statements next =>
      (state.store.restoreStatement token statements).map fun store =>
        let state := { state with store }
        if statements < 4 then { state with session := .restoring token (statements + 1) next }
        else
          match next with
          | .round saved snapshotMatchesFacts => { state with session := .round saved snapshotMatchesFacts }
          | .baseline => state.capture .baseline
  | .capturing token .attached .attached next =>
      let state := { state with ledger := { state.ledger with captured := state.store.working } }
      match next with
      | .baseline => some { state with session := .beginning token }
      | .save saved next =>
          some { state with session := .saving { saved with checkpointSnapshot := token } true next }
  | .beginning baseline => state.begin baseline
  | .rebasing baseline => state.rebase baseline
  | .saving saved cleanup next => some (state.save saved cleanup next)
  | .committing committed => state.commit committed
  | _ => none

/-- `seal_resume_state`, or only the manifest if the snapshot still shows the tables. -/
def sealState (state : State Entry Event) (saved : ScanResumeState) (snapshotMatchesFacts : Bool)
    (next : AfterSave) : State Entry Event :=
  if snapshotMatchesFacts then { state with session := .saving saved false next }
  else state.capture (.save saved next)

def step (digest : RequestFields → List Char) (state : State Entry Event) :
    Action Entry Event → Option (State Entry Event)
  | .start request resume =>
      if state.session = .closed then
        State.openJob { state with requestKey := request.requestKey digest resume } resume
      else none
  | .crash => some { state with session := .closed }
  | .statement => state.statement
  | .clone events =>
      match state.session with
      | .capturing token base clonedEvents next =>
          if events then
            (state.store.cloneEvents token clonedEvents).map fun cloned =>
              { state with store := cloned.1, session := .capturing token base cloned.2 next }
          else
            (state.store.cloneBase token base).map fun cloned =>
              { state with store := cloned.1, session := .capturing token cloned.2 clonedEvents next }
      | _ => none
  | .recapture =>
      match state.session with
      | .capturing _ _ _ next => some (state.capture next)
      | _ => none
  | .drop table =>
      match state.session with
      | .cleaning saved tables next =>
          if table ∈ tables then
            some { state with
              store := state.store.dropTable table
              session := .cleaning saved (tables.erase table) next }
          else none
      | _ => none
  | .keepRest =>
      match state.session with
      | .cleaning saved _ next => some (state.goOn saved next)
      | _ => none
  | .write facts =>
      match state.session with
      | .round saved _ =>
          if saved.phase = .running || saved.incremental then
            some { state with store := { state.store with working := facts }, session := .round saved false }
          else none
      | _ => none
  | .checkpoint cursor observedEntries statistics =>
      match state.session with
      | .round saved snapshotMatchesFacts =>
          if saved.phase = .running then
            { saved with checkpoint := cursor, observedEntries, statistics }.advance.map fun saved =>
              state.sealState saved snapshotMatchesFacts (.round true)
          else none
      | _ => none
  | .sourceEnd observedEntries statistics =>
      match state.session with
      | .round saved snapshotMatchesFacts =>
          if saved.phase = .running then
            { saved with phase := .finalizing, observedEntries, statistics }.advance.map fun saved =>
              state.sealState saved snapshotMatchesFacts (.round true)
          else none
      | _ => none
  | .rewind =>
      match state.session with
      | .round saved _ =>
          if saved.phase = .running then
            some { state with session := .restoring saved.checkpointSnapshot 0 (.round saved true) }
          else none
      | _ => none
  | .finish statistics =>
      match state.session with
      | .round saved _ =>
          if saved.phase = .finalizing then
            { saved with statistics }.advance.map fun saved => state.sealState saved (!saved.incremental) .commit
          else none
      | _ => none

end State

def machine (digest : RequestFields → List Char) : Lib.Machine (State Entry Event) (Action Entry Event) :=
  ⟨State.step digest⟩

/-- A job that was never scanned. -/
def initial : State Entry Event where
  store := ⟨⟨[], []⟩, fun _ => none, fun _ => none, 0, [], 0, false⟩
  session := .closed
  ledger := ⟨⟨[], []⟩, ⟨[], []⟩, ⟨[], []⟩, ⟨[], []⟩⟩
  requestKey := []

end Steps

end Terrasync.Scan.Cuts
