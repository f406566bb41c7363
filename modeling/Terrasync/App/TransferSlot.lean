import Terrasync.App.ReceiverProperties

/-! The transfer slot of a receiver session under any order of its handlers: who may hold
it, and that the end of a file gives it back. -/

set_option autoImplicit false

namespace Terrasync.App

open SyncDelta (Bytes)
open Transport

/-- The calls of the receive loop that touch the slot or the terminated indices. -/
inductive SessionCall where
  | beginFull (ndx : Ndx) (entry : ObservedItem)
  | acceptFullChunk (ndx : Ndx) (chunk : DataChunk)
  | pushDeltaMatch (ndx : Ndx) (entry : ObservedEntry) (blockIndex : UInt32)
  | acceptDeltaData (ndx : Ndx) (entry : ObservedEntry) (data : Bytes)
  | endOfFile (ndx : Ndx) (entry : ObservedEntry) (sourceHash : Option SourceHash)
  | handleSourceFailure (ndx : Option Ndx)
  | handleFileOutcome (ndx : Ndx) (outcome : FileOutcome)

namespace RemoteSessionState

/-- The two commits as `EndOfFile` dispatches them. -/
def endOfFile (session : RemoteSessionState) (ndx : Ndx) (entry : ObservedEntry)
    (sourceHash : Option SourceHash) : RemoteSessionState :=
  let full := session.commitFull ndx entry sourceHash
  if full.value then full.session else (session.commitDelta ndx entry sourceHash).session

def call (session : RemoteSessionState) : SessionCall → RemoteSessionState
  | .beginFull ndx entry => (session.beginFull ndx entry).session
  | .acceptFullChunk ndx chunk => (session.acceptFullChunk ndx chunk).session
  | .pushDeltaMatch ndx entry blockIndex => (session.pushDeltaMatch ndx entry blockIndex).session
  | .acceptDeltaData ndx entry data => (session.acceptDeltaData ndx entry data).session
  | .endOfFile ndx entry sourceHash => session.endOfFile ndx entry sourceHash
  | .handleSourceFailure ndx => (session.handleSourceFailure ndx).session
  | .handleFileOutcome ndx outcome => (session.handleFileOutcome ndx outcome).session

def callMachine : Lib.Machine RemoteSessionState SessionCall :=
  ⟨fun session call => some (session.call call)⟩

/-- The dispatch of an `EndOfFile` is that of the receive loop. -/
theorem handleEndOfFile_session {session : RemoteSessionState} {ndx : Ndx} {item : ObservedItem}
    {sourceHash : Option SourceHash} (indexed : session.indexedEntry ndx = some item) :
    (session.handleEndOfFile ndx sourceHash).session = session.endOfFile ndx item.entry sourceHash := by
  simp only [handleEndOfFile, indexed, endOfFile]
  split <;> rfl

/-- No terminated index holds the slot. -/
def SlotLive (session : RemoteSessionState) : Prop :=
  ∀ ndx, session.activeTransfer.ndx = some ndx → ¬ session.Terminated ndx

/-- The slot is free or goes to a live index, and nothing is terminated anew. -/
theorem SlotLive.of_slot {session next : RemoteSessionState} (live : session.SlotLive)
    (ledger : next.ledger = session.ledger)
    (slot : ∀ ndx, next.activeTransfer.ndx = some ndx →
      session.activeTransfer.ndx = some ndx ∨ ¬ session.Terminated ndx) : next.SlotLive := by
  intro ndx held terminated
  rw [Terminated, ledger] at terminated
  obtain before | fresh := slot ndx held
  · exact live ndx before terminated
  · exact fresh terminated

theorem SlotLive.beginFull {session : RemoteSessionState} (live : session.SlotLive) (ndx : Ndx)
    (entry : ObservedItem) : (session.beginFull ndx entry).session.SlotLive := by
  simp only [RemoteSessionState.beginFull]
  split
  · exact live
  · next fresh =>
      split
      · exact live
      · refine live.of_slot rfl fun other held => .inr ?_
        cases held
        exact fresh

theorem SlotLive.accepted {session : RemoteSessionState} (live : session.SlotLive) (effects : Effects)
    (bytes : Nat) : (session.accepted effects bytes).session.SlotLive := by
  obtain ⟨slot, ledger, _⟩ := session.accepted_frame effects bytes
  refine live.of_slot ledger fun ndx held => .inl ?_
  rw [slot] at held
  exact held

theorem SlotLive.ensureDeltaActive {session : RemoteSessionState} (live : session.SlotLive) (ndx : Ndx)
    (entry : ObservedEntry) : (session.ensureDeltaActive ndx entry).session.SlotLive := by
  obtain ⟨same, _⟩ | ⟨same, _⟩ | ⟨opened, fresh, _⟩ := session.ensureDeltaActive_cases ndx entry
  · rw [same]
    exact live
  · rw [same]
    exact live
  · rw [opened]
    refine live.of_slot rfl fun other held => .inr ?_
    cases held
    exact fresh

theorem SlotLive.forwardDelta {session : RemoteSessionState} (live : session.SlotLive) (ndx : Ndx)
    (entry : ObservedEntry) (message : DiskCommitMsg) :
    (session.forwardDelta ndx entry message).session.SlotLive := by
  simp only [RemoteSessionState.forwardDelta]
  split <;> exact live.ensureDeltaActive ndx entry

theorem held_cases {session : RemoteSessionState} {ndx : Ndx}
    (held : session.activeTransfer.ndx = some ndx) :
    session.activeTransfer = .full ndx ∨ session.activeTransfer = .delta ndx := by
  cases active : session.activeTransfer with
  | idle =>
      rw [active] at held
      cases held
  | full other =>
      rw [active] at held
      cases held
      exact .inl rfl
  | delta other =>
      rw [active] at held
      cases held
      exact .inr rfl

/-- An `EndOfFile` frees the slot, or leaves it as it was to a terminated index or to
another transfer. -/
theorem endOfFile_slot (session : RemoteSessionState) (ndx : Ndx) (entry : ObservedEntry)
    (sourceHash : Option SourceHash) :
    (session.endOfFile ndx entry sourceHash).ledger = session.ledger ∧
      ((session.endOfFile ndx entry sourceHash).activeTransfer = .idle ∨
        (session.endOfFile ndx entry sourceHash).activeTransfer = session.activeTransfer ∧
          (session.Terminated ndx ∨
            session.activeTransfer.ndx ≠ some ndx ∧ session.activeTransfer ≠ .idle)) := by
  simp only [endOfFile]
  by_cases refused : session.Terminated ndx ∨ session.activeTransfer ≠ .full ndx
  · simp only [commitFull, if_pos refused, Bool.false_eq_true, if_false, commitDelta]
    obtain ⟨same, _⟩ | ⟨same, excuse⟩ | ⟨opened, _⟩ := session.ensureDeltaActive_cases ndx entry
    · rw [same]
      exact ⟨rfl, .inl rfl⟩
    · rw [same]
      refine ⟨rfl, .inr ⟨rfl, ?_⟩⟩
      by_cases terminated : session.Terminated ndx
      · exact .inl terminated
      · obtain ⟨busy, notDelta⟩ := excuse.resolve_left terminated
        have notFull := refused.resolve_left terminated
        exact .inr ⟨fun held => (held_cases held).elim notFull notDelta, busy⟩
    · rw [opened]
      exact ⟨rfl, .inl rfl⟩
  · simp only [commitFull, if_neg refused]
    exact ⟨rfl, .inl rfl⟩

theorem SlotLive.endOfFile {session : RemoteSessionState} (live : session.SlotLive) (ndx : Ndx)
    (entry : ObservedEntry) (sourceHash : Option SourceHash) :
    (session.endOfFile ndx entry sourceHash).SlotLive := by
  obtain ⟨ledger, free | ⟨same, _⟩⟩ := session.endOfFile_slot ndx entry sourceHash
  · refine live.of_slot ledger fun other held => ?_
    rw [free] at held
    cases held
  · refine live.of_slot ledger fun other held => .inl ?_
    rw [same] at held
    exact held

/-- After an `EndOfFile` its index holds the slot exactly when it held it before and was
already terminated. -/
theorem endOfFile_holds_iff (session : RemoteSessionState) (ndx : Ndx) (entry : ObservedEntry)
    (sourceHash : Option SourceHash) :
    (session.endOfFile ndx entry sourceHash).activeTransfer.ndx = some ndx ↔
      session.activeTransfer.ndx = some ndx ∧ session.Terminated ndx := by
  constructor
  · intro held
    obtain ⟨_, free | ⟨same, excuse⟩⟩ := session.endOfFile_slot ndx entry sourceHash
    · rw [free] at held
      cases held
    · rw [same] at held
      exact ⟨held, excuse.resolve_right fun other => other.1 held⟩
  · rintro ⟨held, terminated⟩
    simp only [endOfFile, commitFull, if_pos (Or.inl terminated), Bool.false_eq_true, if_false,
      commitDelta, ensureDeltaActive, if_pos terminated]
    exact held

theorem mem_recordTerminal {ledger : TransferLedger} {ndx other : Ndx}
    (terminated : other ∈ (ledger.recordTerminal ndx).1.terminatedNdx) :
    other ∈ ledger.terminatedNdx ∨ other = ndx := by
  simp only [TransferLedger.recordTerminal] at terminated
  split at terminated
  · exact .inl terminated
  · exact (List.mem_cons.mp terminated).symm

/-- An index that does not hold the slot may be terminated. -/
theorem SlotLive.recordTerminal {session next : RemoteSessionState} {ndx : Ndx} (live : session.SlotLive)
    (ledger : next.ledger = (session.ledger.recordTerminal ndx).1)
    (slot : ∀ other, next.activeTransfer.ndx = some other →
      session.activeTransfer.ndx = some other ∧ other ≠ ndx) : next.SlotLive := by
  intro other held terminated
  rw [Terminated, ledger] at terminated
  obtain ⟨before, different⟩ := slot other held
  exact live other before ((mem_recordTerminal terminated).resolve_right different)

theorem SlotLive.handleSourceFailure {session : RemoteSessionState} (live : session.SlotLive)
    (ndx : Option Ndx) : (session.handleSourceFailure ndx).session.SlotLive := by
  cases ndx with
  | none =>
      intro other held
      cases held
  | some ndx =>
      simp only [RemoteSessionState.handleSourceFailure]
      split
      · intro other held
        cases held
      · next elsewhere =>
          exact live.recordTerminal rfl fun other held =>
            ⟨held, fun same => elsewhere (held.trans (congrArg some same))⟩

theorem judge_frame (session : RemoteSessionState) (ndx : Ndx) (outcome : FileOutcome) :
    (session.judge ndx outcome).1.ledger = session.ledger ∧
      (session.judge ndx outcome).1.activeTransfer = session.activeTransfer := by
  cases outcome with
  | success | hardError => exact ⟨rfl, rfl⟩
  | hashMismatch | sizeMismatch =>
      simp only [judge, redoOrError]
      split <;> exact ⟨rfl, rfl⟩

/-- A terminal outcome of an index arrives only when the index does not hold the slot. -/
def OutcomeAfterSlot (session : RemoteSessionState) : SessionCall → Prop
  | .handleFileOutcome ndx outcome =>
      session.activeTransfer.ndx = some ndx → (session.judge ndx outcome).2.2 = false
  | _ => True

instance (session : RemoteSessionState) (call : SessionCall) :
    Decidable (session.OutcomeAfterSlot call) := by
  unfold OutcomeAfterSlot
  split <;> infer_instance

theorem SlotLive.handleFileOutcome {session : RemoteSessionState} (live : session.SlotLive)
    {ndx : Ndx} {outcome : FileOutcome}
    (after : session.OutcomeAfterSlot (.handleFileOutcome ndx outcome)) :
    (session.handleFileOutcome ndx outcome).session.SlotLive := by
  obtain ⟨ledger, slot⟩ := session.judge_frame ndx outcome
  cases terminal : (session.judge ndx outcome).2.2 with
  | false =>
      simp only [RemoteSessionState.handleFileOutcome, terminal, Bool.not_false, if_true]
      exact live.of_slot ledger fun other held => .inl (slot ▸ held)
  | true =>
      have recorded : (session.handleFileOutcome ndx outcome).session =
          ((session.judge ndx outcome).1.recordTerminal ndx).1 := by
        simp only [RemoteSessionState.handleFileOutcome, terminal, Bool.not_true, Bool.false_eq_true,
          if_false]
        split <;> rfl
      rw [recorded]
      refine @SlotLive.recordTerminal session _ ndx live (congrArg (fun l => (l.recordTerminal ndx).1) ledger) ?_
      intro other held
      have before : session.activeTransfer.ndx = some other := slot ▸ held
      refine ⟨before, ?_⟩
      rintro rfl
      rw [after before] at terminal
      cases terminal

theorem SlotLive.call {session : RemoteSessionState} (live : session.SlotLive) {call : SessionCall}
    (after : session.OutcomeAfterSlot call) : (session.call call).SlotLive := by
  cases call with
  | beginFull ndx entry => exact live.beginFull ndx entry
  | acceptFullChunk ndx chunk =>
      simp only [RemoteSessionState.call, acceptFullChunk, pushFullChunk]
      split
      · exact live.accepted _ _
      · exact live
  | pushDeltaMatch ndx entry blockIndex => exact live.forwardDelta ndx entry _
  | acceptDeltaData ndx entry data =>
      have pushed : (session.pushDeltaData ndx entry data).session.SlotLive :=
        live.forwardDelta ndx entry _
      simp only [RemoteSessionState.call, acceptDeltaData]
      split
      · exact pushed.accepted _ _
      · exact pushed
  | endOfFile ndx entry sourceHash => exact live.endOfFile ndx entry sourceHash
  | handleSourceFailure ndx => exact live.handleSourceFailure ndx
  | handleFileOutcome ndx outcome => exact live.handleFileOutcome after

/-- What a session promises of its slot. -/
structure ReleasesSlot (session : RemoteSessionState) : Prop where
  released : ∀ ndx entry sourceHash,
    (session.endOfFile ndx entry sourceHash).activeTransfer.ndx ≠ some ndx
  live : session.SlotLive
  /-- Once the file that holds the slot ends, the next file may begin. -/
  accepts : ∀ ndx entry sourceHash other item,
    session.activeTransfer = .idle ∨ session.activeTransfer.ndx = some ndx → ¬ session.Terminated other →
      ((session.endOfFile ndx entry sourceHash).beginFull other item).value = true

theorem SlotLive.releases {session : RemoteSessionState} (live : session.SlotLive) :
    session.ReleasesSlot where
  released := fun ndx entry sourceHash held =>
    let ⟨before, terminated⟩ := (session.endOfFile_holds_iff ndx entry sourceHash).mp held
    live ndx before terminated
  live := live
  accepts := by
    intro ndx entry sourceHash other item own fresh
    obtain ⟨ledger, slot⟩ := session.endOfFile_slot ndx entry sourceHash
    have unterminated : ¬ (session.endOfFile ndx entry sourceHash).Terminated other := by
      rw [Terminated, ledger]
      exact fresh
    have free : (session.endOfFile ndx entry sourceHash).activeTransfer = .idle := by
      obtain free | ⟨same, excuse⟩ := slot
      · exact free
      · obtain idle | held := own
        · exact same.trans idle
        · exact absurd (excuse.resolve_right fun busy => busy.1 held) (live ndx held)
    simp only [RemoteSessionState.beginFull, if_neg unterminated, free, ne_eq, not_true, if_false]

/-- In every order of calls in which no index gets a terminal outcome while it holds the
slot, the slot is released. -/
theorem slot_released {credit : ReceiverCreditState} {calls : List SessionCall} {final : RemoteSessionState}
    (after : callMachine.Along OutcomeAfterSlot (.new credit) calls)
    (run : callMachine.exec (.new credit) calls = some final) : final.ReleasesSlot := by
  have preserved : ∀ {session call next}, SlotLive session → session.OutcomeAfterSlot call →
      callMachine.step session call = some next → next.SlotLive := by
    intro session call next live after stepped
    cases stepped
    exact live.call after
  have initial : (RemoteSessionState.new credit).SlotLive := fun _ held => by cases held
  exact (Lib.Machine.exec_invariant_along preserved initial after run).releases

/-- A plain file of one entry. -/
def plainItem : ObservedItem :=
  .ofEntry (.new ['f'] .file (some 0) none .local none)

/-- Index 1 is sent in full, then index 2 by delta; both are answered after their end. -/
def orderedCalls : List SessionCall :=
  [.beginFull 1 plainItem, .acceptFullChunk 1 ⟨0, [7]⟩, .endOfFile 1 plainItem.entry none,
    .handleFileOutcome 1 .success, .pushDeltaMatch 2 plainItem.entry 0,
    .handleFileOutcome 2 .hashMismatch, .endOfFile 2 plainItem.entry none]

theorem slot_released_ordered :
    ∃ final, callMachine.exec (.new ⟨50, 0⟩) orderedCalls = some final ∧ final.ReleasesSlot :=
  ⟨_, rfl, @slot_released ⟨50, 0⟩ orderedCalls _ (by decide) rfl⟩

/-- The disk task gives up index 1 while its chunks are still arriving. -/
def failedCalls : List SessionCall :=
  [.beginFull 1 plainItem, .handleFileOutcome 1 (.hardError "disk full"),
    .endOfFile 1 plainItem.entry none]

/-- Index 1 holds the slot after its end, and index 2 may not begin. -/
theorem slot_kept_by_terminated :
    ∃ final, callMachine.exec (.new ⟨50, 0⟩) failedCalls = some final ∧
      final.activeTransfer = .full 1 ∧ final.Terminated 1 ∧ ¬ final.Terminated 2 ∧
      (final.beginFull 2 plainItem).value = false ∧ ¬ final.ReleasesSlot := by
  refine ⟨_, rfl, rfl, by decide, by decide, rfl, fun releases => ?_⟩
  exact releases.live 1 rfl (by decide)

end RemoteSessionState

end Terrasync.App
