import Terrasync.App.FileCommit

/-! What one command does to the disk-commit task: which file stays active, and which
outcome is reported. -/

set_option autoImplicit false

namespace Terrasync.App

open SyncDelta (DeltaToken ReconstructStep)
open Transport

/-- The transfer an active file belongs to. -/
structure TransferKey where
  ndx : Ndx
  path : RelativePath
  mode : FileTransferMode
deriving DecidableEq, Repr

def ActiveFile.key (active : ActiveFile) : TransferKey :=
  ⟨active.ndx, active.path, active.mode.transferMode⟩

def FileCommitState.key (state : FileCommitState) : Option TransferKey :=
  state.active.map ActiveFile.key

/-- The transfer a command opens. -/
def opensTransfer : DiskCommitMsg → Option TransferKey
  | .fileBegin ndx entry => some ⟨ndx, entry.entry.path, .full⟩
  | .deltaBegin ndx entry _ => some ⟨ndx, entry.path, .delta⟩
  | _ => none

/-- The transfer a command commits. -/
def commitsTransfer : DiskCommitMsg → Option TransferKey
  | .fileCommit ndx entry _ => some ⟨ndx, entry.path, .full⟩
  | .deltaCommit ndx entry _ => some ⟨ndx, entry.path, .delta⟩
  | _ => none

def carriesData : DiskCommitMsg → Bool
  | .fileChunk .. | .deltaMatch .. | .deltaData .. => true
  | _ => false

def endsTransfer : DiskCommitMsg → Bool
  | .abortFile | .shutdown => true
  | _ => false

def isMismatch : FileOutcome → Bool
  | .hashMismatch | .sizeMismatch => true
  | .success | .hardError _ => false

namespace FileCommitState

/-- What a command may do, in terms of the active transfer and the reports. -/
inductive Disposes (state : FileCommitState) (command : DiskCommitMsg) :
    Option TransferKey → List DcAck → Prop where
  | opened {key : TransferKey} (opening : opensTransfer command = some key) (free : state.key = none) :
      Disposes state command (some key) []
  | openFailed {key : TransferKey} (opening : opensTransfer command = some key) (free : state.key = none)
      (reason : String) : Disposes state command none [.fileOutcome key.ndx (.hardError reason)]
  | rejected {key : TransferKey} (opening : opensTransfer command = some key) (busy : state.key ≠ none) :
      Disposes state command state.key []
  | committed {key : TransferKey} (committing : commitsTransfer command = some key)
      (active : state.key = some key) (outcome : FileOutcome) :
      Disposes state command none [.fileOutcome key.ndx outcome]
  | ignored {key : TransferKey} (committing : commitsTransfer command = some key)
      (other : state.key ≠ some key) : Disposes state command state.key []
  | continued (data : carriesData command = true) : Disposes state command state.key []
  | broken {key : TransferKey} (data : carriesData command = true) (active : state.key = some key)
      (reason : String) : Disposes state command none [.fileOutcome key.ndx (.hardError reason)]
  | aborted (abort : endsTransfer command = true) : Disposes state command none []
  | marked {ndx : Ndx} {entry : ObservedItem} (marker : command = .writeDeleteMarker ndx entry)
      (outcome : FileOutcome) (terminal : isMismatch outcome = false) :
      Disposes state command state.key [.fileOutcome ndx outcome]
  | created {ack : ReceiverMsg}
      (entry : (∃ entry, command = .createDir entry) ∨ ∃ entry target, command = .createSymlink entry target) :
      Disposes state command state.key [.entry ack]

variable {config : SessionConfig} {answers : DiskAnswers} {state : FileCommitState}

theorem prepare_disposes {command : DiskCommitMsg} {ndx : Ndx} {entry : ObservedItem}
    {deltaBlockSize : Option UInt32} {key : TransferKey} (opening : opensTransfer command = some key)
    (free : state.key = none) (opens : ∀ size, (opened ndx entry size deltaBlockSize).key = some key)
    (names : key.ndx = ndx) :
    Disposes state command (prepare answers ndx entry deltaBlockSize).state.key
      (prepare answers ndx entry deltaBlockSize).acks := by
  subst names
  rw [prepare]
  split
  · exact .openFailed opening free _
  · split
    · exact .openFailed opening free _
    · split
      · exact .openFailed opening free _
      · exact .openFailed opening free _
      · rw [opens]
        exact .opened opening free

theorem begin_disposes (settled : state ≠ .committing) {command : DiskCommitMsg} {ndx : Ndx}
    {entry : ObservedItem} {deltaBlockSize : Option UInt32} {key : TransferKey}
    (opening : opensTransfer command = some key)
    (opens : ∀ size, (opened ndx entry size deltaBlockSize).key = some key) (names : key.ndx = ndx) :
    Disposes state command (begin answers state ndx entry deltaBlockSize).state.key
      (begin answers state ndx entry deltaBlockSize).acks := by
  cases state with
  | idle | failed | completed => exact prepare_disposes opening rfl opens names
  | fullActive active | deltaActive active => exact .rejected opening (Option.some_ne_none active.key)
  | committing => exact absurd rfl settled

theorem pushFull_disposes {command : DiskCommitMsg} (data : carriesData command = true) (ndx : Ndx)
    (chunk : DataChunk) :
    Disposes state command (pushFull answers state ndx chunk).state.key
      (pushFull answers state ndx chunk).acks := by
  cases state with
  | fullActive active =>
      simp only [pushFull]
      split
      · exact .continued data
      · split
        · exact .continued data
        · exact .continued data
  | _ => exact .continued data

/-- A flush keeps the transfer. -/
theorem flushBasis_key {active flushed : ActiveFile} (done : flushBasis answers active = .ok flushed) :
    flushed.key = active.key := by
  cases mode : active.mode with
  | full =>
      simp only [flushBasis, mode] at done
      cases done
      rfl
  | delta ctx =>
      simp only [flushBasis, mode] at done
      split at done
      · cases done
        rfl
      · split at done
        · cases done
        · split at done
          · cases done
            simp only [ActiveFile.key, ActiveFile.path, mode, ActiveFileMode.transferMode]
          · cases done

theorem pushDelta_disposes {command : DiskCommitMsg} (data : carriesData command = true)
    (entry : ObservedEntry) (token : DeltaToken) :
    Disposes state command (pushDelta answers state entry token).state.key
      (pushDelta answers state entry token).acks := by
  cases state with
  | deltaActive active =>
      have kept {other : ActiveFile} (same : other.key = active.key) :
          Disposes (.deltaActive active) command (FileCommitState.deltaActive other).key [] := by
        have unchanged : (FileCommitState.deltaActive other).key = (FileCommitState.deltaActive active).key :=
          congrArg some same
        rw [unchanged]
        exact .continued data
      simp only [pushDelta]
      split
      · exact .continued data
      · split
        · exact .continued data
        · next ctx mode =>
            split
            · exact kept (by simp only [ActiveFile.key, ActiveFile.path, mode, ActiveFileMode.transferMode])
            · split
              · exact .broken data (show FileCommitState.key _ = some active.key from rfl) _
              · next flushed done =>
                  have same := flushBasis_key done
                  split
                  · exact kept same
                  · next flushedCtx flushedMode =>
                      refine kept (Eq.trans ?_ same)
                      cases ctx.reconstructor.push token <;>
                        simp only [applyStep, ActiveFile.key, ActiveFile.path, flushedMode,
                          ActiveFileMode.transferMode]
  | _ => exact .continued data

theorem settle_acks (ndx : Ndx) (active : ActiveFile) (sourceHash : Option SourceHash) :
    ∃ outcome, (settle config answers ndx active sourceHash).acks = [.fileOutcome ndx outcome] ∧
      (settle config answers ndx active sourceHash).state.key = none := by
  simp only [settle]
  split <;> exact ⟨_, rfl, rfl⟩

theorem settle_disposes {command : DiskCommitMsg} {key : TransferKey}
    (committing : commitsTransfer command = some key) (active : state.key = some key) (file : ActiveFile)
    (sourceHash : Option SourceHash) :
    Disposes state command (settle config answers key.ndx file sourceHash).state.key
      (settle config answers key.ndx file sourceHash).acks := by
  obtain ⟨outcome, acks, inactive⟩ := @settle_acks config answers key.ndx file sourceHash
  rw [acks, inactive]
  exact .committed committing active outcome

theorem commits_iff {active : ActiveFile} {ndx : Ndx} {entry : ObservedEntry} {mode : FileTransferMode} :
    Commits active ndx entry mode ↔ active.key = ⟨ndx, entry.path, mode⟩ := by
  simp only [Commits, ActiveFile.key, TransferKey.mk.injEq]

theorem commit_disposes {command : DiskCommitMsg} {ndx : Ndx} {entry : ObservedEntry}
    {mode : FileTransferMode} (committing : commitsTransfer command = some ⟨ndx, entry.path, mode⟩)
    (sourceHash : Option SourceHash) :
    Disposes state command (commit config answers state ndx entry sourceHash mode).state.key
      (commit config answers state ndx entry sourceHash mode).acks := by
  cases state with
  | fullActive active =>
      simp only [commit]
      split
      · next matching =>
          have same : (FileCommitState.fullActive active).key = some ⟨ndx, entry.path, mode⟩ :=
            congrArg some (commits_iff.mp matching)
          exact settle_disposes committing same active sourceHash
      · next other =>
          exact .ignored committing fun same => other (commits_iff.mpr (Option.some.inj same))
  | deltaActive active =>
      simp only [commit]
      split
      · next matching =>
          have same : (FileCommitState.deltaActive active).key = some ⟨ndx, entry.path, mode⟩ :=
            congrArg some (commits_iff.mp matching)
          split
          · exact .committed committing same _
          · exact settle_disposes committing same _ sourceHash
      · next other =>
          exact .ignored committing fun same => other (commits_iff.mpr (Option.some.inj same))
  | idle | committing | failed | completed =>
      exact .ignored committing fun same => Option.some_ne_none _ same.symm

theorem writeDeleteMarker_disposes (ndx : Ndx) (entry : ObservedItem) :
    Disposes state (.writeDeleteMarker ndx entry) (writeDeleteMarker answers state ndx entry).state.key
      (writeDeleteMarker answers state ndx entry).acks := by
  simp only [writeDeleteMarker]
  split <;> exact .marked rfl _ rfl

theorem dispatch_disposes (settled : state ≠ .committing) (command : DiskCommitMsg) :
    Disposes state command (dispatch config answers state command).state.key
      (dispatch config answers state command).acks := by
  cases command with
  | createDir entry => exact .created (.inl ⟨entry, rfl⟩)
  | createSymlink entry target => exact .created (.inr ⟨entry, target, rfl⟩)
  | writeDeleteMarker ndx entry => exact writeDeleteMarker_disposes ndx entry
  | fileBegin ndx entry => exact begin_disposes settled rfl (fun _ => rfl) rfl
  | fileChunk ndx chunk => exact pushFull_disposes rfl ndx chunk
  | fileCommit ndx entry sourceHash => exact commit_disposes rfl sourceHash
  | deltaBegin ndx entry blockSize => exact begin_disposes settled rfl (fun _ => rfl) rfl
  | deltaMatch entry blockIndex => exact pushDelta_disposes rfl entry _
  | deltaData entry data => exact pushDelta_disposes rfl entry _
  | deltaCommit ndx entry sourceHash => exact commit_disposes rfl sourceHash
  | abortFile => exact .aborted rfl
  | shutdown => exact .aborted rfl

theorem opened_settled (ndx : Ndx) (entry : ObservedItem) (size : Nat) (deltaBlockSize : Option UInt32) :
    opened ndx entry size deltaBlockSize ≠ .committing := by
  cases deltaBlockSize <;> exact FileCommitState.noConfusion

theorem begin_settled (settled : state ≠ .committing) (ndx : Ndx) (entry : ObservedItem)
    (deltaBlockSize : Option UInt32) :
    (begin answers state ndx entry deltaBlockSize).state ≠ .committing := by
  have prepared : (prepare answers ndx entry deltaBlockSize).state ≠ .committing := by
    simp only [prepare]
    split
    · exact FileCommitState.noConfusion
    · split
      · exact FileCommitState.noConfusion
      · split
        · exact FileCommitState.noConfusion
        · exact FileCommitState.noConfusion
        · exact opened_settled ndx entry _ deltaBlockSize
  cases state with
  | idle | failed | completed => exact prepared
  | fullActive active | deltaActive active | committing => exact settled

theorem pushFull_settled (settled : state ≠ .committing) (ndx : Ndx) (chunk : DataChunk) :
    (pushFull answers state ndx chunk).state ≠ .committing := by
  cases state with
  | fullActive active =>
      simp only [pushFull]
      split
      · exact settled
      · split
        · exact FileCommitState.noConfusion
        · exact settled
  | _ => exact settled

theorem pushDelta_settled (settled : state ≠ .committing) (entry : ObservedEntry) (token : DeltaToken) :
    (pushDelta answers state entry token).state ≠ .committing := by
  cases state with
  | deltaActive active =>
      simp only [pushDelta]
      split
      · exact settled
      · split
        · exact settled
        · split
          · exact FileCommitState.noConfusion
          · split
            · exact FileCommitState.noConfusion
            · split <;> exact FileCommitState.noConfusion
  | _ => exact settled

theorem commit_settled (settled : state ≠ .committing) (ndx : Ndx) (entry : ObservedEntry)
    (sourceHash : Option SourceHash) (mode : FileTransferMode) :
    (commit config answers state ndx entry sourceHash mode).state ≠ .committing := by
  have finished (active : ActiveFile) :
      (settle config answers ndx active sourceHash).state ≠ .committing := by
    simp only [settle]
    split <;> exact FileCommitState.noConfusion
  cases state with
  | fullActive active =>
      simp only [commit]
      split
      · exact finished active
      · exact settled
  | deltaActive active =>
      simp only [commit]
      split
      · split
        · exact FileCommitState.noConfusion
        · exact finished _
      · exact settled
  | idle | committing | failed | completed => exact settled

/-- Between two commands no file is half committed. -/
theorem dispatch_settled (settled : state ≠ .committing) (command : DiskCommitMsg) :
    (dispatch config answers state command).state ≠ .committing := by
  cases command with
  | createDir entry => exact settled
  | createSymlink entry target => exact settled
  | writeDeleteMarker ndx entry =>
      simp only [dispatch, writeDeleteMarker]
      split <;> exact settled
  | fileBegin ndx entry => exact begin_settled settled ndx entry none
  | fileChunk ndx chunk => exact pushFull_settled settled ndx chunk
  | fileCommit ndx entry sourceHash => exact commit_settled settled ndx entry sourceHash .full
  | deltaBegin ndx entry blockSize => exact begin_settled settled ndx (.ofEntry entry) (some blockSize)
  | deltaMatch entry blockIndex => exact pushDelta_settled settled entry _
  | deltaData entry data => exact pushDelta_settled settled entry _
  | deltaCommit ndx entry sourceHash => exact commit_settled settled ndx entry sourceHash .delta
  | abortFile => exact FileCommitState.noConfusion
  | shutdown => exact FileCommitState.noConfusion

end FileCommitState

end Terrasync.App
