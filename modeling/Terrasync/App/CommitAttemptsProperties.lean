import Terrasync.App.CommitAttempts

/-! Every attempt that a commit ends is reported exactly once, provided that no page
moves the index being transferred to another path. -/

set_option autoImplicit false

namespace Terrasync.App

open SyncDelta (DeltaToken)
open Transport

/-! ## The committer -/

namespace FileCommitState

variable {config : SessionConfig} {answers : DiskAnswers} {state : FileCommitState}

theorem active_of_key {key : TransferKey} (holds : state.key = some key) :
    ∃ active, state.active = some active ∧ active.key = key :=
  Option.map_eq_some_iff.mp holds

theorem active_none (free : state.key = none) : state.active = none := Option.map_eq_none_iff.mp free

theorem flushBasis_size {active flushed : ActiveFile} (done : flushBasis answers active = .ok flushed) :
    flushed.size = active.size := by
  cases mode : active.mode with
  | full =>
      simp only [flushBasis, mode] at done
      cases done
      rfl
  | delta ctx =>
      simp only [flushBasis, mode] at done
      split at done
      · cases done
        rfl
      · split at done
        · cases done
        · split at done
          · cases done
            rfl
          · cases done

/-- The file that is active after a command was active before it, with the same size. -/
def KeepsSize (state after : FileCommitState) : Prop :=
  ∀ later, after.active = some later →
    ∃ earlier, state.active = some earlier ∧ later.size = earlier.size

theorem KeepsSize.refl (state : FileCommitState) : KeepsSize state state :=
  fun later active => ⟨later, active, rfl⟩

theorem pushFull_size (state : FileCommitState) (ndx : Ndx) (chunk : DataChunk) :
    KeepsSize state (pushFull answers state ndx chunk).state := by
  cases state with
  | fullActive active =>
      simp only [pushFull]
      split
      · exact .refl _
      · split
        · intro later pushed
          cases pushed
          exact ⟨active, rfl, rfl⟩
        · exact .refl _
  | _ => exact .refl _

theorem pushDelta_size (state : FileCommitState) (entry : ObservedEntry) (token : DeltaToken) :
    KeepsSize state (pushDelta answers state entry token).state := by
  cases state with
  | deltaActive active =>
      have kept {other : ActiveFile} (same : other.size = active.size) :
          KeepsSize (.deltaActive active) (.deltaActive other) := by
        intro later pushed
        cases pushed
        exact ⟨active, rfl, same⟩
      simp only [pushDelta]
      split
      · exact .refl _
      · split
        · exact .refl _
        · next ctx mode =>
            split
            · exact kept rfl
            · split
              · intro later pushed
                cases pushed
              · next flushed done =>
                  have same := flushBasis_size done
                  split
                  · exact kept same
                  · cases ctx.reconstructor.push token <;> exact kept same
  | _ => exact .refl _

theorem data_size {command : DiskCommitMsg} (data : carriesData command = true) :
    KeepsSize state (dispatch config answers state command).state := by
  cases command with
  | fileChunk ndx chunk => exact pushFull_size state ndx chunk
  | deltaMatch entry blockIndex => exact pushDelta_size state entry _
  | deltaData entry data => exact pushDelta_size state entry _
  | _ => cases data

/-- A begin command declares the size of the file it opens. -/
theorem opening_size {command : DiskCommitMsg} {opened : Attempt}
    (opening : Attempt.opening command = some opened) (free : state.active = none) :
    ∀ later, (dispatch config answers state command).state.active = some later →
      later.size = opened.size := by
  have prepared (ndx : Ndx) (entry : ObservedItem) (deltaBlockSize : Option UInt32) :
      ∀ later, (begin answers state ndx entry deltaBlockSize).state.active = some later →
        later.size = entry.getSize := by
    intro later active
    have begun : (prepare answers ndx entry deltaBlockSize).state.active = some later := by
      cases state with
      | fullActive file | deltaActive file => cases free
      | committing => cases active
      | idle | failed | completed => exact active
    simp only [prepare] at begun
    split at begun
    · cases begun
    · split at begun
      · cases begun
      · split at begun
        · cases begun
        · cases begun
        · cases deltaBlockSize <;> cases begun <;> rfl
  cases command with
  | fileBegin ndx entry =>
      cases opening
      exact prepared ndx entry none
  | deltaBegin ndx entry blockSize =>
      cases opening
      exact prepared ndx (.ofEntry entry) (some blockSize)
  | _ => cases opening

/-- A file is published only at its full length and with the digest that was sent. -/
def Verifies (config : SessionConfig) (answers : DiskAnswers) (active : ActiveFile)
    (sourceHash : Option SourceHash) : Prop :=
  answers.receivedSize = active.size ∧
    (config.enableIntegrityCheck = true → ∀ hash, sourceHash = some hash → answers.receivedHash = hash)

theorem finalizeFile_verifies {active : ActiveFile} {sourceHash : Option SourceHash}
    (published : finalizeFile config answers active sourceHash = .success) :
    Verifies config answers active sourceHash := by
  simp only [finalizeFile] at published
  split at published
  · split at published <;> cases published
  · split at published
    · cases published
    · next length =>
        split at published
        · cases published
        · next digest =>
            refine ⟨not_not.mp length, fun checks hash sent => ?_⟩
            subst sent
            simp only [checks, Option.isSome_some, ne_eq, Option.some.injEq, true_and, not_not] at digest
            exact digest.symm

theorem settle_success {active : ActiveFile} {ndx named : Ndx} {sourceHash : Option SourceHash}
    (reported : (settle config answers ndx active sourceHash).acks = [.fileOutcome named .success]) :
    Verifies config answers active sourceHash := by
  simp only [settle] at reported
  split at reported
  · next published => exact finalizeFile_verifies published
  · next unpublished =>
      simp only [List.cons.injEq, DcAck.fileOutcome.injEq] at reported
      exact absurd reported.1.2 unpublished

theorem commit_success {active : ActiveFile} (writing : state.active = some active) {ndx named : Ndx}
    {entry : ObservedEntry} {sourceHash : Option SourceHash} {mode : FileTransferMode}
    (reported : (commit config answers state ndx entry sourceHash mode).acks =
      [.fileOutcome named .success]) : Verifies config answers active sourceHash := by
  cases state with
  | fullActive file =>
      cases writing
      simp only [commit] at reported
      split at reported
      · exact settle_success reported
      · cases reported
  | deltaActive file =>
      cases writing
      simp only [commit] at reported
      split at reported
      · split at reported
        · cases reported
        · next flushed done =>
            have verified := settle_success reported
            rwa [Verifies, flushBasis_size done] at verified
      · cases reported
  | _ => cases writing

theorem dispatch_success {active : ActiveFile} (writing : state.active = some active)
    {command : DiskCommitMsg} {key : TransferKey} (committing : commitsTransfer command = some key)
    {named : Ndx} (reported : (dispatch config answers state command).acks = [.fileOutcome named .success]) :
    Verifies config answers active (sentHash command) := by
  cases command with
  | fileCommit ndx entry sourceHash => exact commit_success writing reported
  | deltaCommit ndx entry sourceHash => exact commit_success writing reported
  | _ => cases committing

theorem data_neutral {command : DiskCommitMsg} (data : carriesData command = true) :
    opensTransfer command = none ∧ commitsTransfer command = none ∧ endsTransfer command = false := by
  cases command with
  | fileChunk ndx chunk => exact ⟨rfl, rfl, rfl⟩
  | deltaMatch entry blockIndex => exact ⟨rfl, rfl, rfl⟩
  | deltaData entry data => exact ⟨rfl, rfl, rfl⟩
  | _ => cases data

theorem opening_neutral {command : DiskCommitMsg} {key : TransferKey}
    (opening : opensTransfer command = some key) :
    carriesData command = false ∧ commitsTransfer command = none ∧ endsTransfer command = false := by
  cases command with
  | fileBegin ndx entry => exact ⟨rfl, rfl, rfl⟩
  | deltaBegin ndx entry blockSize => exact ⟨rfl, rfl, rfl⟩
  | _ => cases opening

theorem committing_neutral {command : DiskCommitMsg} {key : TransferKey}
    (committing : commitsTransfer command = some key) :
    carriesData command = false ∧ opensTransfer command = none ∧ endsTransfer command = false := by
  cases command with
  | fileCommit ndx entry sourceHash => exact ⟨rfl, rfl, rfl⟩
  | deltaCommit ndx entry sourceHash => exact ⟨rfl, rfl, rfl⟩
  | _ => cases committing

/-- A data command has nothing to report, or the active file is given up. -/
theorem data_disposes {command : DiskCommitMsg} (settled : state ≠ .committing)
    (data : carriesData command = true) :
    (dispatch config answers state command).state.key = state.key ∧
        (dispatch config answers state command).acks = [] ∨
      ∃ key reason, state.key = some key ∧ (dispatch config answers state command).state.key = none ∧
        (dispatch config answers state command).acks = [.fileOutcome key.ndx (.hardError reason)] := by
  obtain ⟨noOpening, noCommit, noEnd⟩ := data_neutral data
  have disposal := @dispatch_disposes config answers state settled command
  generalize (dispatch config answers state command).state.key = after at disposal ⊢
  generalize (dispatch config answers state command).acks = acks at disposal ⊢
  cases disposal with
  | continued _ => exact .inl ⟨rfl, rfl⟩
  | broken _ active reason => exact .inr ⟨_, reason, active, rfl, rfl⟩
  | opened opening _ | openFailed opening _ _ | rejected opening _ => simp [noOpening] at opening
  | committed committing _ _ | ignored committing _ => simp [noCommit] at committing
  | aborted ending => simp [noEnd] at ending
  | marked marker _ _ => simp [marker, carriesData] at data
  | created created => obtain ⟨entry, rfl⟩ | ⟨entry, target, rfl⟩ := created <;> cases data

/-- Without an active file a begin command opens one, or reports why it cannot. -/
theorem opening_disposes {command : DiskCommitMsg} {key : TransferKey} (settled : state ≠ .committing)
    (opening : opensTransfer command = some key) (free : state.key = none) :
    (dispatch config answers state command).state.key = some key ∧
        (dispatch config answers state command).acks = [] ∨
      ∃ reason, (dispatch config answers state command).state.key = none ∧
        (dispatch config answers state command).acks = [.fileOutcome key.ndx (.hardError reason)] := by
  obtain ⟨noData, noCommit, noEnd⟩ := opening_neutral opening
  have disposal := @dispatch_disposes config answers state settled command
  generalize (dispatch config answers state command).state.key = after at disposal ⊢
  generalize (dispatch config answers state command).acks = acks at disposal ⊢
  cases disposal with
  | opened same _ =>
      cases opening.symm.trans same
      exact .inl ⟨rfl, rfl⟩
  | openFailed same _ reason =>
      cases opening.symm.trans same
      exact .inr ⟨reason, rfl, rfl⟩
  | rejected _ busy => exact absurd free busy
  | continued data | broken data _ _ => simp [noData] at data
  | committed committing _ _ | ignored committing _ => simp [noCommit] at committing
  | aborted ending => simp [noEnd] at ending
  | marked marker _ _ => simp [marker, opensTransfer] at opening
  | created created => obtain ⟨entry, rfl⟩ | ⟨entry, target, rfl⟩ := created <;> cases opening

/-- A commit reports one outcome for the active file it names, and nothing otherwise. -/
theorem committing_disposes {command : DiskCommitMsg} {key : TransferKey} (settled : state ≠ .committing)
    (committing : commitsTransfer command = some key) :
    state.key = some key ∧ (dispatch config answers state command).state.key = none ∧
        (∃ outcome, (dispatch config answers state command).acks = [.fileOutcome key.ndx outcome]) ∨
      state.key ≠ some key ∧ (dispatch config answers state command).state.key = state.key ∧
        (dispatch config answers state command).acks = [] := by
  obtain ⟨noData, noOpening, noEnd⟩ := committing_neutral committing
  have disposal := @dispatch_disposes config answers state settled command
  generalize (dispatch config answers state command).state.key = after at disposal ⊢
  generalize (dispatch config answers state command).acks = acks at disposal ⊢
  cases disposal with
  | committed same active outcome =>
      cases committing.symm.trans same
      exact .inl ⟨active, rfl, outcome, rfl⟩
  | ignored same other =>
      cases committing.symm.trans same
      exact .inr ⟨other, rfl, rfl⟩
  | continued data | broken data _ _ => simp [noData] at data
  | opened opening _ | openFailed opening _ _ | rejected opening _ => simp [noOpening] at opening
  | aborted ending => simp [noEnd] at ending
  | marked marker _ _ => simp [marker, commitsTransfer] at committing
  | created created => obtain ⟨entry, rfl⟩ | ⟨entry, target, rfl⟩ := created <;> cases committing

end FileCommitState

/-! ## The log -/

theorem opening_of_opens {command : DiskCommitMsg} {key : TransferKey}
    (opening : opensTransfer command = some key) :
    ∃ opened, Attempt.opening command = some opened ∧ opened.key = key ∧ opened.ending = none := by
  cases command with
  | fileBegin ndx entry =>
      cases opening
      exact ⟨_, rfl, rfl, rfl⟩
  | deltaBegin ndx entry blockSize =>
      cases opening
      exact ⟨_, rfl, rfl, rfl⟩
  | _ => cases opening

theorem opening_none {command : DiskCommitMsg} (noOpening : opensTransfer command = none) :
    Attempt.opening command = none := by
  cases command with
  | fileBegin ndx entry => cases noOpening
  | deltaBegin ndx entry blockSize => cases noOpening
  | _ => rfl

theorem commitsNdx_of_commits {command : DiskCommitMsg} {key : TransferKey}
    (committing : commitsTransfer command = some key) : commitsNdx command = some key.ndx := by
  cases command with
  | fileCommit ndx entry sourceHash =>
      cases committing
      rfl
  | deltaCommit ndx entry sourceHash =>
      cases committing
      rfl
  | _ => cases committing

theorem commitsNdx_none {command : DiskCommitMsg} (noCommit : commitsTransfer command = none) :
    commitsNdx command = none := by
  cases command with
  | fileCommit ndx entry sourceHash => cases noCommit
  | deltaCommit ndx entry sourceHash => cases noCommit
  | _ => rfl

@[simp] theorem committerReports_silent (command : DiskCommitMsg) : committerReports [] command = [] := by
  cases command <;> rfl

/-- The committer speaks for every command of a transfer. -/
theorem committerReports_outcome {command : DiskCommitMsg} (ndx : Ndx) (outcome : FileOutcome)
    (transfer : carriesData command = true ∨ opensTransfer command ≠ none ∨
      commitsTransfer command ≠ none) :
    committerReports [.fileOutcome ndx outcome] command = [(ndx, outcome)] := by
  cases command with
  | writeDeleteMarker ndx entry => simp [carriesData, opensTransfer, commitsTransfer] at transfer
  | _ => rfl

/-- How far an attempt has come: its file is being written, or was given up and reported. -/
inductive Attempt.Progress (committer : FileCommitState) (attempt : Attempt) : Prop where
  | writing {file : ActiveFile} (active : committer.active = some file) (key : file.key = attempt.key)
      (size : file.size = attempt.size) (silent : attempt.reports = [])
  | failed (inactive : committer.key = none) (reason : String)
      (reported : attempt.reports = [(attempt.key.ndx, .hardError reason)])

theorem Attempt.Progress.settled {committer : FileCommitState} {attempt : Attempt}
    (progress : attempt.Progress committer) (config : SessionConfig)
    (uncommitted : ∀ command answers, attempt.ending = some (command, answers) →
      commitsNdx command = none) :
    attempt.Settled config := by
  have notCommitted : ∀ command answers, attempt.ending = some (command, answers) →
      commitsNdx command = some attempt.key.ndx → attempt.reports.length = 1 := by
    intro command answers ending commits
    rw [uncommitted command answers ending] at commits
    cases commits
  cases progress with
  | writing _ _ _ silent => exact ⟨by simp [silent], by simp [silent], notCommitted, by simp [silent]⟩
  | failed _ reason reported =>
      exact ⟨by simp [reported], by simp [reported], notCommitted, by simp [reported]⟩

namespace AttemptLog

/-- What the log holds while a session transfers `held`. -/
structure Tracks (config : SessionConfig) (held : Option TransferKey) (log : AttemptLog) : Prop where
  settled : log.committer ≠ .committing
  free : held = none → log.current = none ∧ log.committer.key = none
  busy : ∀ key, held = some key → ∃ attempt, log.current = some attempt ∧ attempt.key = key ∧
    attempt.ending = none ∧ attempt.Progress log.committer
  closed : ∀ attempt ∈ log.closed, attempt.Settled config ∧ attempt.ending.isSome = true
  strays : log.strays = []

variable {config : SessionConfig} {held : Option TransferKey} {log : AttemptLog}

theorem tracks_new (config : SessionConfig) : new.Tracks config none where
  settled := by simp [new]
  free := fun _ => ⟨rfl, rfl⟩
  busy := by simp
  closed := by simp [new]
  strays := rfl

theorem Tracks.exact (tracks : log.Tracks config held) : log.Exact config where
  settled := by
    intro attempt member
    obtain closed | current := List.mem_append.mp member
    · exact (tracks.closed attempt closed).1
    · cases held with
      | none => simp [(tracks.free rfl).1] at current
      | some key =>
          obtain ⟨held, running, -, unended, progress⟩ := tracks.busy key rfl
          rw [running, Option.toList_some, List.mem_singleton] at current
          subst current
          exact progress.settled config (by simp [unended])
  ended := fun attempt member => (tracks.closed attempt member).2
  strays := tracks.strays

theorem perform_opening {command : DiskCommitMsg} {opened : Attempt}
    (opening : Attempt.opening command = some opened) (answers : DiskAnswers) :
    log.perform config (command, answers) =
      ⟨(log.committer.dispatch config answers command).state,
        some ⟨opened.key, opened.size,
          committerReports (log.committer.dispatch config answers command).acks command, opened.ending⟩,
        log.closed ++ log.current.toList, log.strays⟩ := by
  simp only [perform, opening]

theorem perform_idle {command : DiskCommitMsg} (noOpening : opensTransfer command = none)
    (idle : log.current = none) (answers : DiskAnswers) :
    log.perform config (command, answers) =
      ⟨(log.committer.dispatch config answers command).state, none, log.closed,
        log.strays ++ committerReports (log.committer.dispatch config answers command).acks command⟩ := by
  simp only [perform, opening_none noOpening, idle]

theorem perform_extending {command : DiskCommitMsg} (noOpening : opensTransfer command = none)
    {attempt : Attempt} (current : log.current = some attempt) (goesOn : attempt.endsWith command = false)
    (answers : DiskAnswers) :
    log.perform config (command, answers) =
      ⟨(log.committer.dispatch config answers command).state,
        some ⟨attempt.key, attempt.size, attempt.reports ++
          committerReports (log.committer.dispatch config answers command).acks command, attempt.ending⟩,
        log.closed, log.strays⟩ := by
  simp only [perform, opening_none noOpening, current, goesOn, Bool.false_eq_true, if_false]

theorem perform_ending {command : DiskCommitMsg} (noOpening : opensTransfer command = none)
    {attempt : Attempt} (current : log.current = some attempt) (ends : attempt.endsWith command = true)
    (answers : DiskAnswers) :
    log.perform config (command, answers) =
      ⟨(log.committer.dispatch config answers command).state, none,
        log.closed ++ [⟨attempt.key, attempt.size, attempt.reports ++
          committerReports (log.committer.dispatch config answers command).acks command,
          some (command, answers)⟩], log.strays⟩ := by
  simp only [perform, opening_none noOpening, current, ends, if_true]

/-- A begin command on a free slot starts an attempt. -/
theorem Tracks.opened (tracks : log.Tracks config none) {command : DiskCommitMsg} {key : TransferKey}
    (opening : opensTransfer command = some key) (answers : DiskAnswers) :
    (log.perform config (command, answers)).Tracks config (some key) := by
  obtain ⟨opened, opens, named, unended⟩ := opening_of_opens opening
  obtain ⟨idle, inactive⟩ := tracks.free rfl
  have settled := @FileCommitState.dispatch_settled config answers log.committer tracks.settled command
  have size := @FileCommitState.opening_size config answers log.committer command opened opens
    (FileCommitState.active_none inactive)
  have disposal := @FileCommitState.opening_disposes config answers log.committer command key tracks.settled
    opening inactive
  rw [perform_opening opens, idle, Option.toList_none, List.append_nil]
  generalize log.committer.dispatch config answers command = committed at settled size disposal ⊢
  refine ⟨settled, nofun, fun other same => ⟨_, rfl, ?_, unended, ?_⟩, tracks.closed, tracks.strays⟩
  · exact named.trans (Option.some.inj same)
  · obtain ⟨active, silent⟩ | ⟨reason, failed, reported⟩ := disposal
    · obtain ⟨file, writing, sameKey⟩ := FileCommitState.active_of_key active
      exact .writing writing (sameKey.trans named.symm) (size file writing) (by simp [silent])
    · refine .failed failed reason ?_
      rw [reported, named]
      exact committerReports_outcome _ _ (.inr (.inl (by simp [opening])))

/-- A data command keeps the attempt going. -/
theorem Tracks.data (tracks : log.Tracks config held) {command : DiskCommitMsg}
    (data : carriesData command = true) (answers : DiskAnswers) :
    (log.perform config (command, answers)).Tracks config held := by
  obtain ⟨noOpening, noCommit, noEnd⟩ := FileCommitState.data_neutral data
  have settled := @FileCommitState.dispatch_settled config answers log.committer tracks.settled command
  have keepsSize := @FileCommitState.data_size config answers log.committer command data
  have disposal := @FileCommitState.data_disposes config answers log.committer command tracks.settled data
  cases held with
  | none =>
      obtain ⟨idle, inactive⟩ := tracks.free rfl
      obtain ⟨same, silent⟩ | ⟨key, _, active, _⟩ := disposal
      · rw [perform_idle noOpening idle, silent, committerReports_silent, List.append_nil]
        exact ⟨settled, fun _ => ⟨rfl, same.trans inactive⟩, nofun, tracks.closed, tracks.strays⟩
      · rw [inactive] at active
        cases active
  | some key =>
      obtain ⟨attempt, current, named, unended, progress⟩ := tracks.busy key rfl
      have goesOn : attempt.endsWith command = false := by
        simp [Attempt.endsWith, commitsNdx_none noCommit, noEnd]
      rw [perform_extending noOpening current goesOn]
      generalize log.committer.dispatch config answers command = committed at settled keepsSize disposal ⊢
      refine ⟨settled, nofun, fun other same => ⟨_, rfl, ?_, unended, ?_⟩, tracks.closed, tracks.strays⟩
      · exact named.trans (Option.some.inj same)
      · cases progress with
        | writing active fileKey size quiet =>
            have holds : log.committer.key = some attempt.key := by
              rw [FileCommitState.key, active, Option.map_some, fileKey]
            obtain ⟨kept, silent⟩ | ⟨broken, reason, wrote, inactive, reported⟩ := disposal
            · obtain ⟨later, writing, laterKey⟩ := FileCommitState.active_of_key (kept.trans holds)
              obtain ⟨earlier, before, sameSize⟩ := keepsSize later writing
              cases active.symm.trans before
              exact .writing writing laterKey (sameSize.trans size) (by simp [quiet, silent])
            · cases holds.symm.trans wrote
              refine .failed inactive reason ?_
              rw [quiet, reported, List.nil_append]
              exact committerReports_outcome _ _ (.inl data)
        | failed inactive reason reported =>
            obtain ⟨kept, silent⟩ | ⟨broken, _, wrote, _⟩ := disposal
            · exact .failed (kept.trans inactive) reason (by simp [silent, reported])
            · rw [inactive] at wrote
              cases wrote

/-- A commit of the attempt's transfer ends it with exactly one report. -/
theorem Tracks.committed {key : TransferKey} (tracks : log.Tracks config (some key)) {command : DiskCommitMsg}
    (committing : commitsTransfer command = some key) (answers : DiskAnswers) :
    (log.perform config (command, answers)).Tracks config none := by
  obtain ⟨noData, noOpening, noEnd⟩ := FileCommitState.committing_neutral committing
  obtain ⟨attempt, current, named, unended, progress⟩ := tracks.busy key rfl
  have settled := @FileCommitState.dispatch_settled config answers log.committer tracks.settled command
  have disposal := @FileCommitState.committing_disposes config answers log.committer command key
    tracks.settled committing
  have success (file : ActiveFile) (active : log.committer.active = some file) (ndx : Ndx) :=
    @FileCommitState.dispatch_success config answers log.committer file active command key committing ndx
  have ends : attempt.endsWith command = true := by
    simp [Attempt.endsWith, commitsNdx_of_commits committing, named]
  rw [perform_ending noOpening current ends]
  generalize log.committer.dispatch config answers command = committed at settled disposal success ⊢
  have finished {reports : List (Ndx × FileOutcome)} (inactive : committed.state.key = none)
      (ended : Attempt.Settled config ⟨attempt.key, attempt.size, reports, some (command, answers)⟩) :
      AttemptLog.Tracks config none ⟨committed.state, none,
        log.closed ++ [⟨attempt.key, attempt.size, reports, some (command, answers)⟩], log.strays⟩ := by
    refine ⟨settled, fun _ => ⟨rfl, inactive⟩, nofun, fun other member => ?_, tracks.strays⟩
    obtain closed | last := List.mem_append.mp member
    · exact tracks.closed other closed
    · cases List.mem_singleton.mp last
      exact ⟨ended, rfl⟩
  obtain ⟨active, inactive, outcome, reported⟩ | ⟨other, same, silent⟩ := disposal
  · cases progress with
    | failed idle _ _ =>
        rw [idle] at active
        cases active
    | @writing file writing _ size quiet =>
        rw [quiet, List.nil_append, reported, committerReports_outcome _ _ (.inr (.inr (by simp [committing])))]
        refine finished inactive ⟨Nat.le_refl 1, ?_, fun _ _ _ _ => rfl, ?_⟩
        · simp [named]
        · intro report member succeeded
          cases List.mem_singleton.mp member
          obtain rfl : outcome = .success := succeeded
          obtain ⟨length, digest⟩ := success file writing key.ndx reported
          exact ⟨command, answers, rfl, length.trans size, digest⟩
  · cases progress with
    | writing active fileKey _ _ =>
        refine absurd ?_ other
        rw [FileCommitState.key, active, Option.map_some, fileKey, named]
    | failed idle reason reported =>
        rw [silent, committerReports_silent, List.append_nil, reported]
        exact finished (same.trans idle)
          ⟨Nat.le_refl 1, by simp, fun _ _ _ _ => rfl, by simp⟩

/-- An abort ends the attempt, if there is one, without a report of its own. -/
theorem Tracks.aborted (tracks : log.Tracks config held) {command : DiskCommitMsg}
    (ending : endsTransfer command = true) (answers : DiskAnswers) :
    (log.perform config (command, answers)).Tracks config none := by
  have quiet : opensTransfer command = none ∧ commitsNdx command = none ∧
      log.committer.dispatch config answers command = FileCommitState.abort log.committer := by
    cases command with
    | abortFile => exact ⟨rfl, rfl, rfl⟩
    | shutdown => exact ⟨rfl, rfl, rfl⟩
    | _ => cases ending
  obtain ⟨noOpening, noCommit, dispatched⟩ := quiet
  cases held with
  | none =>
      obtain ⟨idle, -⟩ := tracks.free rfl
      rw [perform_idle noOpening idle, dispatched]
      simp only [FileCommitState.abort, committerReports_silent, List.append_nil]
      exact ⟨by simp, fun _ => ⟨rfl, rfl⟩, by simp, tracks.closed, tracks.strays⟩
  | some key =>
      obtain ⟨attempt, current, -, -, progress⟩ := tracks.busy key rfl
      have ends : attempt.endsWith command = true := by simp [Attempt.endsWith, ending]
      rw [perform_ending noOpening current ends, dispatched]
      simp only [FileCommitState.abort, committerReports_silent, List.append_nil]
      refine ⟨by simp, fun _ => ⟨rfl, rfl⟩, by simp, fun other member => ?_, tracks.strays⟩
      obtain closed | last := List.mem_append.mp member
      · exact tracks.closed other closed
      · cases List.mem_singleton.mp last
        refine ⟨@Attempt.Progress.settled log.committer _ ?_ config ?_, rfl⟩
        · cases progress with
          | writing active fileKey size silent => exact .writing active fileKey size silent
          | failed inactive reason reported => exact .failed inactive reason reported
        · intro other answered same
          cases same
          exact noCommit

/-- A delete marker is reported apart from the attempts. -/
theorem Tracks.marked (tracks : log.Tracks config held) (ndx : Ndx) (item : ObservedItem)
    (answers : DiskAnswers) :
    (log.perform config (.writeDeleteMarker ndx item, answers)).Tracks config held := by
  have kept : (log.committer.dispatch config answers (.writeDeleteMarker ndx item)).state = log.committer := by
    simp only [FileCommitState.dispatch, FileCommitState.writeDeleteMarker]
    split <;> rfl
  cases current : log.current with
  | none =>
      rw [perform_idle rfl current, kept]
      simp only [committerReports, List.append_nil]
      rwa [← current]
  | some attempt =>
      rw [perform_extending rfl current rfl, kept]
      simp only [committerReports, List.append_nil]
      rwa [← current]

theorem Tracks.dataAll (tracks : log.Tracks config held) {script : List (DiskCommitMsg × DiskAnswers)}
    (data : ∀ step ∈ script, carriesData step.1 = true) :
    (log.performAll config script).Tracks config held := by
  induction script generalizing log with
  | nil => exact tracks
  | cons step rest ih =>
      obtain ⟨first, later⟩ := List.forall_mem_cons.mp data
      exact ih (tracks.data first step.2) later

end AttemptLog

/-! ## The session -/

def slotOf : Option TransferKey → ActiveTransfer
  | none => .idle
  | some key => slotFor key.ndx key.mode

theorem slotOf_idle {held : Option TransferKey} (idle : slotOf held = .idle) : held = none := by
  cases held with
  | none => rfl
  | some key => cases mode : key.mode <;> simp [slotOf, slotFor, mode] at idle

theorem slotOf_slotFor {held : Option TransferKey} {ndx : Ndx} {mode : FileTransferMode}
    (same : slotOf held = slotFor ndx mode) : ∃ path, held = some ⟨ndx, path, mode⟩ := by
  cases held with
  | none => cases mode <;> cases same
  | some key =>
      obtain ⟨heldNdx, path, heldMode⟩ := key
      refine ⟨path, ?_⟩
      cases heldMode <;> cases mode <;> cases same <;> rfl

/-- The log follows the transfer slot, and the session still has the path under which the
transfer was opened. -/
structure Holds (config : SessionConfig) (session : RemoteSessionState) (held : Option TransferKey)
    (log : AttemptLog) : Prop where
  tracks : log.Tracks config held
  slot : session.activeTransfer = slotOf held
  path : ∀ key, held = some key → IssuingSession.indexedPath session key.ndx = some key.path

theorem singleton_script {script : List (DiskCommitMsg × DiskAnswers)} {command : DiskCommitMsg}
    (serves : script.map Prod.fst = [command]) : ∃ answers, script = [(command, answers)] := by
  obtain ⟨step, rfl, rfl⟩ := List.map_eq_singleton_iff.mp serves
  exact ⟨step.2, rfl⟩

variable {config : ReceiverConfig} {session : RemoteSessionState} {held : Option TransferKey}
  {log : AttemptLog}

namespace Holds

/-- An abort leaves no transfer, whatever session it leaves. -/
theorem aborted (holds : Holds config.session session held log) {command : DiskCommitMsg}
    (ending : endsTransfer command = true) {script : List (DiskCommitMsg × DiskAnswers)}
    (serves : script.map Prod.fst = [command]) {after : RemoteSessionState}
    (idle : after.activeTransfer = .idle) :
    Holds config.session after none (log.performAll config.session script) := by
  obtain ⟨answers, rfl⟩ := singleton_script serves
  exact ⟨holds.tracks.aborted ending answers, idle, nofun⟩

/-- Without commands a session that keeps its slot keeps its transfer. -/
theorem unchanged (holds : Holds config.session session held log) {after : RemoteSessionState}
    (slot : after.activeTransfer = session.activeTransfer)
    (paths : ∀ ndx ∈ session.activeTransfer.ndx,
      IssuingSession.indexedPath after ndx = IssuingSession.indexedPath session ndx)
    {later : AttemptLog} (tracks : later.Tracks config.session held) :
    Holds config.session after held later where
  tracks := tracks
  slot := slot.trans holds.slot
  path := by
    intro key same
    subst same
    rw [paths key.ndx (by rw [holds.slot]; simp [slotOf]), holds.path key rfl]

theorem reacts (holds : Holds config.session session held log) {message : SenderMsg}
    {after : RemoteSessionState} {effects : Effects} (reaction : session.Reacts message after effects)
    (paths : ∀ ndx ∈ session.activeTransfer.ndx,
      IssuingSession.indexedPath after ndx = IssuingSession.indexedPath session ndx)
    (pageless : pageOf message = none →
      ∀ ndx, IssuingSession.indexedPath after ndx = IssuingSession.indexedPath session ndx)
    {script : List (DiskCommitMsg × DiskAnswers)} (serves : script.map Prod.fst = effects.commands) :
    ∃ later, Holds config.session after later (log.performAll config.session script) := by
  rw [RemoteSessionState.Reacts] at reaction
  generalize commandsEq : effects.commands = commands at reaction serves
  generalize slotEq : after.activeTransfer = slot at reaction
  generalize after.ledger.terminatedNdx = terminated at reaction
  cases reaction with
  | kept _ _ data =>
      refine ⟨held, holds.unchanged slotEq paths (holds.tracks.dataAll fun step member => ?_)⟩
      exact data step.1 (serves ▸ List.mem_map_of_mem member)
  | @opened item key first rest payload _ idle indexed path opens data =>
      obtain rfl := slotOf_idle (holds.slot.symm.trans idle)
      obtain ⟨⟨command, answers⟩, later, rfl, rfl, restEq⟩ := List.map_eq_cons_iff.mp serves
      have begun := holds.tracks.opened opens answers
      refine ⟨some key, begun.dataAll fun step member => ?_, slotEq, fun other same => ?_⟩
      · exact data step.1 (restEq ▸ List.mem_map_of_mem member)
      · cases same
        have noPage : pageOf message = none := by cases message <;> first | rfl | cases payload
        rw [pageless noPage, IssuingSession.indexedPath, indexed, Option.map_some, path]
  | @committed item key commit sourceHash _ _ active indexed path commits =>
      obtain ⟨heldPath, rfl⟩ := slotOf_slotFor (holds.slot.symm.trans active)
      have same : key = ⟨key.ndx, heldPath, key.mode⟩ := by
        have known := holds.path _ rfl
        rw [IssuingSession.indexedPath, indexed, Option.map_some, path] at known
        obtain rfl : key.path = heldPath := Option.some.inj known
        rfl
      obtain ⟨answers, rfl⟩ := singleton_script serves
      exact ⟨none, holds.tracks.committed (commits.trans (congrArg some same)) answers, slotEq, fun _ absent => absurd absent.symm (Option.some_ne_none _)⟩
  | @reopened item key first commit sourceHash _ _ idle _ _ opens commits =>
      obtain rfl := slotOf_idle (holds.slot.symm.trans idle)
      obtain ⟨⟨command, answers⟩, later, rfl, rfl, restEq⟩ := List.map_eq_cons_iff.mp serves
      obtain ⟨lastAnswers, rfl⟩ := singleton_script restEq
      exact ⟨none, (holds.tracks.opened opens answers).committed commits lastAnswers, slotEq,
        fun _ absent => absurd absent.symm (Option.some_ne_none _)⟩
  | @marked ndx item _ _ =>
      obtain ⟨answers, rfl⟩ := singleton_script serves
      exact ⟨held, holds.unchanged slotEq paths (holds.tracks.marked ndx item answers)⟩
  | aborted _ _ => exact ⟨none, holds.aborted rfl serves slotEq⟩
  | dropped _ _ | unmarked _ _ | failed _ _ =>
      cases List.map_eq_nil_iff.mp serves
      exact ⟨held, holds.unchanged slotEq paths holds.tracks⟩

/-- One message, when no page moves the index that is being transferred. -/
theorem message (holds : Holds config.session session held log) (message : SenderMsg)
    (answers : MessageAnswers)
    (keeps : ∀ page ∈ pageOf message, ∀ ndx ∈ session.activeTransfer.ndx,
      IssuingSession.indexedPath (session.ingestPage page) ndx = IssuingSession.indexedPath session ndx)
    {script : List (DiskCommitMsg × DiskAnswers)}
    (serves : script.map Prod.fst = (session.handle config answers message).effects.commands) :
    ∃ later, Holds config.session (session.handle config answers message).session later
      (log.performAll config.session script) := by
  by_cases unindexed : ∃ path reason, message = .entryError path reason none
  · obtain ⟨path, reason, rfl⟩ := unindexed
    exact ⟨none, holds.aborted rfl serves rfl⟩
  · have indexed : ∀ path reason, message ≠ .entryError path reason none :=
      fun path reason same => unindexed ⟨path, reason, same⟩
    have reaction := session.handle_reacts config answers indexed
    have table := (session.handle_accounts config answers indexed).table
    refine holds.reacts reaction (fun ndx active => ?_) (fun noPage ndx => ?_) serves
    · cases paged : pageOf message with
      | none =>
          simp only [IssuingSession.indexedPath, RemoteSessionState.indexedEntry, table,
            RemoteSessionState.tableAfter, paged]
      | some page =>
          rw [← keeps page paged ndx active]
          simp only [IssuingSession.indexedPath, RemoteSessionState.indexedEntry, table,
            RemoteSessionState.tableAfter, paged, RemoteSessionState.ingestPage]
    · simp only [IssuingSession.indexedPath, RemoteSessionState.indexedEntry, table,
        RemoteSessionState.tableAfter, noPage]

end Holds

namespace IssuingSession

/-- However the destination answers the commands sent so far, their log is exact, and it
follows the slot until the shutdown. -/
def Follows (config : ReceiverConfig) (issuing : IssuingSession) : Prop :=
  ∀ script : List (DiskCommitMsg × DiskAnswers), script.map Prod.fst = issuing.issued →
    (AttemptLog.new.performAll config.session script).Exact config.session ∧
      (issuing.shutDown = false →
        ∃ held, Holds config.session issuing.session held (AttemptLog.new.performAll config.session script))

theorem follows_new (config : ReceiverConfig) (credit : ReceiverCreditState) : (new credit).Follows config := by
  intro script serves
  cases List.map_eq_nil_iff.mp serves
  exact ⟨(AttemptLog.tracks_new config.session).exact,
    fun _ => ⟨none, AttemptLog.tracks_new config.session, rfl, nofun⟩⟩

/-- A step that keeps the transfer tracked keeps the log exact. -/
theorem Follows.issue {issuing : IssuingSession} (follows : issuing.Follows config)
    (running : issuing.shutDown = false) {after : RemoteSessionState} {effects : Effects}
    (tracked : ∀ {held log}, Holds config.session issuing.session held log →
      ∀ {script : List (DiskCommitMsg × DiskAnswers)}, script.map Prod.fst = effects.commands →
        ∃ later, Holds config.session after later (log.performAll config.session script)) :
    (issuing.issue after effects).Follows config := by
  intro script serves
  obtain ⟨first, second, rfl, before, added⟩ := List.map_eq_append_iff.mp serves
  obtain ⟨held, holds⟩ := (follows first before).2 running
  obtain ⟨later, holdsAfter⟩ := tracked holds added
  rw [AttemptLog.performAll, List.foldl_append]
  exact ⟨holdsAfter.tracks.exact, fun _ => ⟨later, holdsAfter⟩⟩

/-- An outcome sends no command and moves neither the slot nor the index table. -/
theorem handleAck_frame (session : RemoteSessionState) (ack : DcAck) :
    (session.handleAck ack).effects.commands = [] ∧
      (session.handleAck ack).session.activeTransfer = session.activeTransfer ∧
      (session.handleAck ack).session.ndxTable = session.ndxTable := by
  cases ack with
  | entry ack => exact ⟨rfl, rfl, rfl⟩
  | fileOutcome ndx outcome =>
      obtain ⟨-, acknowledged⟩ := session.handleFileOutcome_settles ndx outcome
      exact ⟨acknowledged.commands, acknowledged.activeTransfer, acknowledged.table⟩

theorem Follows.accept {issuing : IssuingSession} (follows : issuing.Follows config)
    (running : issuing.shutDown = false) (input : SessionInput) (keeps : issuing.KeepsPath input) :
    (issuing.accept config input).Follows config := by
  cases input with
  | message message answers =>
      exact follows.issue running fun holds _ serves => holds.message message answers keeps serves
  | outcome ack =>
      obtain ⟨silent, slot, table⟩ := handleAck_frame issuing.session ack
      refine follows.issue running fun {held log} holds script serves => ?_
      cases List.map_eq_nil_iff.mp (serves.trans silent)
      refine ⟨held, holds.unchanged slot (fun ndx _ => ?_) holds.tracks⟩
      simp only [indexedPath, RemoteSessionState.indexedEntry, table]
  | abort => exact follows.issue running fun holds _ serves => ⟨none, holds.aborted rfl serves rfl⟩
  | shutdown =>
      intro script serves
      obtain ⟨first, second, rfl, before, added⟩ := List.map_eq_append_iff.mp serves
      obtain ⟨held, holds⟩ := (follows first before).2 running
      obtain ⟨answers, rfl⟩ := singleton_script added
      have ended : endsTransfer .shutdown = true := rfl
      rw [AttemptLog.performAll, List.foldl_append]
      exact ⟨(holds.tracks.aborted ended answers).exact, nofun⟩

theorem Follows.step {issuing next : IssuingSession} {input : SessionInput} (follows : issuing.Follows config)
    (keeps : issuing.KeepsPath input) (stepped : (machine config).step issuing input = some next) :
    next.Follows config := by
  simp only [machine] at stepped
  split at stepped
  · cases stepped
  · next running =>
      cases stepped
      exact follows.accept (by simpa using running) input keeps

/-- While pages keep the path of the index being transferred, every attempt that a commit
ends is reported exactly once and every other at most once, under its own index; a
success has the declared length and the digest that was sent. -/
theorem commit_attempts_exact {credit : ReceiverCreditState} {inputs : List SessionInput}
    {final : IssuingSession} (run : (machine config).exec (new credit) inputs = some final)
    (keeps : (machine config).Along KeepsPath (new credit) inputs)
    {script : List (DiskCommitMsg × DiskAnswers)} (serves : script.map Prod.fst = final.issued) :
    (AttemptLog.new.performAll config.session script).Exact config.session :=
  (Lib.Machine.exec_invariant_along (fun follows kept stepped => Follows.step follows kept stepped)
    (follows_new config credit) keeps run script serves).1

/-! ### A transfer of one byte -/

def checkingConfig : ReceiverConfig where
  session := { SessionConfig.plain with enableIntegrityCheck := true }
  keepsHistory := false
  holdsDirectoryObjects := false
  copiedTagsRequired := .ok false
  delta := false
  deltaSizeThreshold := 0
  blake3Truncated := fun _ => .replicate 16 0
  decodesAcl := fun _ => false

/-- A page that gives index 0 to a file of one byte. -/
def pageNaming (name : Char) : DirPageResult where
  dirPath := []
  ndxStart := 0
  files := [⟨0, .ofEntry (.new [name] .file (some 1) none .local none)⟩]
  subdirs := []
  gapNdx := 1

def noFailure : ItemAnswers := ⟨none, none, none, .ok []⟩

def plainAnswers : MessageAnswers :=
  ⟨⟨.ok [], fun _ => noFailure, fun _ => noFailure, fun _ => none⟩, none⟩

/-- Index 0 is advertised as `a`, and again as `second` while it is being transferred. -/
def advertisedTwice (second : Char) : List SessionInput :=
  [.message (.filePage (pageNaming 'a')) plainAnswers, .message (.fileBegin 0) plainAnswers,
    .message (.fileData 0 ⟨0, [7]⟩) plainAnswers, .message (.filePage (pageNaming second)) plainAnswers,
    .message (.endOfFile 0 (some ['h'])) plainAnswers]

def byteAnswers : DiskAnswers where
  createDir := none
  createSymlink := none
  writeDeleteMarker := none
  plan := none
  observe := .ok 0
  prepare := none
  readBasis := fun _ _ => .ok []
  takesBasis := true
  takesData := true
  writeError := none
  receivedSize := 1
  inputEnded := true
  receivedHash := ['h']
  publish := none

theorem commit_attempts_exact_same_path : ∃ final,
    (machine checkingConfig).exec (new ⟨50, 0⟩) (advertisedTwice 'a') = some final ∧
      (AttemptLog.new.performAll checkingConfig.session
        (final.issued.map fun command => (command, byteAnswers))).Exact checkingConfig.session :=
  ⟨_, rfl, @commit_attempts_exact checkingConfig ⟨50, 0⟩ (advertisedTwice 'a') _ rfl (by decide) _
    (by simp [List.map_map, Function.comp_def])⟩

/-- The commit names `b`, the open file is `a`: the attempt ends without an outcome. -/
theorem commit_of_renamed_index_unreported : ∃ final,
    (machine checkingConfig).exec (new ⟨50, 0⟩) (advertisedTwice 'b') = some final ∧
      ∃ attempt, (AttemptLog.new.performAll checkingConfig.session
          (final.issued.map fun command => (command, byteAnswers))).closed = [attempt] ∧
        (∃ command answers, attempt.ending = some (command, answers) ∧
          commitsNdx command = some attempt.key.ndx) ∧
        attempt.reports = [] :=
  ⟨_, rfl, _, rfl, ⟨_, _, rfl, rfl⟩, rfl⟩

end IssuingSession

end Terrasync.App
