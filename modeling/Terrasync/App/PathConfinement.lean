import Terrasync.App.Receiver

/-! Which writes of a receiver go to paths that were validated. The condition on a step is
what its unguarded sites rely on: metadata and directories of a page, ACLs, delete markers
and the marker objects of directories. -/

set_option autoImplicit false

namespace Terrasync.App

open Transport

/-- A write that stays below the destination. Deletions name what the destination listed. -/
def Mutation.Confined (mutation : Mutation) : Prop :=
  mutation.operation = .delete ∨ mutation.path.validate = true

def AllConfined (mutations : List Mutation) : Prop := ∀ mutation ∈ mutations, mutation.Confined

@[simp] theorem allConfined_nil : AllConfined [] := List.forall_mem_nil _

@[simp] theorem allConfined_append (first second : List Mutation) :
    AllConfined (first ++ second) ↔ AllConfined first ∧ AllConfined second := List.forall_mem_append

@[simp] theorem allConfined_singleton (operation : Operation) (path : RelativePath) :
    AllConfined [⟨operation, path⟩] ↔ operation = .delete ∨ path.validate = true := by
  simp [AllConfined, Mutation.Confined]

@[simp] theorem allConfined_write (operation : Operation) (path : RelativePath) (replies : List ReceiverMsg) :
    AllConfined (Effects.write operation path replies).mutations ↔
      operation = .delete ∨ path.validate = true := allConfined_singleton operation path

/-! ### Conditions -/

/-- The metadata of an entry is written to a validated path. -/
def MetadataGuarded (entry : ObservedEntry) : Prop := (metadataPath entry).validate = true

def FileGuarded (config : ReceiverConfig) (index : DestIndex) (item : ObservedItem) : Prop :=
  match RemoteSessionState.fileStep config index item with
  | .createsDirectory => item.entry.path.validate = true
  | .decided .metadataOnly => MetadataGuarded item.entry
  | .decided _ | .ignored => True

/-- The files of a page; a directory that cannot be created ends the page. -/
def FilesGuarded (config : ReceiverConfig) (answers : Nat → ItemAnswers) (position : Nat)
    (index : DestIndex) : List NdxEntry → Prop
  | [] => True
  | numbered :: rest =>
      FileGuarded config index numbered.entry ∧
        (RemoteSessionState.fileStep config index numbered.entry = .createsDirectory ∧
            (answers position).createDir.isSome = true ∨
          FilesGuarded config answers (position + 1) (RemoteSessionState.fileMarked index numbered.entry) rest)

def MessageGuarded (config : ReceiverConfig) (answers : MessageAnswers) : SenderMsg → Prop
  | .filePage page =>
      ∀ listing, answers.page.listing = .ok listing →
        FilesGuarded config answers.page.file 0 (destinationIndex listing) page.files
  | .createDir entry => entry.path.validate = true → MetadataGuarded entry
  | .setAcl entry aclData =>
      config.session.enableAcl = true → config.decodesAcl aclData = true → entry.path.validate = true
  | _ => True

/-- A file that the committer would begin to write. -/
def BeginGuarded (answers : DiskAnswers) (state : FileCommitState) (entry : ObservedItem)
    (deltaBlockSize : Option UInt32) : Prop :=
  match state with
  | .fullActive _ | .deltaActive _ | .committing => True
  | .idle | .failed | .completed =>
      entry.entry.path.validate = true → answers.plan = none →
        ∀ size, FileCommitState.basisSize answers entry deltaBlockSize = .ok size →
          (payloadPath entry).validate = true

def CommandGuarded (answers : DiskAnswers) (state : FileCommitState) : DiskCommitMsg → Prop
  | .createDir entry => entry.path.validate = true ∧ MetadataGuarded entry
  | .createSymlink entry _ => entry.path.validate = true
  | .writeDeleteMarker _ entry => answers.plan = none → entry.entry.path.validate = true
  | .fileBegin _ entry => BeginGuarded answers state entry none
  | .deltaBegin _ entry blockSize => BeginGuarded answers state (.ofEntry entry) (some blockSize)
  | _ => True

def ActionGuarded (config : ReceiverConfig) (receiver : Receiver) : ReceiverAction → Prop
  | .deliver message answers => MessageGuarded config answers message
  | .commit answers => ∀ command ∈ receiver.commands.head?, CommandGuarded answers receiver.committer command
  | .drain => ∀ entry ∈ receiver.session.createdDirs, MetadataGuarded entry
  | .disconnect | .acknowledge => True

/-! ### The disk-commit task -/

namespace FileCommitState

variable {config : SessionConfig} {answers : DiskAnswers} {state : FileCommitState}

theorem begin_confined (ndx : Ndx) (entry : ObservedItem) (deltaBlockSize : Option UInt32) :
    AllConfined (begin answers state ndx entry deltaBlockSize).mutations ↔
      BeginGuarded answers state entry deltaBlockSize := by
  have prepared : AllConfined (prepare answers ndx entry deltaBlockSize).mutations ↔
      (entry.entry.path.validate = true → answers.plan = none →
        ∀ size, basisSize answers entry deltaBlockSize = .ok size →
          (payloadPath entry).validate = true) := by
    rw [prepare]
    cases safe : entry.entry.path.validate with
    | false => simp [fail]
    | true =>
        cases basis : basisSize answers entry deltaBlockSize with
        | error reason => simp [fail]
        | ok size =>
            cases planned : answers.plan with
            | some reason => simp [fail]
            | none =>
                cases prepared : answers.prepare with
                | some reason => simp [fail]
                | none => simp
  cases state with
  | idle | failed | completed => exact prepared
  | fullActive active | deltaActive active | committing => simp [begin, ignore, BeginGuarded]

theorem pushFull_silent (ndx : Ndx) (chunk : DataChunk) : (pushFull answers state ndx chunk).mutations = [] := by
  cases state with
  | fullActive active =>
      simp only [pushFull]
      split
      · rfl
      · split <;> rfl
  | _ => rfl

theorem pushDelta_silent (entry : ObservedEntry) (token : SyncDelta.DeltaToken) :
    (pushDelta answers state entry token).mutations = [] := by
  cases state with
  | deltaActive active =>
      simp only [pushDelta]
      split
      · rfl
      · split
        · rfl
        · split
          · rfl
          · split
            · rfl
            · split <;> rfl
  | _ => rfl

theorem commit_silent (ndx : Ndx) (entry : ObservedEntry) (sourceHash : Option SourceHash)
    (mode : FileTransferMode) : (commit config answers state ndx entry sourceHash mode).mutations = [] := by
  have settled (active : ActiveFile) : (settle config answers ndx active sourceHash).mutations = [] := by
    simp only [settle]
    split <;> rfl
  cases state with
  | fullActive active =>
      simp only [commit]
      split
      · exact settled active
      · rfl
  | deltaActive active =>
      simp only [commit]
      split
      · split
        · rfl
        · exact settled _
      · rfl
  | _ => rfl

theorem dispatch_confined (command : DiskCommitMsg) :
    AllConfined (dispatch config answers state command).mutations ↔ CommandGuarded answers state command := by
  cases command with
  | createDir entry =>
      simp [dispatch, createDir, AllConfined, Mutation.Confined, CommandGuarded, MetadataGuarded]
  | createSymlink entry target => simp [dispatch, createSymlink, CommandGuarded]
  | writeDeleteMarker ndx entry =>
      cases planned : answers.plan <;> cases written : answers.writeDeleteMarker <;>
        simp [dispatch, writeDeleteMarker, CommandGuarded, planned, written]
  | fileBegin ndx entry => exact begin_confined ndx entry none
  | deltaBegin ndx entry blockSize => exact begin_confined ndx (.ofEntry entry) (some blockSize)
  | fileChunk ndx chunk => simp [dispatch, pushFull_silent, CommandGuarded]
  | deltaMatch entry blockIndex => simp [dispatch, pushDelta_silent, CommandGuarded]
  | deltaData entry data => simp [dispatch, pushDelta_silent, CommandGuarded]
  | fileCommit ndx entry sourceHash => simp [dispatch, commit_silent, CommandGuarded]
  | deltaCommit ndx entry sourceHash => simp [dispatch, commit_silent, CommandGuarded]
  | abortFile => simp [dispatch, abort, CommandGuarded]
  | shutdown => simp [dispatch, abort, CommandGuarded]

end FileCommitState

/-! ### The receive loop -/

namespace RemoteSessionState

variable {config : ReceiverConfig}

/-- Directories that get their metadata at the end were validated when they were created. -/
def DirsConfined (session : RemoteSessionState) : Prop :=
  ∀ entry ∈ session.createdDirs, entry.path.validate = true

/-- A handler that writes nothing and creates no directory. -/
structure Silent (session after : RemoteSessionState) (effects : Effects) : Prop where
  dirs : after.createdDirs = session.createdDirs
  writes : effects.mutations = []

theorem accepted_silent {session middle : RemoteSessionState} {effects : Effects} (bytes : Nat)
    (silent : Silent session middle effects) :
    Silent session (middle.accepted effects bytes).session (middle.accepted effects bytes).effects := by
  simp only [accepted]
  split
  · exact silent
  · exact ⟨silent.dirs, silent.writes⟩
  · exact ⟨silent.dirs, by simp [Effects.append, silent.writes, Effects.reply]⟩

theorem stopOnCredit_silent {session : RemoteSessionState} {handled : Handled (Except TransportError Bool)}
    (silent : Silent session handled.session handled.effects) :
    Silent session (stopOnCredit handled).session (stopOnCredit handled).effects := by
  simp only [stopOnCredit]
  split <;> exact silent

theorem acceptFullChunk_silent (session : RemoteSessionState) (ndx : Ndx) (chunk : DataChunk) :
    Silent session (session.acceptFullChunk ndx chunk).session
      (session.acceptFullChunk ndx chunk).effects := by
  simp only [acceptFullChunk, pushFullChunk]
  split
  · exact accepted_silent chunk.data.length ⟨rfl, rfl⟩
  · exact ⟨rfl, rfl⟩

theorem ensureDeltaActive_silent (session : RemoteSessionState) (ndx : Ndx) (entry : ObservedEntry) :
    Silent session (session.ensureDeltaActive ndx entry).session
      (session.ensureDeltaActive ndx entry).effects := by
  simp only [ensureDeltaActive]
  split
  · exact ⟨rfl, rfl⟩
  · split <;> exact ⟨rfl, rfl⟩

theorem forwardDelta_silent (session : RemoteSessionState) (ndx : Ndx) (entry : ObservedEntry)
    (command : DiskCommitMsg) :
    Silent session (session.forwardDelta ndx entry command).session
      (session.forwardDelta ndx entry command).effects := by
  have ensured := session.ensureDeltaActive_silent ndx entry
  simp only [forwardDelta]
  split
  · exact ⟨ensured.dirs, by simp [Effects.append, Effects.command, ensured.writes]⟩
  · exact ensured

theorem acceptDeltaData_silent (session : RemoteSessionState) (ndx : Ndx) (entry : ObservedEntry)
    (data : SyncDelta.Bytes) :
    Silent session (session.acceptDeltaData ndx entry data).session
      (session.acceptDeltaData ndx entry data).effects := by
  have pushed := session.forwardDelta_silent ndx entry (.deltaData entry data)
  rw [acceptDeltaData, pushDeltaData]
  split
  · exact accepted_silent data.length pushed
  · exact pushed

theorem handleEndOfFile_silent (session : RemoteSessionState) (ndx : Ndx)
    (sourceHash : Option SourceHash) :
    Silent session (session.handleEndOfFile ndx sourceHash).session
      (session.handleEndOfFile ndx sourceHash).effects := by
  simp only [handleEndOfFile]
  split
  · exact ⟨rfl, rfl⟩
  · next item _ =>
      have ensured := session.ensureDeltaActive_silent ndx item.entry
      split
      · simp only [commitFull]
        split <;> exact ⟨rfl, rfl⟩
      · simp only [commitDelta]
        split
        · exact ⟨ensured.dirs, by simp [Effects.append, Effects.command, ensured.writes]⟩
        · exact ensured

theorem handleSourceFailure_silent (session : RemoteSessionState) (ndx : Option Ndx) :
    Silent session (session.handleSourceFailure ndx).session (session.handleSourceFailure ndx).effects := by
  cases ndx with
  | none => exact ⟨rfl, rfl⟩
  | some ndx =>
      simp only [handleSourceFailure]
      split <;> exact ⟨rfl, rfl⟩

theorem judge_dirs (session : RemoteSessionState) (ndx : Ndx) (outcome : FileOutcome) :
    (session.judge ndx outcome).1.createdDirs = session.createdDirs := by
  have again (reason : String) : (session.redoOrError ndx reason).1.createdDirs = session.createdDirs := by
    simp only [redoOrError]
    split <;> rfl
  cases outcome with
  | success => rfl
  | hardError reason => rfl
  | hashMismatch => exact again "hash mismatch"
  | sizeMismatch => exact again "size mismatch"

theorem handleAck_silent (session : RemoteSessionState) (ack : DcAck) :
    Silent session (session.handleAck ack).session (session.handleAck ack).effects := by
  cases ack with
  | entry ack => exact ⟨rfl, rfl⟩
  | fileOutcome ndx outcome =>
      have dirs := session.judge_dirs ndx outcome
      simp only [handleAck, handleFileOutcome]
      split
      · exact ⟨dirs, rfl⟩
      · split
        · exact ⟨dirs, rfl⟩
        · exact ⟨dirs, rfl⟩

theorem drainOutcomes_silent (session : RemoteSessionState) (acks : List DcAck) :
    Silent session (session.drainOutcomes acks).session (session.drainOutcomes acks).effects := by
  induction acks generalizing session with
  | nil => exact ⟨rfl, rfl⟩
  | cons ack rest ih =>
      have first := session.handleAck_silent ack
      have later := ih (session.handleAck ack).session
      simp only [drainOutcomes]
      exact ⟨later.dirs.trans first.dirs, by simp [Effects.append, first.writes, later.writes]⟩

theorem classify_confined (answers : ItemAnswers) (session : RemoteSessionState) (numbered : NdxEntry)
    (decision : TransferDecision) :
    (session.classify config answers numbered decision).session.createdDirs = session.createdDirs ∧
      (AllConfined (session.classify config answers numbered decision).effects.mutations ↔
        (decision = .metadataOnly → MetadataGuarded numbered.entry.entry)) := by
  cases decision with
  | metadataOnly =>
      cases written : answers.setMetadata <;>
        simp [classify, handleBaseClassification, written, MetadataGuarded]
  | deltaTransfer =>
      simp only [classify, handleBaseClassification, handleDeltaClassification, Bool.false_eq_true, if_false]
      split
      · simp [Effects.none]
      · split
        · simp [request, recordRequest, Effects.reply]
        · split
          · simp [request, recordRequest, Effects.reply]
          · split <;> simp [request, recordRequest, Effects.reply]
  | fullTransfer => simp [classify, handleBaseClassification, request, recordRequest, Effects.reply]
  | skip => simp [classify, handleBaseClassification, Effects.reply]
  | deleted => simp [classify, handleBaseClassification, handleDeltaClassification, Effects.none]

theorem handleFile_confined (answers : ItemAnswers) (session : RemoteSessionState) (index : DestIndex)
    (numbered : NdxEntry) :
    (session.handleFile config answers index numbered).session.createdDirs = session.createdDirs ∧
      (AllConfined (session.handleFile config answers index numbered).effects.mutations ↔
        FileGuarded config index numbered.entry) := by
  simp only [handleFile, FileGuarded]
  cases step : fileStep config index numbered.entry with
  | ignored => simp [Effects.none]
  | createsDirectory =>
      cases created : answers.createDir <;> simp
  | decided decision =>
      obtain ⟨dirs, confined⟩ := @classify_confined config answers session numbered decision
      refine ⟨dirs, confined.trans ?_⟩
      cases decision <;> simp

theorem handleFile_value (answers : ItemAnswers) (session : RemoteSessionState) (index : DestIndex)
    (numbered : NdxEntry) :
    (session.handleFile config answers index numbered).value.isSome = true ↔
      fileStep config index numbered.entry = .createsDirectory ∧ answers.createDir.isSome = true := by
  simp only [handleFile]
  cases step : fileStep config index numbered.entry with
  | ignored => simp
  | createsDirectory => cases created : answers.createDir <;> simp
  | decided decision => simp

theorem handleFiles_confined (answers : Nat → ItemAnswers) (position : Nat)
    (session : RemoteSessionState) (index : DestIndex) (files : List NdxEntry) :
    (session.handleFiles config answers position index files).session.createdDirs = session.createdDirs ∧
      (AllConfined (session.handleFiles config answers position index files).effects.mutations ↔
        FilesGuarded config answers position index files) := by
  induction files generalizing position session index with
  | nil => simp [handleFiles, Effects.none, FilesGuarded]
  | cons numbered rest ih =>
      obtain ⟨dirs, confined⟩ := @handleFile_confined config (answers position) session index numbered
      have value := @handleFile_value config (answers position) session index numbered
      simp only [handleFiles, FilesGuarded, ← confined, ← value]
      cases (session.handleFile config (answers position) index numbered).value with
      | some reason => simp [dirs]
      | none =>
          obtain ⟨later, rest⟩ := ih (position + 1)
            (session.handleFile config (answers position) index numbered).session
            (fileMarked index numbered.entry)
          exact ⟨later.trans dirs, by simp [Effects.append, rest]⟩

theorem handleSubdir_confined (answers : ItemAnswers) (session : RemoteSessionState) (index : DestIndex)
    (subdir : NdxEntry) (dirs : session.DirsConfined) :
    (session.handleSubdir config answers index subdir).session.DirsConfined ∧
      AllConfined (session.handleSubdir config answers index subdir).effects.mutations := by
  simp only [handleSubdir]
  split
  · exact ⟨dirs, allConfined_nil⟩
  · next safe =>
      have validated : subdir.entry.entry.path.validate = true := by simpa using safe
      split
      · split
        · split
          · exact ⟨dirs, allConfined_nil⟩
          · split
            · exact ⟨dirs, allConfined_nil⟩
            · exact ⟨dirs, allConfined_nil⟩
        · split
          · split <;> exact ⟨dirs, by simp [validated]⟩
          · exact ⟨dirs, allConfined_nil⟩
      · split
        · exact ⟨dirs, by simp [validated]⟩
        · refine ⟨fun entry member => ?_, by simp [validated]⟩
          obtain before | created := List.mem_append.mp member
          · exact dirs entry before
          · rw [List.mem_singleton.mp created]
            exact validated

theorem handleSubdirs_confined (answers : Nat → ItemAnswers) (position : Nat)
    (session : RemoteSessionState) (index : DestIndex) (subdirs : List NdxEntry)
    (dirs : session.DirsConfined) :
    (session.handleSubdirs config answers position index subdirs).session.DirsConfined ∧
      AllConfined (session.handleSubdirs config answers position index subdirs).effects.mutations := by
  induction subdirs generalizing position session index with
  | nil => exact ⟨dirs, allConfined_nil⟩
  | cons subdir rest ih =>
      obtain ⟨first, writes⟩ := @handleSubdir_confined config (answers position) session index subdir dirs
      obtain ⟨later, rest⟩ := ih (position + 1) _ (session.handleSubdir config (answers position) index
        subdir).value first
      exact ⟨later, (allConfined_append _ _).mpr ⟨writes, rest⟩⟩

theorem deleteOrphans_confined (failed : Nat → Option String) (position : Nat)
    (orphans : List ObservedEntry) : AllConfined (deleteOrphans failed position orphans).mutations := by
  induction orphans generalizing position with
  | nil => exact allConfined_nil
  | cons orphan rest ih =>
      refine (allConfined_append _ _).mpr ⟨?_, ih (position + 1)⟩
      simp only [deleteOrphan]
      split
      · exact allConfined_nil
      · split <;> simp

theorem handleDirectoryLifecycle_confined (answers : Nat → ItemAnswers)
    (deleteFailed : Nat → Option String) (session : RemoteSessionState) (page : DirPageResult)
    (index : DestIndex) (dirs : session.DirsConfined) :
    (session.handleDirectoryLifecycle config answers deleteFailed page index).session.DirsConfined ∧
      AllConfined (session.handleDirectoryLifecycle config answers deleteFailed page index).effects.mutations := by
  obtain ⟨kept, writes⟩ := @handleSubdirs_confined config answers 0 session index page.subdirs dirs
  refine ⟨kept, (allConfined_append _ _).mpr ⟨writes, ?_⟩⟩
  split
  · exact deleteOrphans_confined deleteFailed 0 _
  · exact allConfined_nil

theorem handlePage_confined (answers : PageAnswers) (session : RemoteSessionState) (page : DirPageResult)
    (dirs : session.DirsConfined) :
    (session.handlePage config answers page).session.DirsConfined ∧
      (AllConfined (session.handlePage config answers page).effects.mutations ↔
        ∀ listing, answers.listing = .ok listing →
          FilesGuarded config answers.file 0 (destinationIndex listing) page.files) := by
  simp only [handlePage]
  cases listed : answers.listing with
  | error reason => exact ⟨dirs, by simp [Effects.none]⟩
  | ok listing =>
      dsimp only
      obtain ⟨same, confined⟩ := @handleFiles_confined config answers.file 0 (session.ingestPage page)
        (destinationIndex listing) page.files
      have filesDirs : ((session.ingestPage page).handleFiles config answers.file 0 (destinationIndex listing)
          page.files).session.DirsConfined := by
        rw [DirsConfined, same]
        exact dirs
      have condition : (∀ other, Except.ok listing = (.ok other : Except String (List ObservedEntry)) →
          FilesGuarded config answers.file 0 (destinationIndex other) page.files) ↔
          FilesGuarded config answers.file 0 (destinationIndex listing) page.files := by simp
      rw [condition, ← confined]
      split
      · exact ⟨filesDirs, Iff.rfl⟩
      · next index _ =>
          obtain ⟨lifecycleDirs, lifecycle⟩ := @handleDirectoryLifecycle_confined config answers.subdir
            answers.deleteFailed _ page index filesDirs
          exact ⟨lifecycleDirs, by simp [Effects.append, lifecycle]⟩

theorem Silent.confined {session after : RemoteSessionState} {effects : Effects}
    (silent : Silent session after effects) (dirs : session.DirsConfined) :
    after.DirsConfined ∧ (AllConfined effects.mutations ↔ True) := by
  rw [DirsConfined, silent.dirs, silent.writes]
  exact ⟨dirs, by simp⟩

theorem handle_confined (answers : MessageAnswers) (session : RemoteSessionState) (message : SenderMsg)
    (dirs : session.DirsConfined) :
    (session.handle config answers message).session.DirsConfined ∧
      (AllConfined (session.handle config answers message).effects.mutations ↔
        MessageGuarded config answers message) := by
  cases message with
  | filePage page => exact handlePage_confined answers.page session page dirs
  | fileListError path reason => exact @Silent.confined session session _ ⟨rfl, rfl⟩ dirs
  | fileListDone => exact @Silent.confined session session _ ⟨rfl, rfl⟩ dirs
  | createDir entry =>
      cases safe : entry.path.validate <;>
        simp [handle, handleCreateDir, safe, Effects.reply, Effects.append, MessageGuarded, MetadataGuarded,
          AllConfined, Effects.write, Mutation.Confined, dirs]
  | createSymlink entry target =>
      simp only [handle, handleCreateSymlink]
      split
      · exact @Silent.confined session session _ ⟨rfl, rfl⟩ dirs
      · next safe =>
          have validated : entry.path.validate = true := by simpa using safe
          split <;> exact ⟨dirs, by simp [validated, MessageGuarded]⟩
  | writeDeleteMarker ndx =>
      refine Silent.confined ?_ dirs
      simp only [handle]
      split <;> exact ⟨rfl, rfl⟩
  | fileBegin ndx =>
      refine Silent.confined ?_ dirs
      simp only [handle]
      split
      · exact ⟨rfl, rfl⟩
      · simp only [beginFull]
        split
        · exact ⟨rfl, rfl⟩
        · split <;> exact ⟨rfl, rfl⟩
  | fileData ndx chunk =>
      exact (stopOnCredit_silent (session.acceptFullChunk_silent ndx chunk)).confined dirs
  | deltaMatch ndx blockIndex =>
      refine Silent.confined ?_ dirs
      simp only [handle]
      split
      · exact ⟨rfl, rfl⟩
      · exact session.forwardDelta_silent ndx _ _
  | deltaData ndx data =>
      refine Silent.confined ?_ dirs
      simp only [handle]
      split
      · exact ⟨rfl, rfl⟩
      · exact stopOnCredit_silent (session.acceptDeltaData_silent ndx _ data)
  | endOfFile ndx sourceHash => exact (session.handleEndOfFile_silent ndx sourceHash).confined dirs
  | setAcl entry aclData =>
      simp only [handle]
      split
      · next applies => exact ⟨dirs, by simp [MessageGuarded, applies]⟩
      · next skipped =>
          refine ⟨dirs, ?_⟩
          simp only [not_and] at skipped
          simp only [Effects.none, allConfined_nil, MessageGuarded, true_iff]
          exact fun enabled decoded => absurd decoded (skipped enabled)
  | entryError path reason ndx => exact (session.handleSourceFailure_silent ndx).confined dirs
  | transferDone => exact @Silent.confined session session _ ⟨rfl, rfl⟩ dirs

end RemoteSessionState

/-! ### Runs -/

namespace Receiver

variable {config : ReceiverConfig}

theorem haltIf_confined (receiver : Receiver) (dirs : receiver.session.DirsConfined) (stop : Option Stop) :
    (receiver.haltIf stop).session.DirsConfined ∧ (receiver.haltIf stop).mutations = receiver.mutations := by
  cases stop with
  | none => exact ⟨dirs, rfl⟩
  | some stop =>
      cases stop with
      | complete | returned reason => exact ⟨dirs, rfl⟩
      | listingFailed reason | sourceListingFailed path reason | creditFailed error | transportClosed =>
          exact ⟨List.forall_mem_nil _, rfl⟩

/-- One step: what it writes is confined exactly when its condition holds. -/
theorem step_confined {receiver next : Receiver} {action : ReceiverAction}
    (dirs : receiver.session.DirsConfined) (stepped : (machine config).step receiver action = some next) :
    next.session.DirsConfined ∧ ∃ writes, next.mutations = receiver.mutations ++ writes ∧
      (AllConfined writes ↔ ActionGuarded config receiver action) := by
  obtain ⟨⟨after, replies⟩, taken, rfl⟩ := Option.map_eq_some_iff.mp stepped
  cases action with
  | deliver message answers =>
      simp only [step] at taken
      split at taken
      · cases taken
        obtain ⟨kept, confined⟩ :=
          @RemoteSessionState.handle_confined config answers receiver.session message dirs
        obtain ⟨halted, same⟩ := haltIf_confined
          (receiver.install (receiver.session.handle config answers message).session
            (receiver.session.handle config answers message).effects) kept
          (receiver.session.handle config answers message).value
        exact ⟨halted, _, same, confined⟩
      · cases taken
  | disconnect =>
      simp only [step] at taken
      split at taken
      · cases taken
        exact ⟨List.forall_mem_nil _, [], by simp [halt], by simp [ActionGuarded]⟩
      · cases taken
  | acknowledge =>
      simp only [step] at taken
      split at taken
      · cases taken
      · next ack outcomes _ =>
          split at taken
          · cases taken
            have silent := receiver.session.handleAck_silent ack
            obtain ⟨kept, confined⟩ := silent.confined dirs
            obtain ⟨halted, same⟩ := haltIf_confined
              (({ receiver with outcomes }).install (receiver.session.handleAck ack).session
                (receiver.session.handleAck ack).effects) kept
              (RemoteSessionState.stopIf (receiver.session.handleAck ack).value)
            exact ⟨halted, _, same, confined⟩
          · cases taken
  | commit answers =>
      simp only [step] at taken
      split at taken
      · cases taken
      · next command commands queued =>
          split at taken
          · cases taken
          · cases taken
            refine ⟨dirs, _, rfl, FileCommitState.dispatch_confined command |>.trans ?_⟩
            simp [ActionGuarded, queued]
  | drain =>
      simp only [step] at taken
      split at taken
      · cases taken
      · cases taken
      · next stop _ _ =>
          split at taken
          · cases taken
            have silent := receiver.session.drainOutcomes_silent receiver.outcomes
            refine ⟨?_, (receiver.session.drainOutcomes receiver.outcomes).session.finalizeDirectories, ?_, ?_⟩
            · exact (silent.confined dirs).1
            · simp [install, silent.writes]
            · simp only [RemoteSessionState.finalizeDirectories, silent.dirs, AllConfined, List.forall_mem_map,
                Mutation.Confined, ActionGuarded, MetadataGuarded, reduceCtorEq, false_or]
          · cases taken

/-- In every run, all writes on paths of the sender are confined exactly when every step
meets the condition of its unguarded writes. -/
theorem path_confinement_exact {credit : ReceiverCreditState} {actions : List ReceiverAction}
    {final : Receiver} (run : (machine config).exec (new credit) actions = some final) :
    AllConfined final.mutations ↔ (machine config).Along (ActionGuarded config) (new credit) actions := by
  have empty : (new credit).session.DirsConfined := List.forall_mem_nil _
  have exact_ := @Lib.Machine.emitted_iff_along Receiver ReceiverAction (machine config) Mutation mutations
    Mutation.Confined (fun receiver => receiver.session.DirsConfined) (ActionGuarded config) step_confined
    actions _ _ empty run
  rw [AllConfined, exact_]
  exact and_iff_right (List.forall_mem_nil _)

/-! ### An ACL outside the destination -/

def aclConfig : ReceiverConfig where
  session := { SessionConfig.plain with enableAcl := true }
  keepsHistory := false
  holdsDirectoryObjects := false
  copiedTagsRequired := .ok false
  delta := false
  deltaSizeThreshold := 0
  blake3Truncated := fun _ => .replicate 16 0
  decodesAcl := fun _ => true

/-- The sender sets the ACL of one file. -/
def aclActions (path : RelativePath) : List ReceiverAction :=
  let answers : ItemAnswers := ⟨none, none, none, .ok []⟩
  [.deliver (.setAcl (.new path .file (some 0) none .local none) [])
    ⟨⟨.ok [], fun _ => answers, fun _ => answers, fun _ => none⟩, none⟩]

theorem path_confinement_exact_acl : ∃ final,
    (machine aclConfig).exec (new ⟨50, 0⟩) (aclActions ['f']) = some final ∧
      (AllConfined final.mutations ↔
        (machine aclConfig).Along (ActionGuarded aclConfig) (new ⟨50, 0⟩) (aclActions ['f'])) :=
  ⟨_, rfl, path_confinement_exact rfl⟩

/-- `../f` is not validated before its ACL is applied. -/
theorem acl_escapes_destination : ∃ final,
    (machine aclConfig).exec (new ⟨50, 0⟩) (aclActions "../f".toList) = some final ∧
      ∃ mutation ∈ final.mutations, mutation.operation = .applyAcl ∧ mutation.path.validate = false ∧
        ¬ AllConfined final.mutations := by
  have unsafePath : RelativePath.validate "../f".toList = false := by decide
  refine ⟨_, rfl, ⟨.applyAcl, "../f".toList⟩, List.mem_singleton_self _, rfl, unsafePath,
    fun confined => ?_⟩
  obtain deleted | validated := confined _ (List.mem_singleton_self _)
  · cases deleted
  · exact Bool.false_ne_true (unsafePath.symm.trans validated)

end Receiver

end Terrasync.App
