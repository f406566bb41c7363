import Mathlib.Data.List.Sublists
import Terrasync.App.FileCommitProperties
import Terrasync.App.Receiver

/-! What one message and one outcome do to a receiver session: which requests they
send, how they change the active transfer, and which disk commands they issue. -/

set_option autoImplicit false

namespace Terrasync.App

open Transport

def Effects.requests (effects : Effects) : List Ndx := effects.replies.filterMap requestNdx

/-- A reply that belongs to the classification of a page. -/
def Classification (reply : ReceiverMsg) : Prop := redoNdx reply = none ∧ grantBytes reply = none

@[simp] theorem Effects.requests_append (first second : Effects) :
    (first.append second).requests = first.requests ++ second.requests :=
  List.filterMap_append

@[simp] theorem Effects.append_replies (first second : Effects) :
    (first.append second).replies = first.replies ++ second.replies := rfl

@[simp] theorem Effects.append_commands (first second : Effects) :
    (first.append second).commands = first.commands ++ second.commands := rfl

@[simp] theorem Effects.append_mutations (first second : Effects) :
    (first.append second).mutations = first.mutations ++ second.mutations := rfl

namespace RemoteSessionState

variable {config : ReceiverConfig}

/-! ### Pages -/

/-- Classifying items counts the requests it sends, and touches nothing else but the
list of created directories. -/
structure Classifies (before after : RemoteSessionState) (effects : Effects) (numbers : List Ndx) :
    Prop where
  session : ∃ dirs, after = { before with
    createdDirs := dirs
    ledger := { before.ledger with requested := before.ledger.requested + effects.requests.length } }
  commands : effects.commands = []
  replies : ∀ reply ∈ effects.replies, Classification reply
  requests : effects.requests.Sublist numbers

theorem Classifies.silent (session : RemoteSessionState) {effects : Effects} {numbers : List Ndx}
    (commands : effects.commands = []) (replies : ∀ reply ∈ effects.replies, Classification reply)
    (none : effects.requests = []) : Classifies session session effects numbers := by
  refine ⟨⟨session.createdDirs, ?_⟩, commands, replies, ?_⟩
  · rw [none]
    rfl
  · rw [none]
    exact List.nil_sublist numbers

theorem Classifies.trans {before middle after : RemoteSessionState} {first second : Effects}
    {early late : List Ndx} (head : Classifies before middle first early)
    (tail : Classifies middle after second late) :
    Classifies before after (first.append second) (early ++ late) := by
  obtain ⟨dirs, middleEq⟩ := head.session
  obtain ⟨finalDirs, afterEq⟩ := tail.session
  refine ⟨⟨finalDirs, ?_⟩, ?_, ?_, ?_⟩
  · rw [afterEq, middleEq, Effects.requests_append, List.length_append, Nat.add_assoc]
  · rw [Effects.append_commands, head.commands, tail.commands]
    rfl
  · intro reply member
    rw [Effects.append_replies, List.mem_append] at member
    exact member.elim (head.replies reply) (tail.replies reply)
  · rw [Effects.requests_append]
    exact head.requests.append tail.requests

theorem Classifies.mono {before after : RemoteSessionState} {effects : Effects} {few many : List Ndx}
    (classified : Classifies before after effects few) (subset : few.Sublist many) :
    Classifies before after effects many :=
  { classified with requests := classified.requests.trans subset }

theorem request_classifies (session : RemoteSessionState) {message : ReceiverMsg} {ndx : Ndx}
    (asks : requestNdx message = some ndx) (plain : Classification message) :
    Classifies session (session.request message).session (session.request message).effects [ndx] := by
  have requests : (Effects.reply message).requests = [ndx] := by
    simp only [Effects.requests, Effects.reply, List.filterMap_cons, asks, List.filterMap_nil]
  refine ⟨⟨session.createdDirs, ?_⟩, rfl, ?_, ?_⟩
  · rw [request, requests]
    rfl
  · intro reply member
    rw [List.mem_singleton.mp member]
    exact plain
  · rw [request, requests]

theorem classify_classifies (answers : ItemAnswers) (session : RemoteSessionState) (numbered : NdxEntry)
    (decision : TransferDecision) :
    Classifies session (session.classify config answers numbered decision).session
      (session.classify config answers numbered decision).effects [numbered.ndx] := by
  cases decision with
  | fullTransfer => exact request_classifies session rfl ⟨rfl, rfl⟩
  | deltaTransfer =>
      have delta : session.classify config answers numbered .deltaTransfer =
          session.handleDeltaClassification config answers numbered.ndx numbered.entry .deltaTransfer := rfl
      rw [delta]
      simp only [handleDeltaClassification, ne_eq, not_true_eq_false, if_false]
      split
      · exact request_classifies session rfl ⟨rfl, rfl⟩
      · split
        · exact request_classifies session rfl ⟨rfl, rfl⟩
        · split
          · exact request_classifies session rfl ⟨rfl, rfl⟩
          · exact request_classifies session rfl ⟨rfl, rfl⟩
  | metadataOnly =>
      cases written : answers.setMetadata <;>
        simp only [classify, handleBaseClassification, written, if_true] <;>
        exact .silent session rfl (by simp [Classification, Effects.write, redoNdx, grantBytes]) rfl
  | skip => exact .silent session rfl (by simp [Classification, Effects.reply, redoNdx, grantBytes,
      classify, handleBaseClassification]) rfl
  | deleted => exact .silent session rfl (by simp [classify, handleBaseClassification,
      handleDeltaClassification, Effects.none]) rfl

theorem handleFile_classifies (answers : ItemAnswers) (session : RemoteSessionState) (index : DestIndex)
    (numbered : NdxEntry) :
    Classifies session (session.handleFile config answers index numbered).session
      (session.handleFile config answers index numbered).effects [numbered.ndx] := by
  simp only [handleFile]
  split
  · exact .silent session rfl (by simp [Effects.none]) rfl
  · split <;> exact .silent session rfl (by simp [Classification, Effects.write, redoNdx, grantBytes]) rfl
  · exact classify_classifies answers session numbered _

theorem handleFiles_classifies (answers : Nat → ItemAnswers) (position : Nat)
    (session : RemoteSessionState) (index : DestIndex) (files : List NdxEntry) :
    Classifies session (session.handleFiles config answers position index files).session
      (session.handleFiles config answers position index files).effects (files.map NdxEntry.ndx) := by
  induction files generalizing position session index with
  | nil => exact .silent session rfl (by simp [handleFiles, Effects.none]) rfl
  | cons numbered rest ih =>
      have head := @handleFile_classifies config (answers position) session index numbered
      simp only [handleFiles]
      split
      · exact head.mono (by simp)
      · exact head.trans (ih _ _ _)

/-- Subdirectories that carry a marker object of their own. -/
def markers (subdirs : List NdxEntry) : List NdxEntry :=
  subdirs.filter fun subdir => subdir.entry.entry.directoryMarkerObject.isSome

theorem handleSubdir_classifies (answers : ItemAnswers) (session : RemoteSessionState)
    (index : DestIndex) (subdir : NdxEntry) :
    Classifies session (session.handleSubdir config answers index subdir).session
      (session.handleSubdir config answers index subdir).effects ((markers [subdir]).map NdxEntry.ndx) := by
  simp only [handleSubdir]
  split
  · exact .silent session rfl (by simp [Classification, Effects.reply, redoNdx, grantBytes]) rfl
  · split
    · split
      · next marked =>
          have numbers : (markers [subdir]).map NdxEntry.ndx = [subdir.ndx] := by
            simp only [markers, List.filter_cons, marked, if_true, List.filter_nil, List.map_cons,
              List.map_nil]
          split
          · exact .silent session rfl (by simp [Classification, Effects.reply, redoNdx, grantBytes]) rfl
          · split
            · exact .silent session rfl (by simp [Classification, Effects.reply, redoNdx, grantBytes]) rfl
            · rw [numbers]
              exact request_classifies session rfl ⟨rfl, rfl⟩
      · split
        · split <;>
            exact .silent session rfl (by simp [Classification, Effects.write, redoNdx, grantBytes]) rfl
        · exact .silent session rfl (by simp [Effects.none]) rfl
    · split
      · exact .silent session rfl (by simp [Classification, Effects.write, redoNdx, grantBytes]) rfl
      · exact ⟨⟨_, rfl⟩, rfl, by simp [Effects.write], List.nil_sublist _⟩

theorem handleSubdirs_classifies (answers : Nat → ItemAnswers) (position : Nat)
    (session : RemoteSessionState) (index : DestIndex) (subdirs : List NdxEntry) :
    Classifies session (session.handleSubdirs config answers position index subdirs).session
      (session.handleSubdirs config answers position index subdirs).effects
      ((markers subdirs).map NdxEntry.ndx) := by
  induction subdirs generalizing position session index with
  | nil => exact .silent session rfl (by simp [handleSubdirs, Effects.none]) rfl
  | cons subdir rest ih =>
      have head := @handleSubdir_classifies config (answers position) session index subdir
      have numbers : (markers (subdir :: rest)).map NdxEntry.ndx =
          (markers [subdir]).map NdxEntry.ndx ++ (markers rest).map NdxEntry.ndx := by
        rw [← List.map_append, markers, markers, markers, ← List.filter_append]
        rfl
      rw [numbers]
      exact head.trans (ih _ _ _)

theorem deleteOrphans_silent (failed : Nat → Option String) (position : Nat)
    (orphans : List ObservedEntry) :
    (deleteOrphans failed position orphans).commands = [] ∧
      (deleteOrphans failed position orphans).requests = [] ∧
      ∀ reply ∈ (deleteOrphans failed position orphans).replies, Classification reply := by
  induction orphans generalizing position with
  | nil => exact ⟨rfl, rfl, by simp [deleteOrphans, Effects.none]⟩
  | cons orphan rest ih =>
      obtain ⟨commands, requests, replies⟩ := ih (position + 1)
      have head : (deleteOrphan (failed position) orphan).commands = [] ∧
          (deleteOrphan (failed position) orphan).requests = [] ∧
          ∀ reply ∈ (deleteOrphan (failed position) orphan).replies, Classification reply := by
        simp only [deleteOrphan]
        split
        · exact ⟨rfl, rfl, by simp [Effects.none]⟩
        · split <;> exact ⟨rfl, rfl, by simp [Classification, Effects.write, redoNdx, grantBytes]⟩
      refine ⟨?_, ?_, ?_⟩
      · rw [deleteOrphans, Effects.append_commands, head.1, commands]
        rfl
      · rw [deleteOrphans, Effects.requests_append, head.2.1, requests]
        rfl
      · intro reply member
        rw [deleteOrphans, Effects.append_replies, List.mem_append] at member
        exact member.elim (head.2.2 reply) (replies reply)

theorem handleDirectoryLifecycle_classifies (answers : Nat → ItemAnswers)
    (deleteFailed : Nat → Option String) (session : RemoteSessionState) (page : DirPageResult)
    (index : DestIndex) :
    Classifies session (session.handleDirectoryLifecycle config answers deleteFailed page index).session
      (session.handleDirectoryLifecycle config answers deleteFailed page index).effects
      ((markers page.subdirs).map NdxEntry.ndx) := by
  have subdirs := @handleSubdirs_classifies config answers 0 session index page.subdirs
  simp only [handleDirectoryLifecycle]
  split
  · obtain ⟨commands, requests, replies⟩ := deleteOrphans_silent deleteFailed 0
      (session.handleSubdirs config answers 0 index page.subdirs).value.orphanedEntries
    have orphans := @Classifies.silent (session.handleSubdirs config answers 0 index page.subdirs).session
      _ [] commands replies requests
    have all := subdirs.trans orphans
    rwa [List.append_nil] at all
  · have nothing := @Classifies.silent (session.handleSubdirs config answers 0 index page.subdirs).session
      Effects.none [] rfl (by simp [Effects.none]) rfl
    have all := subdirs.trans nothing
    rwa [List.append_nil] at all

/-- The indices a page may be asked for. -/
def requestable (page : DirPageResult) : List Ndx :=
  page.files.map NdxEntry.ndx ++ (markers page.subdirs).map NdxEntry.ndx

theorem handlePage_classifies (answers : PageAnswers) (session : RemoteSessionState)
    (page : DirPageResult) :
    Classifies (session.ingestPage page) (session.handlePage config answers page).session
      (session.handlePage config answers page).effects (requestable page) := by
  simp only [handlePage]
  split
  · exact .silent _ rfl (by simp [Effects.none]) rfl
  · next listing _ =>
      have files := @handleFiles_classifies config answers.file 0 (session.ingestPage page)
        (destinationIndex listing) page.files
      split
      · exact files.mono (List.sublist_append_left _ _)
      · next index _ => exact files.trans (handleDirectoryLifecycle_classifies _ _ _ page index)

/-! ### Messages -/

end RemoteSessionState

/-- The transfer a data message belongs to. -/
def payloadNdx : SenderMsg → Option Ndx
  | .fileBegin ndx | .fileData ndx _ | .deltaMatch ndx _ | .deltaData ndx _ => some ndx
  | _ => none

/-- The transfer a message ends. -/
def closingNdx : SenderMsg → Option Ndx
  | .endOfFile ndx _ => some ndx
  | .entryError _ _ ndx => ndx
  | _ => none

def markerNdx : SenderMsg → Option Ndx
  | .writeDeleteMarker ndx => some ndx
  | _ => none

/-- The page a message advertises. -/
def pageOf : SenderMsg → Option DirPageResult
  | .filePage page => some page
  | _ => none

def isLink : SenderMsg → Bool
  | .createSymlink .. => true
  | _ => false

def slotFor (ndx : Ndx) : FileTransferMode → ActiveTransfer
  | .full => .full ndx
  | .delta => .delta ndx

@[simp] theorem idle_ndx : ActiveTransfer.idle.ndx = none := rfl

@[simp] theorem slotFor_ndx (ndx : Ndx) (mode : FileTransferMode) : (slotFor ndx mode).ndx = some ndx := by
  cases mode <;> rfl

namespace RemoteSessionState

/-- What a message does to the active transfer and the terminated indices, and the disk
commands it issues. An `EntryError` without an index is not covered. -/
inductive Reaction (session : RemoteSessionState) (message : SenderMsg) :
    ActiveTransfer → List Ndx → List DiskCommitMsg → Prop where
  | kept {commands : List DiskCommitMsg} (closing : closingNdx message = none)
      (marker : markerNdx message = none) (data : ∀ command ∈ commands, carriesData command = true) :
      Reaction session message session.activeTransfer session.ledger.terminatedNdx commands
  | opened {item : ObservedItem} {key : TransferKey} {first : DiskCommitMsg} {commands : List DiskCommitMsg}
      (payload : payloadNdx message = some key.ndx) (live : ¬ session.Terminated key.ndx)
      (idle : session.activeTransfer = .idle) (indexed : session.indexedEntry key.ndx = some item)
      (path : item.entry.path = key.path) (opens : opensTransfer first = some key)
      (data : ∀ command ∈ commands, carriesData command = true) :
      Reaction session message (slotFor key.ndx key.mode) session.ledger.terminatedNdx (first :: commands)
  | committed {item : ObservedItem} {key : TransferKey} {commit : DiskCommitMsg}
      {sourceHash : Option SourceHash} (closing : message = .endOfFile key.ndx sourceHash)
      (live : ¬ session.Terminated key.ndx) (active : session.activeTransfer = slotFor key.ndx key.mode)
      (indexed : session.indexedEntry key.ndx = some item) (path : item.entry.path = key.path)
      (commits : commitsTransfer commit = some key) :
      Reaction session message .idle session.ledger.terminatedNdx [commit]
  | reopened {item : ObservedItem} {key : TransferKey} {first commit : DiskCommitMsg}
      {sourceHash : Option SourceHash} (closing : message = .endOfFile key.ndx sourceHash)
      (live : ¬ session.Terminated key.ndx) (idle : session.activeTransfer = .idle)
      (indexed : session.indexedEntry key.ndx = some item) (path : item.entry.path = key.path)
      (opens : opensTransfer first = some key) (commits : commitsTransfer commit = some key) :
      Reaction session message .idle session.ledger.terminatedNdx [first, commit]
  | dropped {ndx : Ndx} {sourceHash : Option SourceHash} (closing : message = .endOfFile ndx sourceHash)
      (excuse : session.Terminated ndx ∨ session.indexedEntry ndx = none ∨
        ∃ other, other ≠ ndx ∧ session.activeTransfer.ndx = some other) :
      Reaction session message session.activeTransfer session.ledger.terminatedNdx []
  | marked {ndx : Ndx} {item : ObservedItem} (marker : message = .writeDeleteMarker ndx)
      (indexed : session.indexedEntry ndx = some item) :
      Reaction session message session.activeTransfer session.ledger.terminatedNdx
        [.writeDeleteMarker ndx item]
  | unmarked {ndx : Ndx} (marker : message = .writeDeleteMarker ndx)
      (unknown : session.indexedEntry ndx = none) :
      Reaction session message session.activeTransfer session.ledger.terminatedNdx []
  | aborted {ndx : Ndx} {path : RelativePath} {reason : String}
      (failed : message = .entryError path reason (some ndx)) (active : session.activeTransfer.ndx = some ndx) :
      Reaction session message .idle (session.ledger.recordTerminal ndx).1.terminatedNdx [.abortFile]
  | failed {ndx : Ndx} {path : RelativePath} {reason : String}
      (failed : message = .entryError path reason (some ndx))
      (inactive : session.activeTransfer.ndx ≠ some ndx) :
      Reaction session message session.activeTransfer (session.ledger.recordTerminal ndx).1.terminatedNdx []

def Reacts (session : RemoteSessionState) (message : SenderMsg) (handled : RemoteSessionState)
    (effects : Effects) : Prop :=
  Reaction session message handled.activeTransfer handled.ledger.terminatedNdx effects.commands

/-- Recording credit changes neither the transfer nor the commands. -/
theorem accepted_frame (session : RemoteSessionState) (effects : Effects) (bytes : Nat) :
    (session.accepted effects bytes).session.activeTransfer = session.activeTransfer ∧
      (session.accepted effects bytes).session.ledger = session.ledger ∧
      (session.accepted effects bytes).effects.commands = effects.commands := by
  simp only [accepted]
  split
  · exact ⟨rfl, rfl, rfl⟩
  · exact ⟨rfl, rfl, rfl⟩
  · exact ⟨rfl, rfl, List.append_nil _⟩

theorem acceptFullChunk_reacts (session : RemoteSessionState) (ndx : Ndx) (chunk : DataChunk) :
    session.Reacts (.fileData ndx chunk) (session.acceptFullChunk ndx chunk).session
      (session.acceptFullChunk ndx chunk).effects := by
  simp only [acceptFullChunk, pushFullChunk]
  split
  · obtain ⟨slot, ledger, commands⟩ := session.accepted_frame (.command (.fileChunk ndx chunk)) chunk.data.length
    simp only [if_true, Reacts, slot, ledger, commands]
    exact .kept rfl rfl (by simp [Effects.command, carriesData])
  · exact .kept rfl rfl (by simp [Effects.none])

/-- The three ways a delta event finds the active transfer. -/
theorem ensureDeltaActive_cases (session : RemoteSessionState) (ndx : Ndx) (entry : ObservedEntry) :
    (session.ensureDeltaActive ndx entry = ⟨session, .none, true⟩ ∧ ¬ session.Terminated ndx ∧
        session.activeTransfer = .delta ndx) ∨
      (session.ensureDeltaActive ndx entry = ⟨session, .none, false⟩ ∧
        (session.Terminated ndx ∨
          (session.activeTransfer ≠ .idle ∧ session.activeTransfer ≠ .delta ndx))) ∨
      (session.ensureDeltaActive ndx entry =
          ⟨{ session with activeTransfer := .delta ndx },
            .command (.deltaBegin ndx entry (calculateBlockSize entry.getSize)), true⟩ ∧
        ¬ session.Terminated ndx ∧ session.activeTransfer = .idle) := by
  by_cases terminated : session.Terminated ndx
  · exact .inr (.inl ⟨by rw [ensureDeltaActive, if_pos terminated], .inl terminated⟩)
  · cases active : session.activeTransfer with
    | idle => exact .inr (.inr ⟨by simp only [ensureDeltaActive, if_neg terminated, active], terminated, rfl⟩)
    | full other =>
        exact .inr (.inl ⟨by simp only [ensureDeltaActive, if_neg terminated, active],
          .inr ⟨nofun, nofun⟩⟩)
    | delta other =>
        by_cases same : other = ndx
        · exact .inl ⟨by simp only [ensureDeltaActive, if_neg terminated, active, same, decide_true],
            terminated, by rw [same]⟩
        · exact .inr (.inl ⟨by simp only [ensureDeltaActive, if_neg terminated, active, same, decide_false],
            .inr ⟨nofun, by simpa using same⟩⟩)

theorem forwardDelta_reacts (session : RemoteSessionState) {message : SenderMsg} {ndx : Ndx}
    {item : ObservedItem} (payload : payloadNdx message = some ndx) (open_ : closingNdx message = none)
    (unmarked : markerNdx message = none) (indexed : session.indexedEntry ndx = some item)
    {command : DiskCommitMsg} (data : carriesData command = true) :
    session.Reacts message (session.forwardDelta ndx item.entry command).session
      (session.forwardDelta ndx item.entry command).effects := by
  rcases session.ensureDeltaActive_cases ndx item.entry with
    ⟨ensured, -, -⟩ | ⟨ensured, -⟩ | ⟨ensured, live, idle⟩
  · simp only [forwardDelta, ensured, if_true]
    exact .kept open_ unmarked (by simp [Effects.append, Effects.none, Effects.command, data])
  · simp only [forwardDelta, ensured, Bool.false_eq_true, if_false]
    exact .kept open_ unmarked (by simp [Effects.none])
  · simp only [forwardDelta, ensured, if_true]
    exact @Reaction.opened session message item ⟨ndx, item.entry.path, .delta⟩ _ [command] payload live idle
      indexed rfl rfl (by simp [data])

theorem acceptDeltaData_reacts (session : RemoteSessionState) {ndx : Ndx} {item : ObservedItem}
    (indexed : session.indexedEntry ndx = some item) (data : SyncDelta.Bytes) :
    session.Reacts (.deltaData ndx data) (session.acceptDeltaData ndx item.entry data).session
      (session.acceptDeltaData ndx item.entry data).effects := by
  have pushed := @forwardDelta_reacts session (.deltaData ndx data) ndx item rfl rfl rfl indexed
    (.deltaData item.entry data) rfl
  rw [acceptDeltaData, pushDeltaData]
  generalize session.forwardDelta ndx item.entry (.deltaData item.entry data) = handled at pushed ⊢
  obtain ⟨after, effects, value⟩ := handled
  cases value with
  | false => exact pushed
  | true =>
      obtain ⟨slot, ledger, commands⟩ := after.accepted_frame effects data.length
      simp only [if_true, Reacts, slot, ledger, commands]
      exact pushed

theorem handleEndOfFile_reacts (session : RemoteSessionState) (ndx : Ndx) (sourceHash : Option SourceHash) :
    session.Reacts (.endOfFile ndx sourceHash) (session.handleEndOfFile ndx sourceHash).session
      (session.handleEndOfFile ndx sourceHash).effects := by
  simp only [handleEndOfFile]
  split
  · next unknown => exact .dropped rfl (.inr (.inl unknown))
  · next item indexed =>
      by_cases full : session.Terminated ndx ∨ session.activeTransfer ≠ .full ndx
      · simp only [commitFull, if_pos full, Bool.false_eq_true, if_false]
        rcases session.ensureDeltaActive_cases ndx item.entry with
          ⟨ensured, live, active⟩ | ⟨ensured, excuse⟩ | ⟨ensured, live, idle⟩
        · simp only [commitDelta, ensured, if_true]
          exact @Reaction.committed session _ item ⟨ndx, item.entry.path, .delta⟩ _ sourceHash rfl live
            active indexed rfl rfl
        · simp only [commitDelta, ensured, Bool.false_eq_true, if_false]
          refine .dropped rfl ?_
          rcases excuse with terminated | ⟨busy, other⟩
          · exact .inl terminated
          · rcases full with terminated | notFull
            · exact .inl terminated
            · cases active : session.activeTransfer with
              | idle => exact absurd active busy
              | full held =>
                  exact .inr (.inr ⟨held, fun same => notFull (by rw [active, same]), rfl⟩)
              | delta held =>
                  exact .inr (.inr ⟨held, fun same => other (by rw [active, same]), rfl⟩)
        · simp only [commitDelta, ensured, if_true]
          exact @Reaction.reopened session _ item ⟨ndx, item.entry.path, .delta⟩ _ _ sourceHash rfl live
            idle indexed rfl rfl rfl
      · have refused := full
        simp only [not_or, ne_eq, not_not] at refused
        obtain ⟨live, active⟩ := refused
        simp only [commitFull, if_neg full, if_true]
        exact @Reaction.committed session _ item ⟨ndx, item.entry.path, .full⟩ _ sourceHash rfl live
          active indexed rfl rfl

theorem handleSourceFailure_reacts (session : RemoteSessionState) (path : RelativePath) (reason : String)
    (ndx : Ndx) :
    session.Reacts (.entryError path reason (some ndx)) (session.handleSourceFailure (some ndx)).session
      (session.handleSourceFailure (some ndx)).effects := by
  simp only [handleSourceFailure]
  split
  · next active => exact .aborted rfl active
  · next inactive => exact .failed rfl inactive

theorem handle_reacts (config : ReceiverConfig) (answers : MessageAnswers) (session : RemoteSessionState) {message : SenderMsg}
    (indexed : ∀ path reason, message ≠ .entryError path reason none) :
    session.Reacts message (session.handle config answers message).session
      (session.handle config answers message).effects := by
  cases message with
  | filePage page =>
      obtain ⟨⟨dirs, after⟩, commands, -, -⟩ := @handlePage_classifies config answers.page session page
      simp only [handle, Reacts, after, commands]
      exact .kept rfl rfl (by simp)
  | fileListError path reason => exact .kept rfl rfl (by simp [handle, Effects.none])
  | fileListDone => exact .kept rfl rfl (by simp [handle, Effects.reply])
  | createDir entry =>
      simp only [handle, handleCreateDir]
      split
      · exact .kept rfl rfl (by simp [Effects.reply])
      · exact .kept rfl rfl (by simp [Effects.append, Effects.write])
  | createSymlink entry target =>
      simp only [handle, handleCreateSymlink]
      split
      · exact .kept rfl rfl (by simp [Effects.reply])
      · split <;> exact .kept rfl rfl (by simp [Effects.write])
  | fileBegin ndx =>
      simp only [handle]
      split
      · exact .kept rfl rfl (by simp [Effects.none])
      · next item known =>
          simp only [beginFull]
          split
          · exact .kept rfl rfl (by simp [Effects.none])
          · next live =>
              split
              · exact .kept rfl rfl (by simp [Effects.none])
              · next idle =>
                  exact @Reaction.opened session _ item ⟨ndx, item.entry.path, .full⟩ _ [] rfl live
                    (not_not.mp idle) known rfl rfl (by simp)
  | writeDeleteMarker ndx =>
      simp only [handle]
      split
      · next unknown => exact .unmarked rfl unknown
      · next item known => exact .marked rfl known
  | fileData ndx chunk =>
      have accepted := session.acceptFullChunk_reacts ndx chunk
      simp only [handle, stopOnCredit]
      split <;> exact accepted
  | endOfFile ndx sourceHash => exact session.handleEndOfFile_reacts ndx sourceHash
  | deltaData ndx data =>
      simp only [handle]
      split
      · exact .kept rfl rfl (by simp [Effects.none])
      · next item known =>
          have accepted := session.acceptDeltaData_reacts known data
          simp only [stopOnCredit]
          split <;> exact accepted
  | deltaMatch ndx blockIndex =>
      simp only [handle]
      split
      · exact .kept rfl rfl (by simp [Effects.none])
      · next item known => exact session.forwardDelta_reacts rfl rfl rfl known rfl
  | setAcl entry aclData =>
      simp only [handle]
      split
      · exact .kept rfl rfl (by simp [Effects.write])
      · exact .kept rfl rfl (by simp [Effects.none])
  | entryError path reason ndx =>
      cases ndx with
      | none => exact absurd rfl (indexed path reason)
      | some ndx => exact session.handleSourceFailure_reacts path reason ndx
  | transferDone => exact .kept rfl rfl (by simp [handle, Effects.none])

/-! ### Accounting -/

def tableAfter (table : NdxTable) (message : SenderMsg) : NdxTable :=
  match pageOf message with
  | some page => table.ingestPage page
  | none => table

def requestableBy (message : SenderMsg) : List Ndx :=
  match pageOf message with
  | some page => requestable page
  | none => []

/-- What a message does to the counters of the ledger and the index table. -/
structure Accounts (session : RemoteSessionState) (message : SenderMsg) (after : RemoteSessionState)
    (effects : Effects) (value : Option Stop) : Prop where
  requested : after.ledger.requested = session.ledger.requested + effects.requests.length
  completed : after.ledger.completed + session.ledger.terminatedNdx.length =
    session.ledger.completed + after.ledger.terminatedNdx.length + (isLink message).toNat
  table : after.ndxTable = tableAfter session.ndxTable message
  requests : effects.requests.Sublist (requestableBy message)
  replies : ∀ reply ∈ effects.replies, redoNdx reply = none
  stops : value = some .complete → after.isComplete = true

theorem Accounts.quiet (session : RemoteSessionState) {message : SenderMsg} {after : RemoteSessionState}
    {effects : Effects} (page : pageOf message = none) (link : isLink message = false)
    (ledger : after.ledger = session.ledger) (table : after.ndxTable = session.ndxTable)
    (requests : effects.requests = []) (replies : ∀ reply ∈ effects.replies, redoNdx reply = none)
    {value : Option Stop} (running : value ≠ some .complete) :
    Accounts session message after effects value where
  requested := by rw [ledger, requests]; rfl
  completed := by rw [ledger, link]; rfl
  table := by rw [table, tableAfter, page]
  requests := by rw [requests]; exact List.nil_sublist _
  replies := replies
  stops := fun stopped => absurd stopped running

theorem recordTerminal_completed (ledger : TransferLedger) (ndx : Ndx) :
    (ledger.recordTerminal ndx).1.completed + ledger.terminatedNdx.length =
      ledger.completed + (ledger.recordTerminal ndx).1.terminatedNdx.length ∧
    (ledger.recordTerminal ndx).1.requested = ledger.requested ∧
    (ledger.recordTerminal ndx).1.transferDoneSeen = ledger.transferDoneSeen := by
  simp only [TransferLedger.recordTerminal]
  split
  · exact ⟨rfl, rfl, rfl⟩
  · refine ⟨?_, rfl, rfl⟩
    simp only [List.length_cons]
    omega

theorem accepted_accounts (session : RemoteSessionState) {message : SenderMsg}
    (page : pageOf message = none) (link : isLink message = false) {middle : RemoteSessionState}
    {effects : Effects} (bytes : Nat) (ledger : middle.ledger = session.ledger)
    (table : middle.ndxTable = session.ndxTable) (silent : effects.replies = []) :
    Accounts session message (stopOnCredit (middle.accepted effects bytes)).session
      (stopOnCredit (middle.accepted effects bytes)).effects
      (stopOnCredit (middle.accepted effects bytes)).value := by
  have requests : effects.requests = [] := by rw [Effects.requests, silent]; rfl
  have quiet : ∀ reply ∈ effects.replies, redoNdx reply = none := by simp [silent]
  cases recorded : middle.credit.recordAccepted bytes with
  | error error =>
      simp only [accepted, recorded, stopOnCredit]
      exact .quiet session page link (by exact ledger) (by exact table) (by exact requests) (by exact quiet)
            (by nofun)
  | ok result =>
      obtain ⟨credit, outcome⟩ := result
      cases outcome with
      | pending =>
          simp only [accepted, recorded, stopOnCredit]
          exact .quiet session page link (by exact ledger) (by exact table) (by exact requests)
            (by exact quiet) (by nofun)
      | grant grant =>
          simp only [accepted, recorded, stopOnCredit]
          refine .quiet session page link (by exact ledger) (by exact table) ?_
            (by simp [silent, Effects.reply, redoNdx]) (by nofun)
          rw [Effects.requests_append, requests]
          rfl

theorem forwardDelta_frame (session : RemoteSessionState) (ndx : Ndx) (entry : ObservedEntry)
    (command : DiskCommitMsg) :
    (session.forwardDelta ndx entry command).session.ledger = session.ledger ∧
      (session.forwardDelta ndx entry command).session.ndxTable = session.ndxTable ∧
      (session.forwardDelta ndx entry command).effects.replies = [] := by
  rcases session.ensureDeltaActive_cases ndx entry with ⟨ensured, -⟩ | ⟨ensured, -⟩ | ⟨ensured, -⟩ <;>
    simp [forwardDelta, ensured, Effects.none, Effects.append, Effects.command]

theorem handleEndOfFile_accounts (session : RemoteSessionState) (ndx : Ndx)
    (sourceHash : Option SourceHash) :
    Accounts session (.endOfFile ndx sourceHash) (session.handleEndOfFile ndx sourceHash).session
      (session.handleEndOfFile ndx sourceHash).effects (session.handleEndOfFile ndx sourceHash).value := by
  simp only [handleEndOfFile]
  split
  · exact .quiet session rfl rfl (by rfl) (by rfl) (by rfl) (by simp [Effects.none]) (by nofun)
  · next item _ =>
      by_cases full : session.Terminated ndx ∨ session.activeTransfer ≠ .full ndx
      · simp only [commitFull, if_pos full, Bool.false_eq_true, if_false]
        rcases session.ensureDeltaActive_cases ndx item.entry with
          ⟨ensured, -⟩ | ⟨ensured, -⟩ | ⟨ensured, -⟩ <;> simp only [commitDelta, ensured, if_true] <;>
          exact .quiet session rfl rfl (by rfl) (by rfl) (by rfl) (by simp [Effects.none, Effects.append, Effects.command]) (by nofun)
      · simp only [commitFull, if_neg full, if_true]
        exact .quiet session rfl rfl (by rfl) (by rfl) (by rfl) (by simp [Effects.command]) (by nofun)

theorem stopIf_complete {complete : Bool} (stopped : stopIf complete = some .complete) : complete = true := by
  cases complete with
  | false => cases stopped
  | true => rfl

theorem handleSourceFailure_accounts (session : RemoteSessionState) (path : RelativePath) (reason : String)
    (ndx : Ndx) :
    Accounts session (.entryError path reason (some ndx)) (session.handleSourceFailure (some ndx)).session
      (session.handleSourceFailure (some ndx)).effects
      (stopIf (session.handleSourceFailure (some ndx)).value) := by
  obtain ⟨completed, requested, -⟩ := recordTerminal_completed session.ledger ndx
  simp only [handleSourceFailure]
  split
  · exact ⟨requested, completed, rfl, List.nil_sublist _, by simp [abortActiveFile, Effects.command],
      fun stopped => (Bool.and_eq_true_iff.mp (stopIf_complete stopped)).2⟩
  · exact ⟨requested, completed, rfl, List.nil_sublist _, by simp [Effects.none],
      fun stopped => (Bool.and_eq_true_iff.mp (stopIf_complete stopped)).2⟩

theorem handleCreateSymlink_accounts (failed : Option String) (session : RemoteSessionState)
    (entry : ObservedEntry) (target : List Char) :
    Accounts session (.createSymlink entry target) (session.handleCreateSymlink failed entry).session
      (session.handleCreateSymlink failed entry).effects
      (session.handleCreateSymlink failed entry).value := by
  have linked {effects : Effects} (requests : effects.requests = [])
      (replies : ∀ reply ∈ effects.replies, redoNdx reply = none) :
      Accounts session (.createSymlink entry target) session.completeUnindexed.1 effects
        (stopIf session.completeUnindexed.2) := by
    refine ⟨?_, ?_, rfl, ?_, replies, stopIf_complete⟩
    · rw [requests]
      rfl
    · simp only [completeUnindexed, TransferLedger.recordUnindexedTerminal, isLink, Bool.toNat_true]
      omega
    · rw [requests]
      exact List.nil_sublist _
  simp only [handleCreateSymlink]
  split
  · exact linked rfl (by simp [Effects.reply, redoNdx])
  · split
    · exact linked rfl (by simp [Effects.write, redoNdx])
    · exact linked rfl (by simp [Effects.write, redoNdx])

theorem handlePage_accounts (config : ReceiverConfig) (answers : PageAnswers) (session : RemoteSessionState)
    (page : DirPageResult) :
    Accounts session (.filePage page) (session.handlePage config answers page).session
      (session.handlePage config answers page).effects (session.handlePage config answers page).value := by
  obtain ⟨⟨dirs, after⟩, -, replies, requests⟩ := @handlePage_classifies config answers session page
  refine ⟨?_, ?_, ?_, requests, fun reply member => (replies reply member).1, ?_⟩
  · rw [after]
    rfl
  · rw [after]
    rfl
  · rw [after]
    rfl
  · simp only [handlePage]
    split
    · nofun
    · split <;> nofun

theorem handle_accounts (config : ReceiverConfig) (answers : MessageAnswers) (session : RemoteSessionState)
    {message : SenderMsg} (indexed : ∀ path reason, message ≠ .entryError path reason none) :
    Accounts session message (session.handle config answers message).session
      (session.handle config answers message).effects (session.handle config answers message).value := by
  cases message with
  | filePage page => exact handlePage_accounts config answers.page session page
  | fileListError path reason =>
      exact .quiet session rfl rfl (by rfl) (by rfl) (by rfl) (by simp [handle, Effects.none]) (by nofun)
  | fileListDone => exact .quiet session rfl rfl (by rfl) (by rfl) (by rfl) (by simp [handle, Effects.reply, redoNdx]) (by nofun)
  | createDir entry =>
      simp only [handle, handleCreateDir]
      split
      · exact .quiet session rfl rfl (by rfl) (by rfl) (by rfl) (by simp [Effects.reply, redoNdx]) (by nofun)
      · exact .quiet session rfl rfl (by rfl) (by rfl) (by rfl) (by simp [Effects.append, Effects.write, redoNdx]) (by nofun)
  | createSymlink entry target => exact handleCreateSymlink_accounts answers.createSymlink session entry target
  | fileBegin ndx =>
      simp only [handle]
      split
      · exact .quiet session rfl rfl (by rfl) (by rfl) (by rfl) (by simp [Effects.none]) (by nofun)
      · simp only [beginFull]
        split
        · exact .quiet session rfl rfl (by rfl) (by rfl) (by rfl) (by simp [Effects.none]) (by nofun)
        · split
          · exact .quiet session rfl rfl (by rfl) (by rfl) (by rfl) (by simp [Effects.none]) (by nofun)
          · exact .quiet session rfl rfl (by rfl) (by rfl) (by rfl) (by simp [Effects.command]) (by nofun)
  | writeDeleteMarker ndx =>
      simp only [handle]
      split
      · exact .quiet session rfl rfl (by rfl) (by rfl) (by rfl) (by simp [Effects.none]) (by nofun)
      · exact .quiet session rfl rfl (by rfl) (by rfl) (by rfl) (by simp [Effects.command]) (by nofun)
  | fileData ndx chunk =>
      simp only [handle, acceptFullChunk, pushFullChunk]
      split
      · exact accepted_accounts session rfl rfl _ rfl rfl rfl
      · exact .quiet session rfl rfl (by rfl) (by rfl) (by rfl) (by simp [stopOnCredit, Effects.none]) (by nofun)
  | endOfFile ndx sourceHash => exact handleEndOfFile_accounts session ndx sourceHash
  | deltaData ndx data =>
      simp only [handle]
      split
      · exact .quiet session rfl rfl (by rfl) (by rfl) (by rfl) (by simp [Effects.none]) (by nofun)
      · next item _ =>
          obtain ⟨ledger, table, silent⟩ :=
            session.forwardDelta_frame ndx item.entry (.deltaData item.entry data)
          rw [acceptDeltaData, pushDeltaData]
          generalize session.forwardDelta ndx item.entry (.deltaData item.entry data) = handled at ledger table silent ⊢
          obtain ⟨after, effects, value⟩ := handled
          cases value with
          | true => exact accepted_accounts session rfl rfl _ ledger table silent
          | false =>
              simp only [Bool.false_eq_true, if_false, stopOnCredit]
              refine .quiet session rfl rfl (by exact ledger) (by exact table) ?_ ?_ (by nofun)
              · exact (congrArg (List.filterMap requestNdx) silent)
              · exact fun reply member => absurd member (by rw [silent]; exact List.not_mem_nil)
  | deltaMatch ndx blockIndex =>
      simp only [handle]
      split
      · exact .quiet session rfl rfl (by rfl) (by rfl) (by rfl) (by simp [Effects.none]) (by nofun)
      · next item _ =>
          obtain ⟨ledger, table, silent⟩ :=
            session.forwardDelta_frame ndx item.entry (.deltaMatch item.entry blockIndex)
          refine .quiet session rfl rfl (by exact ledger) (by exact table) ?_ (by simp [pushDeltaMatch, silent]) (by nofun)
          simp only [Effects.requests, pushDeltaMatch, silent, List.filterMap_nil]
  | setAcl entry aclData =>
      simp only [handle]
      split
      · exact .quiet session rfl rfl (by rfl) (by rfl) (by rfl) (by simp [Effects.write]) (by nofun)
      · exact .quiet session rfl rfl (by rfl) (by rfl) (by rfl) (by simp [Effects.none]) (by nofun)
  | entryError path reason ndx =>
      cases ndx with
      | none => exact absurd rfl (indexed path reason)
      | some ndx => exact handleSourceFailure_accounts session path reason ndx
  | transferDone =>
      exact ⟨rfl, rfl, rfl, List.nil_sublist _, by simp [handle, Effects.none], stopIf_complete⟩

/-! ### Outcomes -/

/-- The verdict on the outcome of an index: its terminated indices and the replies. -/
inductive Settles (session : RemoteSessionState) (ndx : Ndx) (outcome : FileOutcome) :
    List Ndx → List ReceiverMsg → Prop where
  | again (mismatch : isMismatch outcome = true) :
      Settles session ndx outcome session.ledger.terminatedNdx [.redo ndx]
  | terminal {replies : List ReceiverMsg}
      (plain : ∀ reply ∈ replies, redoNdx reply = none ∧ requestNdx reply = none) :
      Settles session ndx outcome (session.ledger.recordTerminal ndx).1.terminatedNdx replies

/-- An outcome changes the ledger and the attempts only. -/
structure Acknowledges (session after : RemoteSessionState) (effects : Effects) (value : Bool) :
    Prop where
  activeTransfer : after.activeTransfer = session.activeTransfer
  table : after.ndxTable = session.ndxTable
  credit : after.credit = session.credit
  requested : after.ledger.requested = session.ledger.requested
  completed : after.ledger.completed + session.ledger.terminatedNdx.length =
    session.ledger.completed + after.ledger.terminatedNdx.length
  concluded : after.ledger.transferDoneSeen = session.ledger.transferDoneSeen
  commands : effects.commands = []
  requests : effects.requests = []
  grants : effects.replies.filterMap grantBytes = []
  stops : value = true → after.isComplete = true

/-- The judged acknowledgement of an outcome. -/
theorem judge_cases (session : RemoteSessionState) (ndx : Ndx) (outcome : FileOutcome) :
    ∃ attempts ack terminal, session.judge ndx outcome = ({ session with attempts }, ack, terminal) ∧
      requestNdx ack = none ∧ grantBytes ack = none ∧
      (terminal = true → redoNdx ack = none) ∧
      (terminal = false → ack = .redo ndx ∧ isMismatch outcome = true) := by
  have mismatch (reason : String) (mismatched : isMismatch outcome = true) :
      ∃ attempts ack terminal, session.redoOrError ndx reason = ({ session with attempts }, ack, terminal) ∧
        requestNdx ack = none ∧ grantBytes ack = none ∧
        (terminal = true → redoNdx ack = none) ∧
        (terminal = false → ack = .redo ndx ∧ isMismatch outcome = true) := by
    simp only [redoOrError]
    split
    · exact ⟨_, _, _, rfl, rfl, rfl, nofun, fun _ => ⟨rfl, mismatched⟩⟩
    · exact ⟨_, _, _, rfl, rfl, rfl, fun _ => rfl, nofun⟩
  cases outcome with
  | success => exact ⟨session.attempts, _, _, rfl, rfl, rfl, fun _ => rfl, nofun⟩
  | hardError reason => exact ⟨session.attempts, _, _, rfl, rfl, rfl, fun _ => rfl, nofun⟩
  | hashMismatch => exact mismatch "hash mismatch" rfl
  | sizeMismatch => exact mismatch "size mismatch" rfl

theorem handleFileOutcome_settles (session : RemoteSessionState) (ndx : Ndx) (outcome : FileOutcome) :
    Settles session ndx outcome (session.handleFileOutcome ndx outcome).session.ledger.terminatedNdx
        (session.handleFileOutcome ndx outcome).effects.replies ∧
      Acknowledges session (session.handleFileOutcome ndx outcome).session
        (session.handleFileOutcome ndx outcome).effects (session.handleFileOutcome ndx outcome).value := by
  obtain ⟨attempts, ack, terminal, judged, request, grant, last, first⟩ := session.judge_cases ndx outcome
  obtain ⟨completed, requested, concluded⟩ := recordTerminal_completed session.ledger ndx
  simp only [handleFileOutcome, judged]
  cases terminal with
  | false =>
      obtain ⟨again, mismatch⟩ := first rfl
      subst again
      exact ⟨.again mismatch, rfl, rfl, rfl, rfl, rfl, rfl, rfl, rfl, rfl, nofun⟩
  | true =>
      simp only [Bool.not_true, Bool.false_eq_true, if_false]
      split
      · exact ⟨.terminal (by simp [Effects.none]), rfl, rfl, rfl, requested, completed, concluded, rfl, rfl, rfl,
          nofun⟩
      · refine ⟨.terminal ?_, rfl, rfl, rfl, requested, completed, concluded, rfl, ?_, ?_, id⟩
        · intro reply member
          rw [List.mem_singleton.mp member]
          exact ⟨last rfl, request⟩
        · simp only [Effects.requests, List.filterMap_cons, request, List.filterMap_nil]
        · simp only [List.filterMap_cons, grant, List.filterMap_nil]

end RemoteSessionState

end Terrasync.App
