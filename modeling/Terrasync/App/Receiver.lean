import Terrasync.App.RemoteReceiverSession

/-! The receiver process of a session (`receiver.rs`): the message loop
`recv_file_list_and_data_phase`, its disk-commit task with the command and outcome
queues between them, and the shutdown after the loop. -/

set_option autoImplicit false

namespace Terrasync.App

open Transport

/-- Destination answers while a page is classified; items are numbered by position. -/
structure PageAnswers where
  /-- `read_destination_index`; a missing directory is an empty listing. -/
  listing : Except String (List ObservedEntry)
  file : Nat → ItemAnswers
  subdir : Nat → ItemAnswers
  deleteFailed : Nat → Option String

structure MessageAnswers where
  page : PageAnswers
  createSymlink : Option String

inductive Stop where
  | complete
  /-- The destination listing failed. -/
  | listingFailed (reason : String)
  /-- The sender reported a failed source listing. -/
  | sourceListingFailed (path : RelativePath) (reason : String)
  | creditFailed (error : TransportError)
  | transportClosed
  /-- An early return: a versioned directory could not be created. -/
  | returned (reason : String)
deriving DecidableEq, Repr

/-- The index `read_destination_index` builds. -/
def destinationIndex (listing : List ObservedEntry) : DestIndex := listing.foldl DestIndex.insert .new

/-- The index a reply requests. -/
def requestNdx : ReceiverMsg → Option Ndx
  | .transferRequest ndx _ => some ndx
  | .deltaTransferRequest ndx _ _ => some ndx
  | _ => none

def grantBytes : ReceiverMsg → Option Nat
  | .creditGrant bytes => some bytes
  | _ => none

/-- The index a reply asks for again. -/
def redoNdx : ReceiverMsg → Option Ndx
  | .redo ndx => some ndx
  | _ => none

namespace RemoteSessionState

/-- The two classification handlers of a file. -/
def classify (config : ReceiverConfig) (answers : ItemAnswers) (session : RemoteSessionState)
    (numbered : NdxEntry) (decision : TransferDecision) : Handled Bool :=
  let base := session.handleBaseClassification answers numbered.ndx numbered.entry decision
  if base.value then base
  else session.handleDeltaClassification config answers numbered.ndx numbered.entry decision

/-- What happens to a file of a page before its decision is acted on. -/
inductive FileStep where
  | ignored
  | createsDirectory
  | decided (decision : TransferDecision)
deriving DecidableEq, Repr

def fileStep (config : ReceiverConfig) (index : DestIndex) (item : ObservedItem) : FileStep :=
  match item.version with
  | some record =>
      if !config.keepsHistory ∧ (!record.isLatest ∨ record.isDeleteMarker) then .ignored
      else if !config.keepsHistory ∧ !config.holdsDirectoryObjects ∧ item.entry.getIsDir then
        .createsDirectory
      else .decided .fullTransfer
  | none => .decided (index.check item.entry).2

/-- The index after a file of a page: the match of its path is marked. -/
def fileMarked (index : DestIndex) (item : ObservedItem) : DestIndex :=
  if item.version.isSome then index.markMatched item.entry else (index.check item.entry).1

/-- The iteration of the page loop for one file; an error is returned from the loop. -/
def handleFile (config : ReceiverConfig) (answers : ItemAnswers) (session : RemoteSessionState)
    (index : DestIndex) (numbered : NdxEntry) : Handled (Option String) :=
  match fileStep config index numbered.entry with
  | .ignored => ⟨session, .none, none⟩
  | .createsDirectory =>
      let path := numbered.entry.entry.path
      match answers.createDir with
      | some reason => ⟨session, .write .createDirectory path [], some reason⟩
      | none =>
          ⟨session, .write .createDirectory path
            [.classifiedObservation numbered.ndx .fullTransfer, .success numbered.ndx], none⟩
  | .decided decision =>
      let handled := session.classify config answers numbered decision
      ⟨handled.session, handled.effects, none⟩

def handleFiles (config : ReceiverConfig) (answers : Nat → ItemAnswers) (position : Nat)
    (session : RemoteSessionState) (index : DestIndex) : List NdxEntry → Handled (Except String DestIndex)
  | [] => ⟨session, .none, .ok index⟩
  | numbered :: rest =>
      let handled := session.handleFile config (answers position) index numbered
      match handled.value with
      | some reason => ⟨handled.session, handled.effects, .error reason⟩
      | none =>
          let remaining := handleFiles config answers (position + 1) handled.session
            (fileMarked index numbered.entry) rest
          { remaining with effects := handled.effects.append remaining.effects }

def handlePage (config : ReceiverConfig) (answers : PageAnswers) (session : RemoteSessionState)
    (page : DirPageResult) : Handled (Option Stop) :=
  let ingested := session.ingestPage page
  match answers.listing with
  | .error reason => ⟨ingested, .none, some (.listingFailed reason)⟩
  | .ok listing =>
      let files := ingested.handleFiles config answers.file 0 (destinationIndex listing) page.files
      match files.value with
      | .error reason => ⟨files.session, files.effects, some (.returned reason)⟩
      | .ok index =>
          let lifecycle := files.session.handleDirectoryLifecycle config answers.subdir answers.deleteFailed
            page index
          ⟨lifecycle.session, files.effects.append lifecycle.effects, none⟩

def stopIf (complete : Bool) : Option Stop := if complete then some .complete else none

def handleCreateDir (session : RemoteSessionState) (entry : ObservedEntry) : Handled (Option Stop) :=
  if !entry.path.validate then
    ⟨session, .reply (.entryError entry (unsafeRelativePath entry.path)), none⟩
  else
    ⟨session, (Effects.write .createDirectory entry.path []).append
      (.write .setMetadata (metadataPath entry) [.entrySuccess entry]), none⟩

def handleCreateSymlink (failed : Option String) (session : RemoteSessionState) (entry : ObservedEntry) :
    Handled (Option Stop) :=
  let completed := session.completeUnindexed
  if !entry.path.validate then
    ⟨completed.1, .reply (.entryError entry (unsafeRelativePath entry.path)), stopIf completed.2⟩
  else
    match failed with
    | none => ⟨completed.1, .write .createSymlink entry.path [.entrySuccess entry], stopIf completed.2⟩
    | some reason =>
        ⟨completed.1, .write .createSymlink entry.path [.entryError entry reason], stopIf completed.2⟩

def stopOnCredit (handled : Handled (Except TransportError Bool)) : Handled (Option Stop) :=
  match handled.value with
  | .ok _ => ⟨handled.session, handled.effects, none⟩
  | .error error => ⟨handled.session, handled.effects, some (.creditFailed error)⟩

def handleEndOfFile (session : RemoteSessionState) (ndx : Ndx) (sourceHash : Option SourceHash) :
    Handled (Option Stop) :=
  match session.indexedEntry ndx with
  | none => ⟨session, .none, none⟩
  | some item =>
      let full := session.commitFull ndx item.entry sourceHash
      if full.value then ⟨full.session, full.effects, none⟩
      else
        let delta := session.commitDelta ndx item.entry sourceHash
        ⟨delta.session, delta.effects, none⟩

/-- One message of the loop, and whether the loop ends with it. -/
def handle (config : ReceiverConfig) (answers : MessageAnswers) (session : RemoteSessionState) :
    SenderMsg → Handled (Option Stop)
  | .filePage page => session.handlePage config answers.page page
  | .fileListError path reason => ⟨session, .none, some (.sourceListingFailed path reason)⟩
  | .fileListDone => ⟨session, .reply .requestsDone, none⟩
  | .createDir entry => session.handleCreateDir entry
  | .createSymlink entry _ => session.handleCreateSymlink answers.createSymlink entry
  | .writeDeleteMarker ndx =>
      match session.indexedEntry ndx with
      | none => ⟨session, .none, none⟩
      | some item => ⟨session, .command (.writeDeleteMarker ndx item), none⟩
  | .fileBegin ndx =>
      match session.indexedEntry ndx with
      | none => ⟨session, .none, none⟩
      | some item =>
          let begun := session.beginFull ndx item
          ⟨begun.session, begun.effects, none⟩
  | .fileData ndx chunk => stopOnCredit (session.acceptFullChunk ndx chunk)
  | .deltaMatch ndx blockIndex =>
      match session.indexedEntry ndx with
      | none => ⟨session, .none, none⟩
      | some item =>
          let pushed := session.pushDeltaMatch ndx item.entry blockIndex
          ⟨pushed.session, pushed.effects, none⟩
  | .deltaData ndx data =>
      match session.indexedEntry ndx with
      | none => ⟨session, .none, none⟩
      | some item => stopOnCredit (session.acceptDeltaData ndx item.entry data)
  | .endOfFile ndx sourceHash => session.handleEndOfFile ndx sourceHash
  | .setAcl entry aclData =>
      if config.session.enableAcl ∧ config.decodesAcl aclData then
        ⟨session, .write .applyAcl entry.path [], none⟩
      else ⟨session, .none, none⟩
  | .entryError _ _ ndx =>
      let failed := session.handleSourceFailure ndx
      ⟨failed.session, failed.effects, stopIf failed.value⟩
  | .transferDone =>
      let observed := session.observeTransferDone
      ⟨observed.1, .none, stopIf observed.2⟩

def handleAck (session : RemoteSessionState) : DcAck → Handled Bool
  | .entry ack => session.handleEntryOutcome ack
  | .fileOutcome ndx outcome => session.handleFileOutcome ndx outcome

/-- The outcomes still queued when the disk-commit task has ended. -/
def drainOutcomes (session : RemoteSessionState) : List DcAck → Handled Unit
  | [] => ⟨session, .none, ()⟩
  | ack :: rest =>
      let handled := session.handleAck ack
      let remaining := drainOutcomes handled.session rest
      { remaining with effects := handled.effects.append remaining.effects }

end RemoteSessionState

structure Receiver where
  session : RemoteSessionState
  /-- Why the loop ended. -/
  stop : Option Stop
  /-- Commands sent to the disk-commit task and not processed yet. -/
  commands : List DiskCommitMsg
  committer : FileCommitState
  diskDone : Bool
  outcomes : List DcAck
  finished : Bool
  mutations : List Mutation
  errors : Nat

inductive ReceiverAction where
  /-- The loop receives a message. -/
  | deliver (message : SenderMsg) (answers : MessageAnswers)
  /-- The transport has closed. -/
  | disconnect
  /-- The loop receives the next outcome. -/
  | acknowledge
  /-- The disk-commit task processes the next command. -/
  | commit (answers : DiskAnswers)
  /-- `shutdown_disk_commit`, once the disk-commit task has ended. -/
  | drain

namespace Receiver

def new (credit : ReceiverCreditState) : Receiver :=
  ⟨.new credit, none, [], .idle, false, [], false, [], 0⟩

/-- Install the result of a handler; replies are sent by the caller. -/
def install (receiver : Receiver) (session : RemoteSessionState) (effects : Effects) : Receiver :=
  { receiver with
    session
    commands := receiver.commands ++ effects.commands
    mutations := receiver.mutations ++ effects.mutations
    errors := receiver.errors + effects.errors }

/-- What follows the loop: a failure aborts the active file and forgets the directories,
and every end but an early return shuts the disk-commit task down in order. -/
def halt (receiver : Receiver) (stop : Stop) : Receiver :=
  let stopped := { receiver with stop := some stop }
  match stop with
  | .complete | .returned _ => { stopped with commands := stopped.commands ++ [.shutdown] }
  | .listingFailed _ | .sourceListingFailed .. | .creditFailed _ =>
      { stopped with
        session := stopped.session.abortActiveFile.session.discardDirectoryMetadata
        commands := stopped.commands ++ [.abortFile, .shutdown]
        errors := stopped.errors + 1 }
  | .transportClosed =>
      { stopped with
        session := stopped.session.abortActiveFile.session.discardDirectoryMetadata
        commands := stopped.commands ++ [.abortFile, .shutdown] }

def haltIf (receiver : Receiver) : Option Stop → Receiver
  | none => receiver
  | some stop => receiver.halt stop

def deliver (config : ReceiverConfig) (answers : MessageAnswers) (receiver : Receiver)
    (message : SenderMsg) : Receiver × List ReceiverMsg :=
  let handled := receiver.session.handle config answers message
  ((receiver.install handled.session handled.effects).haltIf handled.value, handled.effects.replies)

def acknowledge (receiver : Receiver) (ack : DcAck) (outcomes : List DcAck) :
    Receiver × List ReceiverMsg :=
  let handled := receiver.session.handleAck ack
  ((({ receiver with outcomes }).install handled.session handled.effects).haltIf
      (RemoteSessionState.stopIf handled.value), handled.effects.replies)

def commitNext (config : SessionConfig) (answers : DiskAnswers) (receiver : Receiver)
    (command : DiskCommitMsg) (commands : List DiskCommitMsg) : Receiver :=
  let committed := receiver.committer.dispatch config answers command
  { receiver with
    commands
    committer := committed.state
    diskDone := decide (command = .shutdown)
    outcomes := receiver.outcomes ++ committed.acks
    mutations := receiver.mutations ++ committed.mutations }

/-- Outcomes are drained, then directory metadata is restored and left-over credit
dropped. A complete session ends with `AllDone`. -/
def drain (receiver : Receiver) (stop : Stop) : Receiver × List ReceiverMsg :=
  let drained := receiver.session.drainOutcomes receiver.outcomes
  let installed := ({ receiver with outcomes := [], finished := true }).install
    drained.session.discardResidualCredit drained.effects
  ({ installed with mutations := installed.mutations ++ drained.session.finalizeDirectories },
    drained.effects.replies ++ if stop = .complete then [.allDone] else [])

def step (config : ReceiverConfig) (receiver : Receiver) :
    ReceiverAction → Option (Receiver × List ReceiverMsg)
  | .deliver message answers =>
      if receiver.stop = none then some (receiver.deliver config answers message) else none
  | .disconnect => if receiver.stop = none then some (receiver.halt .transportClosed, []) else none
  | .acknowledge =>
      match receiver.outcomes with
      | [] => none
      | ack :: outcomes =>
          if receiver.stop = none then some (receiver.acknowledge ack outcomes) else none
  | .commit answers =>
      match receiver.commands with
      | [] => none
      | command :: commands =>
          if receiver.diskDone then none
          else some (receiver.commitNext config.session answers command commands, [])
  | .drain =>
      match receiver.stop with
      | none | some (.returned _) => none
      | some stop =>
          if receiver.diskDone ∧ !receiver.finished then some (receiver.drain stop) else none

/-- The receiver alone, against a peer that may send any message at any time. -/
def machine (config : ReceiverConfig) : Lib.Machine Receiver ReceiverAction :=
  ⟨fun receiver action => (receiver.step config action).map Prod.fst⟩

end Receiver

end Terrasync.App
