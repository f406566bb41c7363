import Terrasync.App.ReceiverProperties

/-! The transfer attempts of a session as its disk commands delimit them, and what
`FileCommitter` reports for each. The commands of a session are collected first: the
queue to the disk-commit task is first in, first out, so that task sees them in the
order in which they were sent, whenever it takes them. -/

set_option autoImplicit false

namespace Terrasync.App

open Transport

/-- An attempt, from its begin command to the command that ends it. -/
structure Attempt where
  key : TransferKey
  /-- The size declared by the begin command. -/
  size : Nat
  /-- Outcomes reported since the begin command, with the index each of them names. -/
  reports : List (Ndx × FileOutcome)
  /-- The command that ended the attempt, and the destination's answers to it. -/
  ending : Option (DiskCommitMsg × DiskAnswers)

def Attempt.opening : DiskCommitMsg → Option Attempt
  | .fileBegin ndx entry => some ⟨⟨ndx, entry.entry.path, .full⟩, entry.getSize, [], none⟩
  | .deltaBegin ndx entry _ =>
      some ⟨⟨ndx, entry.path, .delta⟩, (ObservedItem.ofEntry entry).getSize, [], none⟩
  | _ => none

def commitsNdx : DiskCommitMsg → Option Ndx
  | .fileCommit ndx _ _ | .deltaCommit ndx _ _ => some ndx
  | _ => none

/-- The digest of the source that a commit carries. -/
def sentHash : DiskCommitMsg → Option SourceHash
  | .fileCommit _ _ sourceHash | .deltaCommit _ _ sourceHash => sourceHash
  | _ => none

/-- A commit of its index ends an attempt; so does any abort. -/
def Attempt.endsWith (attempt : Attempt) (command : DiskCommitMsg) : Bool :=
  commitsNdx command = some attempt.key.ndx || endsTransfer command

def outcomeReport : DcAck → Option (Ndx × FileOutcome)
  | .fileOutcome ndx outcome => some (ndx, outcome)
  | .entry _ => none

/-- What `FileCommitter` reports; the outcome of a delete marker is not one of its own. -/
def committerReports (acks : List DcAck) : DiskCommitMsg → List (Ndx × FileOutcome)
  | .writeDeleteMarker .. => []
  | _ => acks.filterMap outcomeReport

structure AttemptLog where
  committer : FileCommitState
  current : Option Attempt
  closed : List Attempt
  /-- Outcomes reported outside of every attempt. -/
  strays : List (Ndx × FileOutcome)

namespace AttemptLog

def new : AttemptLog := ⟨.idle, none, [], []⟩

def perform (config : SessionConfig) (log : AttemptLog) (step : DiskCommitMsg × DiskAnswers) :
    AttemptLog :=
  let committed := log.committer.dispatch config step.2 step.1
  let reports := committerReports committed.acks step.1
  match Attempt.opening step.1 with
  | some opened =>
      { log with
        committer := committed.state
        current := some { opened with reports }
        closed := log.closed ++ log.current.toList }
  | none =>
      match log.current with
      | none => { log with committer := committed.state, strays := log.strays ++ reports }
      | some attempt =>
          let extended := { attempt with reports := attempt.reports ++ reports }
          if attempt.endsWith step.1 then
            { log with
              committer := committed.state
              current := none
              closed := log.closed ++ [{ extended with ending := some step }] }
          else { log with committer := committed.state, current := some extended }

def performAll (config : SessionConfig) (log : AttemptLog)
    (script : List (DiskCommitMsg × DiskAnswers)) : AttemptLog :=
  script.foldl (perform config) log

end AttemptLog

/-- A success is reported for the declared length, and for the digest that was sent. -/
def Attempt.Verified (config : SessionConfig) (attempt : Attempt) : Prop :=
  ∃ command answers, attempt.ending = some (command, answers) ∧ answers.receivedSize = attempt.size ∧
    (config.enableIntegrityCheck = true → ∀ hash, sentHash command = some hash → answers.receivedHash = hash)

/-- Exactly one outcome after a commit, at most one otherwise, under the attempt's index. -/
structure Attempt.Settled (config : SessionConfig) (attempt : Attempt) : Prop where
  atMostOne : attempt.reports.length ≤ 1
  named : ∀ report ∈ attempt.reports, report.1 = attempt.key.ndx
  committed : ∀ command answers, attempt.ending = some (command, answers) →
    commitsNdx command = some attempt.key.ndx → attempt.reports.length = 1
  verified : ∀ report ∈ attempt.reports, report.2 = .success → attempt.Verified config

structure AttemptLog.Exact (config : SessionConfig) (log : AttemptLog) : Prop where
  settled : ∀ attempt ∈ log.closed ++ log.current.toList, attempt.Settled config
  ended : ∀ attempt ∈ log.closed, attempt.ending.isSome = true
  strays : log.strays = []

/-- A session with the disk commands it has sent. -/
structure IssuingSession where
  session : RemoteSessionState
  issued : List DiskCommitMsg
  shutDown : Bool

/-- What makes a session send disk commands. Outcomes may arrive at any time. -/
inductive SessionInput where
  | message (message : SenderMsg) (answers : MessageAnswers)
  | outcome (ack : DcAck)
  /-- `abort_active_file` after the receive loop. -/
  | abort
  /-- `shutdown_disk_commit`: nothing is sent afterwards. -/
  | shutdown

namespace IssuingSession

def new (credit : ReceiverCreditState) : IssuingSession := ⟨.new credit, [], false⟩

def issue (issuing : IssuingSession) (session : RemoteSessionState) (effects : Effects) : IssuingSession :=
  { issuing with session, issued := issuing.issued ++ effects.commands }

def accept (config : ReceiverConfig) (issuing : IssuingSession) : SessionInput → IssuingSession
  | .message message answers =>
      let handled := issuing.session.handle config answers message
      issuing.issue handled.session handled.effects
  | .outcome ack =>
      let handled := issuing.session.handleAck ack
      issuing.issue handled.session handled.effects
  | .abort => issuing.issue issuing.session.abortActiveFile.session issuing.session.abortActiveFile.effects
  | .shutdown => { issuing with issued := issuing.issued ++ [.shutdown], shutDown := true }

def machine (config : ReceiverConfig) : Lib.Machine IssuingSession SessionInput :=
  ⟨fun issuing input => if issuing.shutDown then none else some (issuing.accept config input)⟩

/-- The path that a session has for an index. -/
def indexedPath (session : RemoteSessionState) (ndx : Ndx) : Option RelativePath :=
  (session.indexedEntry ndx).map fun item => item.entry.path

/-- No page gives another path to the index that is being transferred. -/
def KeepsPath (issuing : IssuingSession) : SessionInput → Prop
  | .message message _ =>
      ∀ page ∈ pageOf message, ∀ ndx ∈ issuing.session.activeTransfer.ndx,
        indexedPath (issuing.session.ingestPage page) ndx = indexedPath issuing.session ndx
  | .outcome _ | .abort | .shutdown => True

instance (issuing : IssuingSession) : ∀ input, Decidable (issuing.KeepsPath input)
  | .message message _ => inferInstanceAs (Decidable (∀ page ∈ pageOf message, _))
  | .outcome _ | .abort | .shutdown => isTrue trivial

end IssuingSession

end Terrasync.App
