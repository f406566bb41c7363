import Mathlib.Data.List.Perm.Subperm
import Terrasync.App.RemoteSessionRuns

/-! A receiver session does not finish early: when its loop stops complete, every index it
requested has reached a terminal. -/

set_option autoImplicit false

namespace Terrasync.App

open Transport

namespace RemoteSession

variable {config : RemoteConfig}

/-- What holds while the receiver loop runs. -/
structure Sound (session : RemoteSession) : Prop where
  orderly : session.Orderly
  valid : ∀ ndx, (session.account ndx).Valid
  numbered : session.Numbered
  counted : session.Counted

theorem sound_new {inventory : List NdxEvent} (unambiguous : Unambiguous inventory)
    (senderCredit : SenderCreditLedger) (receiverCredit : ReceiverCreditState) :
    (new inventory senderCredit receiverCredit).Sound where
  orderly := by
    refine ⟨.script ?_ ?_ ?_ List.Pairwise.nil, ⟨?_, ?_, FileCommitState.noConfusion⟩⟩ <;>
      exact fun _ member => absurd member List.not_mem_nil
  valid := fun ndx => by
    have empty : (new inventory senderCredit receiverCredit).account ndx =
        ⟨false, 0, 0, 0, 0, 0, 0, false, false⟩ := by
      simp [account, new, RemoteSenderSession.new, Receiver.new, RemoteSessionState.new, TransferLedger.new,
        FileCommitState.key, FileCommitState.active]
    rw [empty]
    constructor <;> simp [Account.tokens]
  numbered := ⟨unambiguous.distinct, fun _ _ => rfl, fun _ member => absurd member List.not_mem_nil⟩
  counted := ⟨rfl, rfl, List.nodup_nil, List.nodup_nil⟩

theorem sound_step {session next : RemoteSession} {action : RemoteAction} (sound : session.Sound)
    (running : session.receiver.stop = none) (stepped : session.step config action = some next)
    (goesOn : GoesOn next.receiver.stop) : next.Sound where
  orderly := orderly_step sound.orderly sound.valid running stepped goesOn
  valid := fun ndx => (step_moves sound.orderly (sound.numbered.freshPages sound.orderly) running stepped
    goesOn ndx).valid (sound.valid ndx)
  numbered := numbered_step sound.orderly sound.numbered running stepped goesOn
  counted := counted_step sound.orderly sound.numbered sound.counted running stepped goesOn

/-! ### Terminals -/

/-- An index has a terminal in the ledger, or the symbolic link it asked for was handled. -/
def Settled (session : RemoteSession) (ndx : Ndx) : Prop :=
  ndx ∈ session.receiver.session.ledger.terminatedNdx ∨ ndx ∈ session.linked

def Covered (session : RemoteSession) : Prop := ∀ ndx ∈ session.requested, session.Settled ndx

/-- Terminals and links are distinct requests. -/
theorem Sound.settled_once {session : RemoteSession} (sound : session.Sound) :
    (session.receiver.session.ledger.terminatedNdx ++ session.linked).Nodup ∧
      session.receiver.session.ledger.terminatedNdx ++ session.linked ⊆ session.requested := by
  have waits {ndx : Ndx} (linked : ndx ∈ session.linked) : 0 < (session.account ndx).late := by
    have once := List.count_pos_iff.mpr linked
    simp only [account]
    omega
  constructor
  · refine List.nodup_append.mpr ⟨sound.counted.terminatedOnce, List.nodup_iff_count_le_one.mpr fun ndx => ?_, ?_⟩
    · have single := (sound.valid ndx).single
      simp only [Account.tokens, account] at single
      omega
    · rintro ndx terminated other linked rfl
      have live := ((sound.valid ndx).late (waits linked)).2.2
      exact absurd terminated (of_decide_eq_false live)
  · intro ndx member
    by_contra unrequested
    obtain ⟨tokens, -, -, -, live⟩ := (sound.valid ndx).fresh (decide_eq_false unrequested)
    rcases List.mem_append.mp member with terminated | linked
    · exact absurd terminated (of_decide_eq_false live)
    · have waiting := waits linked
      simp only [Account.tokens] at tokens
      omega

/-- The comparison of the counters speaks for every single request. -/
theorem Sound.covered {session : RemoteSession} (sound : session.Sound)
    (complete : session.receiver.session.isComplete = true) : session.Covered := by
  obtain ⟨distinct, subset⟩ := sound.settled_once
  simp only [RemoteSessionState.isComplete, TransferLedger.isComplete, Bool.and_eq_true,
    decide_eq_true_eq] at complete
  have enough : session.requested.length ≤
      (session.receiver.session.ledger.terminatedNdx ++ session.linked).length := by
    rw [List.length_append, ← sound.counted.completions, ← sound.counted.requests]
    exact complete.2
  have all := (distinct.subperm subset).perm_of_length_le enough
  intro ndx requested
  exact List.mem_append.mp (all.mem_iff.mpr requested)

/-- With every request settled, the counters agree that the session is complete. -/
theorem Sound.complete {session : RemoteSession} (sound : session.Sound) (covered : session.Covered)
    (concluded : session.receiver.session.ledger.transferDoneSeen = true) :
    session.receiver.session.isComplete = true := by
  have fewer := (sound.counted.requestedOnce.subperm fun ndx requested =>
    List.mem_append.mpr (covered ndx requested)).length_le
  rw [List.length_append, ← sound.counted.completions, ← sound.counted.requests] at fewer
  simp only [RemoteSessionState.isComplete, TransferLedger.isComplete, concluded, Bool.true_and,
    decide_eq_true_eq]
  exact fewer

/-! ### After the loop -/

theorem receive_stops {session next : RemoteSession} {stream : StreamKind} {answers : MessageAnswers}
    (orderly : session.Orderly) (stepped : session.receive config stream answers = some next)
    (stopped : next.receiver.stop = some .complete) : next.receiver.session.isComplete = true := by
  obtain ⟨outgoing, taken, took, state, stop, -, -, -⟩ := receive_state stepped (.inr stopped)
  have accounts := RemoteSessionState.handle_accounts config.receiver answers session.receiver.session
    (indexed_of_take orderly took)
  rw [state]
  exact accounts.stops (stop ▸ stopped)

/-- The loop stops complete only with a complete ledger. -/
theorem step_stops {session next : RemoteSession} {action : RemoteAction} (orderly : session.Orderly)
    (running : session.receiver.stop = none) (stepped : session.step config action = some next)
    (stopped : next.receiver.stop = some .complete) : next.receiver.session.isComplete = true := by
  rcases step_aside orderly running stepped (.inr stopped) with ⟨stream, answers, rfl⟩ | rfl | aside
  · exact receive_stops orderly stepped stopped
  · obtain ⟨ndx, outcome, -, -, -, -, -, complete⟩ := acknowledge_state orderly stepped
    exact complete stopped
  · rw [aside.stop, running] at stopped
    cases stopped

/-- What draining file outcomes does to the ledger. -/
structure Drains (before after : RemoteSessionState) (effects : Effects) : Prop where
  requested : after.ledger.requested = before.ledger.requested
  completed : before.ledger.completed ≤ after.ledger.completed
  concluded : after.ledger.transferDoneSeen = before.ledger.transferDoneSeen
  terminated : before.ledger.terminatedNdx ⊆ after.ledger.terminatedNdx
  requests : effects.requests = []
  commands : effects.commands = []

theorem settles_grows {session : RemoteSessionState} {ndx : Ndx} {outcome : FileOutcome}
    {terminated : List Ndx} {replies : List ReceiverMsg} (settles : session.Settles ndx outcome terminated replies) :
    session.ledger.terminatedNdx.Sublist terminated := by
  cases settles with
  | again mismatch => exact .refl _
  | terminal plain =>
      simp only [TransferLedger.recordTerminal]
      split
      · exact .refl _
      · exact List.sublist_cons_self _ _

theorem handleFileOutcome_drains (session : RemoteSessionState) (ndx : Ndx) (outcome : FileOutcome) :
    Drains session (session.handleFileOutcome ndx outcome).session
      (session.handleFileOutcome ndx outcome).effects := by
  obtain ⟨settles, frame⟩ := session.handleFileOutcome_settles ndx outcome
  have grows := settles_grows settles
  have law := frame.completed
  have longer := grows.length_le
  exact ⟨frame.requested, by omega, frame.concluded, grows.subset, frame.requests, frame.commands⟩

theorem drainOutcomes_drains (session : RemoteSessionState) {outcomes : List DcAck}
    (files : ∀ ack ∈ outcomes, ∃ ndx outcome, ack = .fileOutcome ndx outcome) :
    Drains session (session.drainOutcomes outcomes).session (session.drainOutcomes outcomes).effects := by
  induction outcomes generalizing session with
  | nil => exact ⟨rfl, Nat.le_refl _, rfl, fun _ member => member, rfl, rfl⟩
  | cons ack rest ih =>
      obtain ⟨⟨ndx, outcome, rfl⟩, remaining⟩ := List.forall_mem_cons.mp files
      have head := handleFileOutcome_drains session ndx outcome
      have tail := ih (session.handleFileOutcome ndx outcome).session remaining
      refine ⟨tail.requested.trans head.requested, head.completed.trans tail.completed,
        tail.concluded.trans head.concluded, List.Subset.trans head.terminated tail.terminated, ?_, ?_⟩
      · simp only [RemoteSessionState.drainOutcomes, RemoteSessionState.handleAck, Effects.requests_append,
          head.requests, tail.requests, List.append_nil]
      · simp only [RemoteSessionState.drainOutcomes, RemoteSessionState.handleAck, Effects.append_commands,
          head.commands, tail.commands, List.append_nil]

/-- What holds once the loop has stopped complete. -/
structure Finished (session : RemoteSession) : Prop where
  queued : Queued session.receiver
  complete : session.receiver.session.isComplete = true
  covered : session.Covered

/-- A stopped loop takes neither messages nor outcomes. -/
theorem stopped_cases {session next : RemoteSession} {action : RemoteAction} {stop : Stop}
    (stopped : session.receiver.stop = some stop) (stepped : session.step config action = some next) :
    (next.receiver = session.receiver ∧ next.requested = session.requested ∧ next.linked = session.linked) ∨
      (∃ answers command rest, session.receiver.commands = command :: rest ∧
        next = session.reply (session.receiver.commitNext config.receiver.session answers command rest, [])) ∨
      next = session.reply (session.receiver.drain stop) := by
  cases action with
  | advertise =>
      rcases advertise_eq stepped with ⟨page, inventory, -, rfl⟩ | ⟨inventory, done, message, -, -, -, rfl⟩ <;>
        exact .inl (post_frame _ _).2
  | serve stream answers =>
      obtain ⟨-, message, requests, acks, -, rfl⟩ := serve_eq stepped
      exact .inl ⟨rfl, rfl, rfl⟩
  | send =>
      rcases send_eq stepped with ⟨failure, rfl⟩ | ⟨outgoing, script, credit, -, -, rfl⟩
      · exact .inl ⟨rfl, rfl, rfl⟩
      · exact .inl (post_frame _ _).2
  | applyGrant =>
      obtain ⟨bytes, grants, -, rfl⟩ := applyGrant_eq stepped
      exact .inl ⟨rfl, rfl, rfl⟩
  | receive stream answers =>
      obtain ⟨outgoing, taken, -, running, -⟩ := receive_eq stepped
      rw [running] at stopped
      cases stopped
  | disconnect => simp [step, receiverStep, Receiver.step, stopped] at stepped
  | acknowledge =>
      simp only [step, receiverStep, Receiver.step, stopped] at stepped
      cases queue : session.receiver.outcomes <;> simp [queue] at stepped
  | commit answers =>
      obtain ⟨command, rest, queue, rfl⟩ := commit_eq stepped
      exact .inr (.inl ⟨answers, command, rest, queue, rfl⟩)
  | drain =>
      refine .inr (.inr ?_)
      simp only [step, receiverStep, Receiver.step, stopped] at stepped
      cases stop with
      | returned reason => cases stepped
      | complete | listingFailed | sourceListingFailed | creditFailed | transportClosed =>
          simp only at stepped
          split at stepped
          · exact (Option.some.inj stepped).symm
          · cases stepped

theorem stopped_step {session next : RemoteSession} {action : RemoteAction} {stop : Stop}
    (stopped : session.receiver.stop = some stop) (stepped : session.step config action = some next) :
    next.receiver.stop = some stop := by
  rcases stopped_cases stopped stepped with ⟨receiver, -, -⟩ | ⟨answers, command, rest, -, rfl⟩ | rfl
  · rw [receiver]
    exact stopped
  · exact stopped
  · exact stopped

theorem finished_step {session next : RemoteSession} {action : RemoteAction} (finished : session.Finished)
    (stopped : session.receiver.stop = some .complete) (stepped : session.step config action = some next) :
    next.Finished := by
  rcases stopped_cases stopped stepped with
    ⟨receiver, requested, linked⟩ | ⟨answers, command, rest, queue, rfl⟩ | rfl
  · refine ⟨receiver ▸ finished.queued, receiver ▸ finished.complete, fun ndx member => ?_⟩
    have settled := finished.covered ndx (requested ▸ member)
    rwa [Settled, receiver, linked]
  · refine ⟨queued_commit finished.queued queue, finished.complete, fun ndx member => ?_⟩
    exact finished.covered ndx (by simpa [reply] using member)
  · have drains := drainOutcomes_drains session.receiver.session finished.queued.outcomes
    have requests := drains.requests
    simp only [Effects.requests] at requests
    refine ⟨⟨?_, fun _ member => absurd member List.not_mem_nil, finished.queued.settled⟩, ?_, ?_⟩
    · simp only [reply, Receiver.drain, Receiver.install, drains.commands, List.append_nil]
      exact finished.queued.commands
    · have complete := finished.complete
      simp only [RemoteSessionState.isComplete, TransferLedger.isComplete, Bool.and_eq_true,
        decide_eq_true_eq] at complete ⊢
      refine ⟨drains.concluded.trans complete.1, ?_⟩
      have before := drains.requested
      have after := drains.completed
      simp only [reply, Receiver.drain, Receiver.install, RemoteSessionState.discardResidualCredit]
      omega
    · intro ndx member
      have asked : ndx ∈ session.requested := by
        simpa [reply, Receiver.drain, requests, requestNdx] using member
      exact (finished.covered ndx asked).imp_left fun terminated => drains.terminated terminated

/-! ### Runs -/

/-- What holds in every reachable state of a session. -/
structure Reached (session : RemoteSession) : Prop where
  running : session.receiver.stop = none → session.Sound
  finished : session.receiver.stop = some .complete → session.Finished

theorem reached_step {session next : RemoteSession} {action : RemoteAction} (reached : session.Reached)
    (stepped : session.step config action = some next) : next.Reached := by
  cases stop : session.receiver.stop with
  | none =>
      have sound := reached.running stop
      refine ⟨fun running => sound_step sound stop stepped (.inl running), fun stopped => ?_⟩
      have after := sound_step sound stop stepped (.inr stopped)
      have complete := step_stops sound.orderly stop stepped stopped
      exact ⟨after.orderly.toQueued, complete, after.covered complete⟩
  | some reason =>
      have same := stopped_step stop stepped
      refine ⟨fun running => ?_, fun stopped => ?_⟩
      · rw [same] at running
        cases running
      · rw [same] at stopped
        cases stopped
        exact finished_step (reached.finished stop) stop stepped

theorem reached_run {inventory : List NdxEvent} (unambiguous : Unambiguous inventory)
    {senderCredit : SenderCreditLedger} {receiverCredit : ReceiverCreditState} {actions : List RemoteAction}
    {final : RemoteSession}
    (run : (machine config).exec (new inventory senderCredit receiverCredit) actions = some final) :
    final.Reached := by
  have start : (new inventory senderCredit receiverCredit).Reached :=
    ⟨fun _ => sound_new unambiguous senderCredit receiverCredit, nofun⟩
  exact @Lib.Machine.exec_invariant _ _ (machine config) Reached
    (fun reached stepped => @reached_step config _ _ _ reached stepped) _ _ _ start run

/-- Whenever the loop has stopped complete, every index for which a request was sent has
a terminal. -/
theorem complete_covers_requests {inventory : List NdxEvent} (unambiguous : Unambiguous inventory)
    {senderCredit : SenderCreditLedger} {receiverCredit : ReceiverCreditState} {actions : List RemoteAction}
    {final : RemoteSession}
    (run : (machine config).exec (new inventory senderCredit receiverCredit) actions = some final)
    (stopped : final.receiver.stop = some .complete) : ∀ ndx ∈ final.requested, final.Settled ndx :=
  ((reached_run unambiguous run).finished stopped).covered

/-! A session of two empty files. -/

def sampleConfig : RemoteConfig where
  sender := ⟨false, fun _ => .replicate 16 0⟩
  receiver :=
    { session := .plain
      keepsHistory := false
      holdsDirectoryObjects := false
      copiedTagsRequired := .ok false
      delta := false
      deltaSizeThreshold := 0
      blake3Truncated := fun _ => .replicate 16 0
      decodesAcl := fun _ => false }

def sampleItem : ItemAnswers := ⟨none, none, none, .ok []⟩

def sampleMessage : MessageAnswers :=
  ⟨⟨.ok [], fun _ => sampleItem, fun _ => sampleItem, fun _ => none⟩, none⟩

def sampleSource : SourceAnswers := ⟨.ok [], none, [], .ok [], none⟩

def sampleDisk : DiskAnswers where
  createDir := none
  createSymlink := none
  writeDeleteMarker := none
  plan := none
  observe := .ok 0
  prepare := none
  readBasis := fun _ _ => .ok []
  takesBasis := true
  takesData := true
  writeError := none
  receivedSize := 0
  inputEnded := true
  receivedHash := []
  publish := none

def samplePage : DirPageResult where
  dirPath := []
  ndxStart := 0
  files := [⟨0, .ofEntry (numberedFile 0)⟩, ⟨1, .ofEntry (numberedFile 1)⟩]
  subdirs := []
  gapNdx := 2

def sampleStart : RemoteSession := new [.page samplePage, .done] ⟨100, 100, false⟩ ⟨50, 0⟩

/-- The page and the end of the list are advertised and received. -/
def sampleListing : List RemoteAction :=
  [.advertise, .receive .fileList sampleMessage, .advertise, .receive .fileList sampleMessage]

/-- A file is requested, sent, committed and acknowledged. -/
def sampleTransfer : List RemoteAction :=
  [.serve .fileList sampleSource, .send, .send, .receive .data sampleMessage, .receive .data sampleMessage,
    .commit sampleDisk, .commit sampleDisk, .acknowledge]

/-- The end of the requests is answered. -/
def sampleConclusion : List RemoteAction :=
  [.serve .fileList sampleSource, .send, .receive .control sampleMessage]

def sampleRun : List RemoteAction := sampleListing ++ sampleTransfer ++ sampleTransfer ++ sampleConclusion

theorem sample_unambiguous : Unambiguous [.page samplePage, .done] := unambiguous_of_distinct (by decide)

theorem sampleRun_enabled : ((machine sampleConfig).exec sampleStart sampleRun).isSome = true := by decide

theorem complete_covers_requests_sample : ∃ final,
    (machine sampleConfig).exec sampleStart sampleRun = some final ∧ final.receiver.stop = some .complete ∧
      final.requested = [0, 1] ∧ ∀ ndx ∈ final.requested, final.Settled ndx := by
  have run := (Option.some_get sampleRun_enabled).symm
  have stopped : (((machine sampleConfig).exec sampleStart sampleRun).get sampleRun_enabled).receiver.stop =
      some .complete := by decide
  exact ⟨_, run, stopped, by decide, complete_covers_requests sample_unambiguous run stopped⟩

end RemoteSession

end Terrasync.App
