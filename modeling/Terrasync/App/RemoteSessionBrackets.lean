import Terrasync.App.RemoteSessionCompletion

/-! The command queue of a receiver is well bracketed: a transfer is committed or aborted
before the next one is opened, so the disk-commit task never refuses a transfer, and
ignores a commit only after it has reported the file. -/

set_option autoImplicit false

namespace Terrasync.App

open Transport

/-- How a command changes the transfer that is open where it stands in the queue. -/
inductive Advances : Option TransferKey → DiskCommitMsg → Option TransferKey → Prop where
  | opens {command : DiskCommitMsg} {key : TransferKey} (opening : opensTransfer command = some key) :
      Advances none command (some key)
  | commits {command : DiskCommitMsg} {key : TransferKey} (committing : commitsTransfer command = some key) :
      Advances (some key) command none
  | ends {command : DiskCommitMsg} {opened : Option TransferKey} (ending : endsTransfer command = true) :
      Advances opened command none
  | data {command : DiskCommitMsg} {opened : Option TransferKey} (carried : carriesData command = true) :
      Advances opened command opened
  | marks {ndx : Ndx} {item : ObservedItem} {opened : Option TransferKey} :
      Advances opened (.writeDeleteMarker ndx item) opened

def Bracketed : Option TransferKey → List DiskCommitMsg → Option TransferKey → Prop
  | opened, [], last => opened = last
  | opened, command :: rest, last => ∃ next, Advances opened command next ∧ Bracketed next rest last

theorem Bracketed.append {opened middle last : Option TransferKey} {first second : List DiskCommitMsg}
    (head : Bracketed opened first middle) (tail : Bracketed middle second last) :
    Bracketed opened (first ++ second) last := by
  induction first generalizing opened with
  | nil =>
      cases head
      exact tail
  | cons command rest ih =>
      obtain ⟨next, advances, remaining⟩ := head
      exact ⟨next, advances, ih remaining⟩

theorem Bracketed.single {opened last : Option TransferKey} {command : DiskCommitMsg}
    (advances : Advances opened command last) : Bracketed opened [command] last := ⟨last, advances, rfl⟩

theorem Bracketed.data {opened : Option TransferKey} {commands : List DiskCommitMsg}
    (carried : ∀ command ∈ commands, carriesData command = true) : Bracketed opened commands opened := by
  induction commands with
  | nil => rfl
  | cons command rest ih =>
      obtain ⟨head, tail⟩ := List.forall_mem_cons.mp carried
      exact ⟨opened, .data head, ih tail⟩

theorem opens_only {command : DiskCommitMsg} {key : TransferKey} (opening : opensTransfer command = some key) :
    commitsTransfer command = none ∧ endsTransfer command = false ∧ carriesData command = false := by
  cases command with
  | fileBegin | deltaBegin => exact ⟨rfl, rfl, rfl⟩
  | _ => cases opening

theorem commits_only {command : DiskCommitMsg} {key : TransferKey}
    (committing : commitsTransfer command = some key) :
    opensTransfer command = none ∧ endsTransfer command = false ∧ carriesData command = false := by
  cases command with
  | fileCommit | deltaCommit => exact ⟨rfl, rfl, rfl⟩
  | _ => cases committing

theorem ends_only {command : DiskCommitMsg} (ending : endsTransfer command = true) :
    carriesData command = false := by
  cases command with
  | abortFile | shutdown => rfl
  | _ => cases ending

/-- A commit stands behind the transfer it commits. -/
theorem Advances.of_commit {opened next : Option TransferKey} {command : DiskCommitMsg} {key : TransferKey}
    (advances : Advances opened command next) (committing : commitsTransfer command = some key) :
    opened = some key ∧ next = none := by
  obtain ⟨notOpen, notEnd, notData⟩ := commits_only committing
  cases advances with
  | opens opening => simp [notOpen] at opening
  | commits same =>
      rw [same] at committing
      exact ⟨committing, rfl⟩
  | ends ending => simp [notEnd] at ending
  | data carried => simp [notData] at carried
  | marks => cases committing

theorem Advances.of_open {opened next : Option TransferKey} {command : DiskCommitMsg} {key : TransferKey}
    (advances : Advances opened command next) (opening : opensTransfer command = some key) :
    opened = none ∧ next = some key := by
  obtain ⟨notCommit, notEnd, notData⟩ := opens_only opening
  cases advances with
  | opens same =>
      rw [same] at opening
      exact ⟨rfl, opening⟩
  | commits committing => simp [notCommit] at committing
  | ends ending => simp [notEnd] at ending
  | data carried => simp [notData] at carried
  | marks => cases opening

theorem Advances.of_end {opened next : Option TransferKey} {command : DiskCommitMsg}
    (advances : Advances opened command next) (ending : endsTransfer command = true) : next = none := by
  cases advances with
  | opens opening => simp [(opens_only opening).2.1] at ending
  | commits committing => rfl
  | ends ending => rfl
  | data carried => simp [ends_only ending] at carried
  | marks => cases ending

theorem Advances.of_data {opened next : Option TransferKey} {command : DiskCommitMsg}
    (advances : Advances opened command next) (carried : carriesData command = true) : next = opened := by
  cases advances with
  | opens opening => simp [(opens_only opening).2.2] at carried
  | commits committing => simp [(commits_only committing).2.2] at carried
  | ends ending => simp [ends_only ending] at carried
  | data carried => rfl
  | marks => rfl

/-- The transfer of the slot, as the next command would name it. -/
def RemoteSessionState.slotKey (session : RemoteSessionState) : Option TransferKey :=
  match session.activeTransfer with
  | .idle => none
  | .full ndx => (session.indexedEntry ndx).map fun item => ⟨ndx, item.entry.path, .full⟩
  | .delta ndx => (session.indexedEntry ndx).map fun item => ⟨ndx, item.entry.path, .delta⟩

theorem slotKey_slotFor {session : RemoteSessionState} {key : TransferKey} {item : ObservedItem}
    (active : session.activeTransfer = slotFor key.ndx key.mode)
    (indexed : session.indexedEntry key.ndx = some item) (path : item.entry.path = key.path) :
    session.slotKey = some key := by
  obtain ⟨ndx, keyPath, mode⟩ := key
  simp only at active indexed path
  cases mode <;> simp only [slotFor] at active <;>
    simp only [RemoteSessionState.slotKey, active, indexed, Option.map_some, path]

/-- The slot names its transfer in the same way as long as the table keeps its entry. -/
theorem slotKey_congr {before after : RemoteSessionState} (slot : after.activeTransfer = before.activeTransfer)
    (same : ∀ ndx, before.activeTransfer.ndx = some ndx → after.indexedEntry ndx = before.indexedEntry ndx) :
    after.slotKey = before.slotKey := by
  cases active : before.activeTransfer with
  | idle => simp only [RemoteSessionState.slotKey, slot, active]
  | full ndx | delta ndx =>
      have kept := same ndx (by rw [active]; rfl)
      simp only [RemoteSessionState.slotKey, slot, active, kept]

/-- The outcome of an index is on its way to the loop, or has reached it. -/
def Receiver.Reported (receiver : Receiver) (ndx : Ndx) : Prop :=
  0 < receiver.outcomes.countP (reportsOn ndx) ∨ receiver.session.Terminated ndx

/-- The disk-commit task writes what is open at the head of its queue, or has reported it. -/
def Receiver.Follows (receiver : Receiver) (opened : Option TransferKey) : Prop :=
  receiver.committer.key = opened ∨
    receiver.committer.key = none ∧ ∀ key, opened = some key → receiver.Reported key.ndx

structure Receiver.Serial (receiver : Receiver) : Prop where
  indexed : ∀ ndx, receiver.session.activeTransfer.ndx = some ndx → receiver.session.indexedEntry ndx ≠ none
  queue : ∃ opened, Bracketed opened receiver.commands receiver.session.slotKey ∧ receiver.Follows opened

theorem Receiver.Follows.mono {before after : Receiver} {opened : Option TransferKey}
    (follows : before.Follows opened) (committer : after.committer.key = before.committer.key)
    (reported : ∀ ndx, before.Reported ndx → after.Reported ndx) : after.Follows opened := by
  rcases follows with writes | ⟨free, done⟩
  · exact .inl (committer.trans writes)
  · exact .inr ⟨committer.trans free, fun key same => reported key.ndx (done key same)⟩

/-- The commands of a message continue the queue up to the slot it leaves. -/
theorem RemoteSessionState.Reaction.bracketed {session after : RemoteSessionState} {message : SenderMsg}
    {terminated : List Ndx} {commands : List DiskCommitMsg}
    (reaction : session.Reaction message after.activeTransfer terminated commands)
    (same : ∀ ndx item, session.indexedEntry ndx = some item → after.indexedEntry ndx = some item)
    (known : ∀ ndx, session.activeTransfer.ndx = some ndx → session.indexedEntry ndx ≠ none) :
    Bracketed session.slotKey commands after.slotKey ∧
      ∀ ndx, after.activeTransfer.ndx = some ndx → after.indexedEntry ndx ≠ none := by
  generalize left : after.activeTransfer = slot at reaction
  have keeps (unchanged : slot = session.activeTransfer) :
      after.slotKey = session.slotKey ∧
        ∀ ndx, slot.ndx = some ndx → after.indexedEntry ndx ≠ none := by
    have kept {ndx : Ndx} (active : session.activeTransfer.ndx = some ndx) :
        ∃ item, session.indexedEntry ndx = some item ∧ after.indexedEntry ndx = some item := by
      obtain ⟨item, indexed⟩ := Option.ne_none_iff_exists'.mp (known ndx active)
      exact ⟨item, indexed, same ndx item indexed⟩
    refine ⟨slotKey_congr (left.trans unchanged) fun ndx active => ?_, fun ndx active => ?_⟩
    · obtain ⟨item, before, after⟩ := kept active
      rw [before, after]
    · rw [unchanged] at active
      obtain ⟨item, -, after⟩ := kept active
      rw [after]
      exact Option.some_ne_none item
  have idles (idle : slot = .idle) : after.slotKey = none ∧
      ∀ ndx, slot.ndx = some ndx → after.indexedEntry ndx ≠ none := by
    subst idle
    exact ⟨by rw [RemoteSessionState.slotKey, left], nofun⟩
  have unslotted (idle : session.activeTransfer = .idle) : session.slotKey = none := by
    rw [RemoteSessionState.slotKey, idle]
  cases reaction with
  | kept closing marker data =>
      obtain ⟨key, indexed⟩ := keeps rfl
      rw [key]
      exact ⟨.data data, indexed⟩
  | @opened item key first rest payload live idle indexed path opens data =>
      have entry := same _ _ indexed
      have opened := slotKey_slotFor left entry path
      rw [unslotted idle, opened]
      refine ⟨⟨some key, .opens opens, .data data⟩, fun ndx active => ?_⟩
      rw [slotFor_ndx, Option.some.injEq] at active
      rw [← active, entry]
      exact Option.some_ne_none item
  | @committed item key commit sourceHash closing live active indexed path commits =>
      obtain ⟨none, inactive⟩ := idles rfl
      rw [slotKey_slotFor active indexed path, none]
      exact ⟨.single (.commits commits), inactive⟩
  | @reopened item key first commit sourceHash closing live idle indexed path opens commits =>
      obtain ⟨none, inactive⟩ := idles rfl
      rw [unslotted idle, none]
      exact ⟨⟨some key, .opens opens, .single (.commits commits)⟩, inactive⟩
  | dropped closing excuse | unmarked marker unknown | failed failed inactive =>
      obtain ⟨key, indexed⟩ := keeps rfl
      rw [key]
      exact ⟨rfl, indexed⟩
  | marked marker indexed =>
      obtain ⟨key, indexed⟩ := keeps rfl
      rw [key]
      exact ⟨.single .marks, indexed⟩
  | aborted failed active =>
      obtain ⟨none, inactive⟩ := idles rfl
      rw [none]
      exact ⟨.single (.ends rfl), inactive⟩

theorem reaction_terminated {session : RemoteSessionState} {message : SenderMsg} {slot : ActiveTransfer}
    {terminated : List Ndx} {commands : List DiskCommitMsg}
    (reaction : session.Reaction message slot terminated commands) :
    session.ledger.terminatedNdx ⊆ terminated := by
  cases reaction with
  | aborted | failed => exact fun ndx member => (RemoteSession.mem_recordTerminal _ _ ndx).mpr (.inr member)
  | _ => exact fun _ member => member

namespace RemoteSession

variable {config : RemoteConfig}

theorem serial_new (credit : ReceiverCreditState) : (Receiver.new credit).Serial :=
  ⟨nofun, none, rfl, .inl rfl⟩

theorem serial_receive {session next : RemoteSession} {stream : StreamKind} {answers : MessageAnswers}
    (sound : session.Sound) (serial : session.receiver.Serial)
    (stepped : session.receive config stream answers = some next) (running : next.receiver.stop = none) :
    next.receiver.Serial := by
  obtain ⟨outgoing, taken, took, -, next_eq, stop_eq⟩ := receive_eq stepped
  obtain ⟨-, receiver, -, -⟩ := take_sender took
  have indexed := indexed_of_take sound.orderly took
  have accounts := RemoteSessionState.handle_accounts config.receiver answers session.receiver.session indexed
  have reaction := RemoteSessionState.handle_reacts config.receiver answers session.receiver.session indexed
  have arrives := arriving_take sound.orderly took
  rw [stop_eq] at running
  have installed : next.receiver = session.receiver.install
      (session.receiver.session.handle config.receiver answers outgoing.message).session
      (session.receiver.session.handle config.receiver answers outgoing.message).effects := by
    rw [next_eq, running, receiver]
    rfl
  generalize session.receiver.session.handle config.receiver answers outgoing.message = handled
    at accounts reaction installed
  have same (ndx : Ndx) (item : ObservedItem) (before : session.receiver.session.indexedEntry ndx = some item) :
      handled.session.indexedEntry ndx = some item := by
    rw [RemoteSessionState.indexedEntry, accounts.table, tableAfter_eq, foldl_insert_get_of_not_mem]
    · exact before
    · intro arrived
      have fresh := sound.numbered.fresh ndx (by
        rw [arrives, List.map_append]
        exact List.mem_append_left _ arrived)
      rw [fresh] at before
      cases before
  obtain ⟨bracketed, slotted⟩ := reaction.bracketed same serial.indexed
  obtain ⟨opened, queue, follows⟩ := serial.queue
  rw [installed]
  refine ⟨slotted, opened, queue.append bracketed, follows.mono rfl fun ndx reported => ?_⟩
  exact reported.imp_right fun terminated => reaction_terminated reaction terminated

theorem serial_acknowledge {session next : RemoteSession} (orderly : session.Orderly)
    (serial : session.receiver.Serial) (stepped : session.receiverStep config .acknowledge = some next)
    (running : next.receiver.stop = none) : next.receiver.Serial := by
  obtain ⟨reported, outcome, rest, queue, -, next_eq, stop_eq⟩ := acknowledge_eq orderly stepped
  obtain ⟨settles, frame⟩ := session.receiver.session.handleFileOutcome_settles reported outcome
  rw [stop_eq] at running
  have installed : next.receiver = ({ session.receiver with outcomes := rest } : Receiver).install
      (session.receiver.session.handleFileOutcome reported outcome).session
      (session.receiver.session.handleFileOutcome reported outcome).effects := by
    rw [next_eq, running]
    rfl
  generalize session.receiver.session.handleFileOutcome reported outcome = handled at settles frame installed
  obtain ⟨opened, bracketed, follows⟩ := serial.queue
  have slot : handled.session.slotKey = session.receiver.session.slotKey :=
    slotKey_congr frame.activeTransfer fun ndx _ => by
      rw [RemoteSessionState.indexedEntry, RemoteSessionState.indexedEntry, frame.table]
  rw [installed]
  refine ⟨fun ndx active => ?_, opened, ?_, follows.mono rfl fun ndx done => ?_⟩
  · simp only [Receiver.install, RemoteSessionState.indexedEntry, frame.table, frame.activeTransfer]
      at active ⊢
    exact serial.indexed ndx active
  · simp only [Receiver.install, frame.commands, List.append_nil, slot]
    exact bracketed
  · simp only [Receiver.Reported, queue, List.countP_cons] at done
    rcases done with reports | terminated
    · by_cases own : reportsOn ndx (.fileOutcome reported outcome) = true
      · simp only [reportsOn, Bool.and_eq_true, decide_eq_true_eq, Bool.not_eq_true'] at own
        obtain ⟨rfl, plain⟩ := own
        refine .inr ?_
        simp only [Receiver.install, RemoteSessionState.Terminated]
        generalize handled.session.ledger.terminatedNdx = terminated at settles ⊢
        generalize handled.effects.replies = replies at settles
        cases settles with
        | again mismatch =>
            rw [mismatch] at plain
            cases plain
        | terminal silent => exact (mem_recordTerminal _ _ _).mpr (.inl rfl)
      · rw [if_neg own] at reports
        exact .inl reports
    · exact .inr ((settles_grows settles).subset terminated)

/-- After a command the task writes what is open behind it, or has reported it. -/
theorem serial_commit {receiver : Receiver} {answers : DiskAnswers} {command : DiskCommitMsg}
    {rest : List DiskCommitMsg} (queued : Queued receiver) (serial : receiver.Serial)
    (head : receiver.commands = command :: rest) :
    (receiver.commitNext config.receiver.session answers command rest).Serial := by
  obtain ⟨opened, bracketed, follows⟩ := serial.queue
  rw [head] at bracketed
  obtain ⟨next, advances, remaining⟩ := bracketed
  refine ⟨serial.indexed, next, remaining, ?_⟩
  have disposal := @FileCommitState.dispatch_disposes config.receiver.session answers receiver.committer
    queued.settled command
  have keeps {ndx : Ndx} (reported : receiver.Reported ndx) :
      (receiver.commitNext config.receiver.session answers command rest).Reported ndx :=
    reported.imp_left fun reports => by
      simp only [Receiver.commitNext, List.countP_append]
      omega
  have reports {ndx : Ndx} {reason : String}
      (acks : (receiver.committer.dispatch config.receiver.session answers command).acks =
        [.fileOutcome ndx (.hardError reason)]) :
      (receiver.commitNext config.receiver.session answers command rest).Reported ndx := by
    refine .inl ?_
    simp only [Receiver.commitNext, acks, List.countP_append]
    simp [reportsOn, isMismatch]
  have stays (same : next = opened) (key : (receiver.committer.dispatch config.receiver.session answers
      command).state.key = receiver.committer.key) :
      (receiver.commitNext config.receiver.session answers command rest).Follows next := by
    rw [same]
    exact follows.mono key fun _ reported => keeps reported
  have issued := queued.commands command (by rw [head]; exact List.mem_cons_self)
  generalize acked : (receiver.committer.dispatch config.receiver.session answers command).acks = acks
    at disposal reports
  generalize written : (receiver.committer.dispatch config.receiver.session answers command).state.key = key
    at disposal stays
  have writes : (receiver.commitNext config.receiver.session answers command rest).committer.key = key :=
    written
  generalize busy : receiver.committer.key = active at disposal stays
  cases disposal with
  | @opened key opening free =>
      obtain ⟨-, rfl⟩ := advances.of_open opening
      exact .inl writes
  | @openFailed key opening free reason =>
      obtain ⟨-, rfl⟩ := advances.of_open opening
      refine .inr ⟨writes, fun other same => ?_⟩
      cases same
      exact reports rfl
  | @rejected key opening busyWith =>
      obtain ⟨rfl, rfl⟩ := advances.of_open opening
      rcases follows with none | ⟨none, -⟩ <;> exact absurd none busyWith
  | @committed key committing activeKey outcome =>
      obtain ⟨-, rfl⟩ := advances.of_commit committing
      exact .inl writes
  | @ignored key committing other =>
      obtain ⟨rfl, rfl⟩ := advances.of_commit committing
      rcases follows with same | ⟨free, -⟩
      · exact absurd same other
      · exact .inl (writes.trans free)
  | continued data => exact stays (advances.of_data data) busy
  | @broken key data activeKey reason =>
      have same := advances.of_data data
      refine .inr ⟨writes, fun other opened => ?_⟩
      rcases follows with now | ⟨free, -⟩
      · rw [activeKey] at now
        rw [same, ← now] at opened
        cases opened
        exact reports rfl
      · rw [free] at activeKey
        cases activeKey
  | aborted abort => exact .inl (writes.trans (advances.of_end abort).symm)
  | marked marker outcome terminal =>
      subst marker
      cases advances with
      | marks => exact stays rfl busy
      | opens opening => cases opening
      | commits committing => cases committing
      | ends ending => cases ending
      | data carried => cases carried
  | created entry =>
      rcases entry with ⟨entry, rfl⟩ | ⟨entry, target, rfl⟩ <;>
        simp [Issued, opensTransfer, commitsTransfer, carriesData, endsTransfer] at issued

theorem serial_step {session next : RemoteSession} {action : RemoteAction} (sound : session.Sound)
    (serial : session.receiver.Serial) (running : session.receiver.stop = none)
    (stepped : session.step config action = some next) (goesOn : next.receiver.stop = none) :
    next.receiver.Serial := by
  cases action with
  | advertise =>
      rcases advertise_eq stepped with ⟨page, inventory, -, rfl⟩ | ⟨inventory, done, message, -, -, -, rfl⟩ <;>
        rw [(post_frame _ _).2.1] <;> exact serial
  | serve stream answers =>
      obtain ⟨-, message, requests, acks, -, rfl⟩ := serve_eq stepped
      exact serial
  | send =>
      rcases send_eq stepped with ⟨failure, rfl⟩ | ⟨outgoing, script, credit, -, -, rfl⟩
      · exact serial
      · rw [(post_frame _ _).2.1]
        exact serial
  | applyGrant =>
      obtain ⟨bytes, grants, -, rfl⟩ := applyGrant_eq stepped
      exact serial
  | receive stream answers => exact serial_receive sound serial stepped goesOn
  | disconnect => exact absurd (.inl goesOn) (disconnect_stops stepped)
  | acknowledge => exact serial_acknowledge sound.orderly serial stepped goesOn
  | commit answers =>
      obtain ⟨command, rest, queue, rfl⟩ := commit_eq stepped
      exact serial_commit sound.orderly.toQueued serial queue
  | drain => exact absurd running (drain_stopped stepped)

end RemoteSession

end Terrasync.App
