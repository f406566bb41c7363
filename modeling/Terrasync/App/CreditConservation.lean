import Terrasync.App.RemoteSessionCompletion
import Terrasync.Transport.FlowControlProperties

/-! The credit of a whole session: what the sender has left, what is on the way in either
direction and what the receiver keeps add up to the window, less the payloads that the
receiver took from the stream and dropped. -/

set_option autoImplicit false

namespace Terrasync.App

open Transport

def Outgoing.cost (outgoing : Outgoing) : Nat := (creditCost outgoing.message).getD 0

def totalCost (stream : List Outgoing) : Nat := (stream.map Outgoing.cost).sum

@[simp] theorem totalCost_append (first second : List Outgoing) :
    totalCost (first ++ second) = totalCost first + totalCost second := by
  simp [totalCost]

@[simp] theorem totalCost_cons (outgoing : Outgoing) (rest : List Outgoing) :
    totalCost (outgoing :: rest) = outgoing.cost + totalCost rest := by
  simp [totalCost]

@[simp] theorem totalCost_nil : totalCost [] = 0 := rfl

/-- The granted bytes among replies. -/
def grantedBytes (replies : List ReceiverMsg) : Nat := (replies.filterMap grantBytes).sum

namespace RemoteSessionState

/-- Whether a payload of a delta transfer is taken over. -/
def AcceptsDelta (session : RemoteSessionState) (ndx : Ndx) : Prop :=
  (session.indexedEntry ndx).isSome = true ∧ ¬ session.Terminated ndx ∧
    (session.activeTransfer = .idle ∨ session.activeTransfer = .delta ndx)

instance (session : RemoteSessionState) (ndx : Ndx) : Decidable (session.AcceptsDelta ndx) :=
  inferInstanceAs (Decidable (_ ∧ _ ∧ _))

/-- The charged bytes of a message that the receive loop drops. -/
def dropped (session : RemoteSessionState) : SenderMsg → Nat
  | .fileData ndx chunk => if session.activeTransfer = .full ndx then 0 else chunk.data.length
  | .deltaData ndx data => if session.AcceptsDelta ndx then 0 else data.length
  | _ => 0

/-- A message that costs no credit moves none. -/
structure Uncharged (session after : RemoteSessionState) (replies : List ReceiverMsg) : Prop where
  credit : after.credit = session.credit
  granted : grantedBytes replies = 0

theorem Uncharged.of_replies {session after : RemoteSessionState} {replies : List ReceiverMsg}
    (credit : after.credit = session.credit) (plain : ∀ reply ∈ replies, grantBytes reply = none) :
    Uncharged session after replies := by
  refine ⟨credit, ?_⟩
  rw [grantedBytes, List.filterMap_eq_nil_iff.mpr plain]
  rfl

/-- The payload of a message is kept or granted, unless it is dropped. -/
def Settled (session after : RemoteSessionState) (replies : List ReceiverMsg) (message : SenderMsg) : Prop :=
  after.credit.acceptedPending + grantedBytes replies + session.dropped message =
    session.credit.acceptedPending + (creditCost message).getD 0

theorem Uncharged.settled {session after : RemoteSessionState} {replies : List ReceiverMsg}
    (uncharged : Uncharged session after replies) {message : SenderMsg} (free : creditCost message = none) :
    session.Settled after replies message := by
  have kept : session.dropped message = 0 := by
    cases message <;> first | rfl | cases free
  rw [Settled, uncharged.credit, uncharged.granted, kept, free]
  rfl

/-- Accepted bytes are kept, or granted with all that was kept. -/
theorem accepted_settles {session middle : RemoteSessionState} {effects : Effects} {bytes : Nat}
    (credit : middle.credit = session.credit) (silent : effects.replies = [])
    (running : (stopOnCredit (middle.accepted effects bytes)).value = none) :
    (stopOnCredit (middle.accepted effects bytes)).session.credit.acceptedPending +
        grantedBytes (stopOnCredit (middle.accepted effects bytes)).effects.replies =
      session.credit.acceptedPending + bytes := by
  cases recorded : middle.credit.recordAccepted bytes with
  | error error => simp [accepted, recorded, stopOnCredit] at running
  | ok result =>
      obtain ⟨after, outcome⟩ := result
      rw [← credit]
      obtain ⟨rfl, rfl, -⟩ | ⟨rfl, rfl⟩ := recordAccepted_cases recorded
      · simp [accepted, recorded, stopOnCredit, silent, grantedBytes]
      · simp [accepted, recorded, stopOnCredit, silent, grantedBytes, Effects.append, Effects.reply, grantBytes]

theorem fileData_settles {session : RemoteSessionState} {ndx : Ndx} {chunk : DataChunk}
    (running : (stopOnCredit (session.acceptFullChunk ndx chunk)).value = none) :
    session.Settled (stopOnCredit (session.acceptFullChunk ndx chunk)).session
      (stopOnCredit (session.acceptFullChunk ndx chunk)).effects.replies (.fileData ndx chunk) := by
  by_cases active : session.activeTransfer = .full ndx
  · have pushed : session.acceptFullChunk ndx chunk =
        session.accepted (.command (.fileChunk ndx chunk)) chunk.data.length := by
      simp [acceptFullChunk, pushFullChunk, active]
    rw [pushed] at running ⊢
    simp only [Settled, dropped, active, if_true, creditCost, Option.getD_some, Nat.add_zero]
    exact accepted_settles rfl rfl running
  · have refused : session.acceptFullChunk ndx chunk = ⟨session, .none, .ok false⟩ := by
      simp [acceptFullChunk, pushFullChunk, active]
    simp [refused, Settled, dropped, active, creditCost, stopOnCredit, grantedBytes, Effects.none]

theorem forwardDelta_accepts (session : RemoteSessionState) {ndx : Ndx} {item : ObservedItem}
    (indexed : session.indexedEntry ndx = some item) (command : DiskCommitMsg) :
    (session.forwardDelta ndx item.entry command).session.credit = session.credit ∧
      (session.forwardDelta ndx item.entry command).effects.replies = [] ∧
      ((session.forwardDelta ndx item.entry command).value = true ↔ session.AcceptsDelta ndx) := by
  rcases session.ensureDeltaActive_cases ndx item.entry with
    ⟨ensured, live, active⟩ | ⟨ensured, excuse⟩ | ⟨ensured, live, idle⟩
  · simp [forwardDelta, ensured, Effects.append, Effects.none, Effects.command, AcceptsDelta, indexed, live,
      active]
  · have refused : ¬ session.AcceptsDelta ndx := by
      intro accepts
      obtain terminated | ⟨busy, other⟩ := excuse
      · exact accepts.2.1 terminated
      · exact accepts.2.2.elim busy other
    simp [forwardDelta, ensured, Effects.none, refused]
  · simp [forwardDelta, ensured, Effects.append, Effects.command, AcceptsDelta, indexed, live, idle]

theorem deltaData_settles {session : RemoteSessionState} {ndx : Ndx} {item : ObservedItem}
    (indexed : session.indexedEntry ndx = some item) {data : SyncDelta.Bytes}
    (running : (stopOnCredit (session.acceptDeltaData ndx item.entry data)).value = none) :
    session.Settled (stopOnCredit (session.acceptDeltaData ndx item.entry data)).session
      (stopOnCredit (session.acceptDeltaData ndx item.entry data)).effects.replies (.deltaData ndx data) := by
  obtain ⟨credit, silent, value⟩ := session.forwardDelta_accepts indexed (.deltaData item.entry data)
  simp only [Settled, dropped, creditCost, Option.getD_some]
  rw [acceptDeltaData, pushDeltaData] at running ⊢
  by_cases accepts : session.AcceptsDelta ndx
  · rw [if_pos (value.mpr accepts)] at running ⊢
    rw [if_pos accepts, Nat.add_zero]
    exact accepted_settles credit silent running
  · rw [if_neg (fun accepted => accepts (value.mp accepted)), if_neg accepts]
    simp [stopOnCredit, credit, silent, grantedBytes]

theorem handlePage_uncharged {config : ReceiverConfig} (answers : PageAnswers)
    (session : RemoteSessionState) (page : DirPageResult) :
    Uncharged session (session.handlePage config answers page).session
      (session.handlePage config answers page).effects.replies := by
  obtain ⟨⟨dirs, after⟩, -, replies, -⟩ := @handlePage_classifies config answers session page
  exact .of_replies (by rw [after]; rfl) fun reply member => (replies reply member).2

theorem handleEndOfFile_uncharged (session : RemoteSessionState) (ndx : Ndx)
    (sourceHash : Option SourceHash) :
    Uncharged session (session.handleEndOfFile ndx sourceHash).session
      (session.handleEndOfFile ndx sourceHash).effects.replies := by
  simp only [handleEndOfFile]
  split
  · exact ⟨rfl, rfl⟩
  · next item _ =>
      by_cases full : session.Terminated ndx ∨ session.activeTransfer ≠ .full ndx
      · simp only [commitFull, if_pos full, Bool.false_eq_true, if_false]
        rcases session.ensureDeltaActive_cases ndx item.entry with
          ⟨ensured, -⟩ | ⟨ensured, -⟩ | ⟨ensured, -⟩ <;> simp only [commitDelta, ensured, if_true] <;>
          exact ⟨rfl, rfl⟩
      · simp only [commitFull, if_neg full, if_true]
        exact ⟨rfl, rfl⟩

/-- What a message does to the credit while the loop goes on. -/
theorem handle_settles {config : ReceiverConfig} {answers : MessageAnswers} {session : RemoteSessionState}
    {message : SenderMsg} (running : (session.handle config answers message).value = none) :
    session.Settled (session.handle config answers message).session
      (session.handle config answers message).effects.replies message := by
  cases message with
  | fileData ndx chunk => exact fileData_settles running
  | deltaData ndx data =>
      simp only [handle] at running ⊢
      cases indexed : session.indexedEntry ndx with
      | none => simp [Settled, dropped, AcceptsDelta, indexed, creditCost, grantedBytes, Effects.none]
      | some item =>
          simp only [indexed] at running
          exact deltaData_settles indexed running
  | filePage page => exact (handlePage_uncharged answers.page session page).settled rfl
  | endOfFile ndx sourceHash => exact (session.handleEndOfFile_uncharged ndx sourceHash).settled rfl
  | fileListError path reason | fileListDone | transferDone =>
      refine Uncharged.settled ?_ rfl
      exact ⟨rfl, rfl⟩
  | createDir entry =>
      refine Uncharged.settled ?_ rfl
      simp only [handle, handleCreateDir]
      split <;> exact ⟨rfl, rfl⟩
  | createSymlink entry target =>
      refine Uncharged.settled ?_ rfl
      simp only [handle, handleCreateSymlink]
      split
      · exact ⟨rfl, rfl⟩
      · split <;> exact ⟨rfl, rfl⟩
  | writeDeleteMarker ndx =>
      refine Uncharged.settled ?_ rfl
      simp only [handle]
      split <;> exact ⟨rfl, rfl⟩
  | fileBegin ndx =>
      refine Uncharged.settled ?_ rfl
      simp only [handle]
      split
      · exact ⟨rfl, rfl⟩
      · simp only [beginFull]
        split
        · exact ⟨rfl, rfl⟩
        · split <;> exact ⟨rfl, rfl⟩
  | deltaMatch ndx blockIndex =>
      refine Uncharged.settled ?_ rfl
      simp only [handle]
      split
      · exact ⟨rfl, rfl⟩
      · next item indexed =>
          obtain ⟨credit, silent, -⟩ :=
            session.forwardDelta_accepts indexed (.deltaMatch item.entry blockIndex)
          exact ⟨credit, by simp only [pushDeltaMatch, silent, grantedBytes, List.filterMap_nil, List.sum_nil]⟩
  | setAcl entry aclData =>
      refine Uncharged.settled ?_ rfl
      simp only [handle]
      split <;> exact ⟨rfl, rfl⟩
  | entryError path reason ndx =>
      refine Uncharged.settled ?_ rfl
      simp only [handle]
      cases ndx with
      | none => exact ⟨rfl, rfl⟩
      | some ndx =>
          simp only [handleSourceFailure]
          split <;> exact ⟨rfl, rfl⟩

end RemoteSessionState

/-- An outcome that grants no credit. -/
def PlainAck : DcAck → Prop
  | .entry ack => grantBytes ack = none
  | .fileOutcome .. => True

namespace RemoteSessionState

theorem handleAck_keeps (session : RemoteSessionState) {ack : DcAck} (plain : PlainAck ack) :
    Uncharged session (session.handleAck ack).session (session.handleAck ack).effects.replies := by
  cases ack with
  | entry reply =>
      refine .of_replies rfl fun other member => ?_
      rw [List.mem_singleton.mp member]
      exact plain
  | fileOutcome ndx outcome =>
      obtain ⟨-, frame⟩ := session.handleFileOutcome_settles ndx outcome
      exact ⟨frame.credit, by rw [handleAck, grantedBytes, frame.grants]; rfl⟩

end RemoteSessionState

theorem dispatch_plain {config : SessionConfig} {answers : DiskAnswers} {state : FileCommitState}
    (settled : state ≠ .committing) (command : DiskCommitMsg) :
    ∀ ack ∈ (FileCommitState.dispatch config answers state command).acks, PlainAck ack := by
  intro ack member
  have disposal := @FileCommitState.dispatch_disposes config answers state settled command
  generalize commits : (FileCommitState.dispatch config answers state command).acks = acks at disposal member
  generalize (FileCommitState.dispatch config answers state command).state.key = key at disposal
  generalize state.key = busy at disposal
  cases disposal with
  | created entry =>
      rcases entry with ⟨entry, rfl⟩ | ⟨entry, target, rfl⟩
      · simp only [FileCommitState.dispatch, FileCommitState.createDir] at commits
        rw [← commits] at member
        rw [List.mem_singleton.mp member]
        rfl
      · simp only [FileCommitState.dispatch, FileCommitState.createSymlink] at commits
        rw [← commits] at member
        rw [List.mem_singleton.mp member]
        simp only [PlainAck]
        split <;> rfl
  | openFailed | committed | broken | marked =>
      rw [List.mem_singleton.mp member]
      trivial
  | opened | rejected | ignored | continued | aborted => cases member

namespace RemoteSession

variable {config : RemoteConfig}

/-- The charged bytes that the loop has not received yet. -/
def inFlight (session : RemoteSession) : Nat :=
  totalCost session.control + totalCost session.fileList + totalCost session.data

def creditTotal (session : RemoteSession) : Nat :=
  session.sender.credit.available + session.inFlight + session.receiver.session.credit.acceptedPending +
    session.grants.sum

/-- The charged bytes that the receive loop drops in a step. -/
def discards (session : RemoteSession) : RemoteAction → Nat
  | .receive stream _ =>
      match session.take stream with
      | none => 0
      | some (outgoing, _) => session.receiver.session.dropped outgoing.message
  | _ => 0

/-- What holds while the loop goes on. -/
structure Balanced (window : Nat) (session : RemoteSession) : Prop where
  capacity : session.sender.credit.capacity = window
  bounded : session.creditTotal ≤ window
  plain : ∀ ack ∈ session.receiver.outcomes, PlainAck ack
  settled : session.receiver.committer ≠ .committing

theorem inFlight_post (session : RemoteSession) (outgoing : Outgoing) :
    (session.post outgoing).inFlight = session.inFlight + outgoing.cost ∧
      (session.post outgoing).grants = session.grants := by
  rw [post]
  cases outgoing.message <;> simp only [senderStreamKind, inFlight, totalCost_append, totalCost_cons,
    totalCost_nil, and_true] <;> omega

theorem inFlight_take {session taken : RemoteSession} {stream : StreamKind} {outgoing : Outgoing}
    (took : session.take stream = some (outgoing, taken)) :
    session.inFlight = outgoing.cost + taken.inFlight ∧ taken.grants = session.grants := by
  cases stream with
  | control =>
      cases queue : session.control <;> simp [take, queue] at took
      obtain ⟨rfl, rfl⟩ := took
      exact ⟨by simp only [inFlight, queue, totalCost_cons]; omega, rfl⟩
  | fileList =>
      cases queue : session.fileList <;> simp [take, queue] at took
      obtain ⟨rfl, rfl⟩ := took
      exact ⟨by simp only [inFlight, queue, totalCost_cons]; omega, rfl⟩
  | data =>
      cases queue : session.data <;> simp [take, queue] at took
      obtain ⟨rfl, rfl⟩ := took
      exact ⟨by simp only [inFlight, queue, totalCost_cons]; omega, rfl⟩
  | ackProgress => cases took

theorem creditTotal_post (session : RemoteSession) (outgoing : Outgoing) :
    (session.post outgoing).creditTotal = session.creditTotal + outgoing.cost := by
  obtain ⟨sender, receiver, -, -⟩ := post_frame session outgoing
  obtain ⟨inFlight, grants⟩ := inFlight_post session outgoing
  rw [creditTotal, creditTotal, sender, receiver, inFlight, grants]
  omega

/-- A step that leaves the receiver alone and the total as it was. -/
theorem Balanced.frame {window : Nat} {session next : RemoteSession} (balanced : session.Balanced window)
    (capacity : next.sender.credit.capacity = session.sender.credit.capacity)
    (receiver : next.receiver = session.receiver) (total : next.creditTotal = session.creditTotal) :
    next.Balanced window ∧ next.creditTotal + 0 = session.creditTotal := by
  refine ⟨⟨capacity.trans balanced.capacity, total ▸ balanced.bounded, ?_, ?_⟩, total⟩
  · rw [receiver]
    exact balanced.plain
  · rw [receiver]
    exact balanced.settled

/-- A step of the loop settles what it takes, with or without a message. -/
theorem Balanced.handled {window cost lost : Nat} {session taken : RemoteSession} {receiver : Receiver}
    {after : RemoteSessionState} {effects : Effects} (balanced : session.Balanced window)
    (sender : taken.sender = session.sender) (inFlight : session.inFlight = cost + taken.inFlight)
    (grants : taken.grants = session.grants) (committer : receiver.committer = session.receiver.committer)
    (outcomes : receiver.outcomes ⊆ session.receiver.outcomes)
    (settles : after.credit.acceptedPending + grantedBytes effects.replies + lost =
      session.receiver.session.credit.acceptedPending + cost) :
    (taken.reply (receiver.install after effects, effects.replies)).Balanced window ∧
      (taken.reply (receiver.install after effects, effects.replies)).creditTotal + lost =
        session.creditTotal := by
  have total : (taken.reply (receiver.install after effects, effects.replies)).creditTotal + lost =
      session.creditTotal := by
    rw [grantedBytes] at settles
    simp only [RemoteSession.inFlight] at inFlight
    simp only [creditTotal, RemoteSession.inFlight, reply, Receiver.install, sender, grants, List.sum_append]
    omega
  have bounded := balanced.bounded
  refine ⟨⟨?_, by omega, fun ack member => balanced.plain ack (outcomes member), ?_⟩, total⟩
  · rw [← balanced.capacity, ← sender]
    rfl
  · exact fun committing => balanced.settled (committer ▸ committing)

theorem receive_balanced {window : Nat} {session next : RemoteSession} {stream : StreamKind}
    {answers : MessageAnswers} (balanced : session.Balanced window)
    (stepped : session.receive config stream answers = some next) (running : next.receiver.stop = none) :
    next.Balanced window ∧
      next.creditTotal + session.discards (.receive stream answers) = session.creditTotal := by
  obtain ⟨outgoing, taken, took, -, next_eq, stop_eq⟩ := receive_eq stepped
  obtain ⟨sender, receiver, -, -⟩ := take_sender took
  obtain ⟨inFlight, grants⟩ := inFlight_take took
  rw [running] at stop_eq
  have settles := RemoteSessionState.handle_settles stop_eq.symm
  have lost : session.discards (.receive stream answers) =
      session.receiver.session.dropped outgoing.message := by
    simp only [discards, took]
  rw [next_eq, ← stop_eq, lost, receiver]
  exact balanced.handled sender inFlight grants rfl (List.Subset.refl _) settles

theorem acknowledge_balanced {window : Nat} {session next : RemoteSession} (balanced : session.Balanced window)
    (stepped : session.receiverStep config .acknowledge = some next) (running : next.receiver.stop = none) :
    next.Balanced window ∧ next.creditTotal + 0 = session.creditTotal := by
  cases queue : session.receiver.outcomes with
  | nil => simp [receiverStep, Receiver.step, queue] at stepped
  | cons ack rest =>
      simp only [receiverStep, Receiver.step, queue] at stepped
      split at stepped
      · next live =>
          simp only [Option.map_some, Option.some.injEq] at stepped
          have plain := balanced.plain ack (by rw [queue]; exact List.mem_cons_self)
          have keeps := session.receiver.session.handleAck_keeps plain
          have stop : next.receiver.stop =
              RemoteSessionState.stopIf (session.receiver.session.handleAck ack).value := by
            rw [← stepped]
            exact @haltIf_stop (({ session.receiver with outcomes := rest }).install _ _) live _
          rw [running] at stop
          have next_eq : next = session.reply
              (({ session.receiver with outcomes := rest }).install
                (session.receiver.session.handleAck ack).session (session.receiver.session.handleAck ack).effects,
                (session.receiver.session.handleAck ack).effects.replies) := by
            rw [← stepped, Receiver.acknowledge, ← stop]
            rfl
          rw [next_eq]
          refine balanced.handled rfl (Nat.zero_add _).symm rfl rfl ?_ ?_
          · rw [queue]
            exact List.subset_cons_self ack rest
          · rw [keeps.credit, keeps.granted]
      · cases stepped

theorem commit_balanced {window : Nat} {session next : RemoteSession} {answers : DiskAnswers}
    (balanced : session.Balanced window)
    (stepped : session.receiverStep config (.commit answers) = some next) :
    next.Balanced window ∧ next.creditTotal + 0 = session.creditTotal := by
  obtain ⟨command, rest, -, rfl⟩ := commit_eq stepped
  have total : (session.reply
      (session.receiver.commitNext config.receiver.session answers command rest, [])).creditTotal =
      session.creditTotal := by
    simp [creditTotal, inFlight, reply, Receiver.commitNext]
  refine ⟨⟨balanced.capacity, total ▸ balanced.bounded, fun ack member => ?_, ?_⟩, total⟩
  · rcases List.mem_append.mp member with old | new
    · exact balanced.plain ack old
    · exact dispatch_plain balanced.settled command ack new
  · exact FileCommitState.dispatch_settled balanced.settled command

theorem send_balanced {window : Nat} {session next : RemoteSession} (balanced : session.Balanced window)
    (stepped : session.send = some next) :
    next.Balanced window ∧ next.creditTotal + 0 = session.creditTotal := by
  rcases send_eq stepped with ⟨failure, rfl⟩ | ⟨outgoing, script, credit, -, spends, rfl⟩
  · exact balanced.frame rfl rfl rfl
  · obtain ⟨sender, receiver, -, -⟩ := post_frame
      ({ session with sender := { session.sender with script, credit } } : RemoteSession) outgoing
    have total := creditTotal_post
      ({ session with sender := { session.sender with script, credit } } : RemoteSession) outgoing
    cases spends with
    | free uncharged =>
        refine balanced.frame (by rw [sender]) receiver ?_
        rw [total, Outgoing.cost, uncharged]
        rfl
    | charged charge acquired =>
        obtain ⟨enough, rfl⟩ := acquire_acquired acquired
        refine balanced.frame (by rw [sender]) receiver ?_
        rw [total, Outgoing.cost, charge, Option.getD_some]
        simp only [creditTotal, inFlight]
        omega

theorem advertise_balanced {window : Nat} {session next : RemoteSession} (balanced : session.Balanced window)
    (stepped : session.advertise = some next) :
    next.Balanced window ∧ next.creditTotal + 0 = session.creditTotal := by
  have posted (sender : RemoteSenderSession) (credit : sender.credit = session.sender.credit)
      (message : SenderMsg) (kind : senderStreamKind message = .fileList) :
      (({ session with sender } : RemoteSession).post ⟨none, message⟩).Balanced window ∧
        (({ session with sender } : RemoteSession).post ⟨none, message⟩).creditTotal + 0 =
          session.creditTotal := by
    obtain ⟨same, receiver, -, -⟩ := post_frame ({ session with sender } : RemoteSession) ⟨none, message⟩
    refine balanced.frame (by rw [same, credit]) receiver ?_
    rw [creditTotal_post]
    cases message <;> cases kind <;> simp only [creditTotal, inFlight, credit] <;> rfl
  rcases advertise_eq stepped with ⟨page, inventory, -, rfl⟩ | ⟨inventory, done, message, -, kind, -, rfl⟩
  · exact posted { session.sender with
      inventory, ndxTable := session.sender.ndxTable.ingestPage page } rfl (.filePage page) rfl
  · exact posted { session.sender with inventory, advertised := done } rfl message kind

theorem applyGrant_balanced {window : Nat} {session next : RemoteSession} (balanced : session.Balanced window)
    (stepped : session.applyGrant = some next) :
    next.Balanced window ∧ next.creditTotal + 0 = session.creditTotal := by
  obtain ⟨bytes, grants, queue, rfl⟩ := applyGrant_eq stepped
  refine balanced.frame rfl rfl ?_
  have bounded := balanced.bounded
  have capacity := balanced.capacity
  simp only [creditTotal, queue, List.sum_cons] at bounded
  simp only [creditTotal, queue, List.sum_cons, SenderCreditLedger.grant, inFlight, capacity] at *
  omega

theorem step_balanced {window : Nat} {session next : RemoteSession} {action : RemoteAction}
    (balanced : session.Balanced window) (stepped : session.step config action = some next)
    (running : next.receiver.stop = none) :
    next.Balanced window ∧ next.creditTotal + session.discards action = session.creditTotal := by
  cases action with
  | advertise => exact advertise_balanced balanced stepped
  | serve stream answers =>
      obtain ⟨-, message, requests, acks, -, rfl⟩ := serve_eq stepped
      obtain ⟨-, -, credit⟩ := session.sender.serve_frame config.sender answers message
      exact balanced.frame (by rw [credit]) rfl (by simp only [creditTotal, inFlight, credit])
  | send => exact send_balanced balanced stepped
  | applyGrant => exact applyGrant_balanced balanced stepped
  | receive stream answers => exact receive_balanced balanced stepped running
  | disconnect =>
      have goesOn : GoesOn next.receiver.stop := .inl running
      exact absurd goesOn (disconnect_stops stepped)
  | acknowledge => exact acknowledge_balanced balanced stepped running
  | commit answers => exact commit_balanced balanced stepped
  | drain =>
      cases stop : session.receiver.stop with
      | none => exact absurd stop (drain_stopped stepped)
      | some reason =>
          rw [stopped_step stop stepped] at running
          cases running

theorem running_step {session next : RemoteSession} {action : RemoteAction}
    (stepped : session.step config action = some next) (running : next.receiver.stop = none) :
    session.receiver.stop = none := by
  cases stop : session.receiver.stop with
  | none => rfl
  | some reason =>
      rw [stopped_step stop stepped] at running
      cases running

/-- The window of a new session is whole, whatever window the receiver counts with. -/
theorem balanced_new (inventory : List NdxEvent) {window receiverWindow : Nat}
    {senderCredit : SenderCreditLedger} (opened : SenderCreditLedger.new window = .ok senderCredit)
    {receiverCredit : ReceiverCreditState} (fresh : ReceiverCreditState.new receiverWindow = .ok receiverCredit) :
    (new inventory senderCredit receiverCredit).Balanced window ∧
      (new inventory senderCredit receiverCredit).creditTotal = window := by
  have sender : senderCredit = ⟨window, window, false⟩ := by
    simp only [SenderCreditLedger.new] at opened
    cases valid : validateWindow window <;> rw [valid] at opened <;> cases opened
    rfl
  have receiver : receiverCredit.acceptedPending = 0 := by
    simp only [ReceiverCreditState.new] at fresh
    cases valid : validateWindow receiverWindow <;> rw [valid] at fresh <;> cases fresh
    rfl
  have total : (new inventory senderCredit receiverCredit).creditTotal = window := by
    simp [creditTotal, inFlight, new, RemoteSenderSession.new, Receiver.new, RemoteSessionState.new, sender,
      receiver]
  refine ⟨⟨?_, Nat.le_of_eq total, fun ack member => absurd member List.not_mem_nil,
    fun busy => by cases busy⟩, total⟩
  rw [sender]
  rfl

/-- While the loop goes on, the window is whole exactly when the loop has dropped no
charged byte. -/
theorem credit_conservation_exact {inventory : List NdxEvent} {window receiverWindow : Nat}
    {senderCredit : SenderCreditLedger} (opened : SenderCreditLedger.new window = .ok senderCredit)
    {receiverCredit : ReceiverCreditState} (fresh : ReceiverCreditState.new receiverWindow = .ok receiverCredit)
    {actions : List RemoteAction} {final : RemoteSession}
    (run : (machine config).exec (new inventory senderCredit receiverCredit) actions = some final)
    (running : final.receiver.stop = none) :
    final.creditTotal = window ↔
      (machine config).Along (fun session action => session.discards action = 0)
        (new inventory senderCredit receiverCredit) actions := by
  obtain ⟨balanced, total⟩ := balanced_new inventory opened fresh
  have account := @Lib.Machine.conserved_iff_along _ _ (machine config) creditTotal discards
    (fun session => session.receiver.stop = none) (Balanced window)
    (fun stepped alive => @running_step config _ _ _ stepped alive)
    (fun kept stepped alive => @step_balanced config _ _ _ _ kept stepped alive) _ _ _ balanced run running
  rw [total] at account
  exact account.2

/-- A source that fails after its first chunk. -/
def failingSource : SourceAnswers := ⟨.ok [], none, [[7]], .error "read failed", none⟩

/-- Both messages of the failed file are under way when the failure overtakes the chunk. -/
def overtakenRun : List RemoteAction :=
  sampleListing ++ ([.serve .fileList failingSource, .send, .send, .send, .receive .data sampleMessage,
    .receive .control sampleMessage] : List RemoteAction)

/-- The chunk is taken and dropped. -/
def droppedRun : List RemoteAction := overtakenRun ++ [.receive .data sampleMessage]

theorem overtakenRun_enabled : ((machine sampleConfig).exec sampleStart overtakenRun).isSome = true := by
  decide

/-- The chunk still counts while it is under way. -/
theorem credit_conservation_exact_overtaken : ∃ final,
    (machine sampleConfig).exec sampleStart overtakenRun = some final ∧ final.creditTotal = 100 := by
  have run := (Option.some_get overtakenRun_enabled).symm
  have alive : (((machine sampleConfig).exec sampleStart overtakenRun).get
      overtakenRun_enabled).receiver.stop = none := by decide
  exact ⟨_, run, (@credit_conservation_exact sampleConfig [.page samplePage, .done] 100 100 _ rfl _ rfl _ _ run
    alive).mpr (by decide)⟩

theorem droppedRun_enabled : ((machine sampleConfig).exec sampleStart droppedRun).isSome = true := by decide

/-- After the drop a byte of the window is gone, and nothing that could return it is left. -/
theorem dropped_chunk_shrinks_window : ∃ final,
    (machine sampleConfig).exec sampleStart droppedRun = some final ∧ final.receiver.stop = none ∧
      final.creditTotal = 99 ∧ final.sender.credit.capacity = 100 ∧ final.inFlight = 0 ∧ final.grants = [] := by
  exact ⟨_, (Option.some_get droppedRun_enabled).symm, by decide, by decide, by decide, by decide, by decide⟩

end RemoteSession

end Terrasync.App
