import Terrasync.App.RemoteSessionMoves

/-! Every step of a session keeps the order of its streams and queues. -/

set_option autoImplicit false

namespace Terrasync.App

open Transport

namespace RemoteSession

variable {config : RemoteConfig}

/-! ### Streams -/

section Streams

variable {controls listing messages : List Outgoing}

theorem Streaming.sublist {fewerControls shorterListing fewerMessages : List Outgoing}
    (streaming : Streaming controls listing messages) (control : fewerControls.Sublist controls)
    (fileList : shorterListing.Sublist listing) (data : fewerMessages.Sublist messages) :
    Streaming fewerControls shorterListing fewerMessages where
  control := fun outgoing member => streaming.control outgoing (control.subset member)
  fileList := fun outgoing member => streaming.fileList outgoing (fileList.subset member)
  indexed := fun outgoing member => streaming.indexed outgoing ((control.append data).subset member)
  pageless := fun outgoing member => streaming.pageless outgoing ((control.append data).subset member)
  tagged := fun outgoing member => streaming.tagged outgoing (data.subset member)
  ordered := streaming.ordered.sublist data

/-- A message moves from the script to the control stream. -/
theorem Streaming.control_post {outgoing : Outgoing} {before after : List Outgoing}
    (streaming : Streaming controls listing (before ++ outgoing :: after))
    (kind : senderStreamKind outgoing.message = .control) :
    Streaming (controls ++ [outgoing]) listing (before ++ after) := by
  have fewer : (before ++ after).Sublist (before ++ outgoing :: after) :=
    (List.Sublist.refl before).append (List.sublist_cons_self outgoing after)
  have among {other : Outgoing} (member : other ∈ (controls ++ [outgoing]) ++ (before ++ after)) :
      other ∈ controls ++ (before ++ outgoing :: after) := by
    simp only [List.mem_append, List.mem_cons, List.not_mem_nil, or_false] at member ⊢
    tauto
  refine ⟨?_, streaming.fileList, fun other member => streaming.indexed other (among member),
    fun other member => streaming.pageless other (among member),
    fun other member => streaming.tagged other (fewer.subset member), streaming.ordered.sublist fewer⟩
  intro other member
  rcases List.mem_append.mp member with old | new
  · exact streaming.control other old
  · rw [List.mem_singleton.mp new]
    exact kind

theorem Streaming.listing_post {outgoing : Outgoing} (streaming : Streaming controls listing messages)
    (kind : senderStreamKind outgoing.message = .fileList) :
    Streaming controls (listing ++ [outgoing]) messages := by
  refine { streaming with fileList := ?_ }
  intro other member
  rcases List.mem_append.mp member with old | new
  · exact streaming.fileList other old
  · rw [List.mem_singleton.mp new]
    exact kind

/-- A new script follows the messages on the data stream. -/
theorem Streaming.append {script : List Outgoing} (streaming : Streaming controls listing messages)
    (answer : Streaming [] [] script)
    (unclosed : ∀ early ∈ messages, ∀ late ∈ script, ∀ ndx, closes ndx early = true →
      carries ndx late = false) : Streaming controls listing (messages ++ script) := by
  refine ⟨streaming.control, streaming.fileList, ?_, ?_, ?_,
    List.pairwise_append.mpr ⟨streaming.ordered, answer.ordered, unclosed⟩⟩
  · intro outgoing member
    rw [← List.append_assoc] at member
    exact (List.mem_append.mp member).elim (streaming.indexed outgoing) (answer.indexed outgoing)
  · intro outgoing member
    rw [← List.append_assoc] at member
    exact (List.mem_append.mp member).elim (streaming.pageless outgoing) (answer.pageless outgoing)
  · intro outgoing member
    exact (List.mem_append.mp member).elim (streaming.tagged outgoing) (answer.tagged outgoing)

end Streams

theorem post_frame (session : RemoteSession) (outgoing : Outgoing) :
    (session.post outgoing).sender = session.sender ∧ (session.post outgoing).receiver = session.receiver ∧
      (session.post outgoing).requested = session.requested ∧
      (session.post outgoing).linked = session.linked := by
  simp only [post]
  split <;> exact ⟨rfl, rfl, rfl, rfl⟩

theorem post_streaming {session : RemoteSession} {outgoing : Outgoing} {script : List Outgoing}
    (streaming : Streaming session.control session.fileList (session.data ++ outgoing :: script)) :
    Streaming (session.post outgoing).control (session.post outgoing).fileList
      ((session.post outgoing).data ++ script) := by
  have fewer : (session.data ++ script).Sublist (session.data ++ outgoing :: script) :=
    (List.Sublist.refl session.data).append (List.sublist_cons_self outgoing script)
  simp only [post]
  split
  · next kind => exact streaming.control_post kind
  · next kind => exact (streaming.sublist (.refl _) (.refl _) fewer).listing_post kind
  · rw [List.append_assoc]
    exact streaming
  · exact streaming.sublist (.refl _) (.refl _) fewer

theorem take_streaming {session taken : RemoteSession} {stream : StreamKind} {outgoing : Outgoing}
    (took : session.take stream = some (outgoing, taken)) {script : List Outgoing}
    (streaming : Streaming session.control session.fileList (session.data ++ script)) :
    Streaming taken.control taken.fileList (taken.data ++ script) := by
  cases stream with
  | control =>
      cases queue : session.control <;> simp [take, queue] at took
      obtain ⟨rfl, rfl⟩ := took
      rw [queue] at streaming
      exact streaming.sublist (List.sublist_cons_self _ _) (.refl _) (.refl _)
  | fileList =>
      cases queue : session.fileList <;> simp [take, queue] at took
      obtain ⟨rfl, rfl⟩ := took
      rw [queue] at streaming
      exact streaming.sublist (.refl _) (List.sublist_cons_self _ _) (.refl _)
  | data =>
      cases queue : session.data <;> simp [take, queue] at took
      obtain ⟨rfl, rfl⟩ := took
      rw [queue] at streaming
      exact streaming.sublist (.refl _) (.refl _) (List.sublist_cons_self _ _)
  | ackProgress => cases took

/-! ### Scripts -/

theorem Streaming.script {messages : List Outgoing} (indexed : ∀ outgoing ∈ messages, Indexed outgoing)
    (pageless : ∀ outgoing ∈ messages, pageOf outgoing.message = none)
    (tagged : ∀ outgoing ∈ messages, isLink outgoing.message = true → outgoing.ndx ≠ none)
    (ordered : messages.Pairwise fun early late => ∀ ndx, closes ndx early = true → carries ndx late = false) :
    Streaming [] [] messages where
  control := fun _ member => absurd member List.not_mem_nil
  fileList := fun _ member => absurd member List.not_mem_nil
  indexed := indexed
  pageless := pageless
  tagged := tagged
  ordered := ordered

theorem neutral_streaming (tag : Ndx) {messages : List SenderMsg}
    (neutral : ∀ message ∈ messages, Neutral message) : Streaming [] [] (tagged tag messages) := by
  have silent : ∀ outgoing ∈ tagged tag messages, Neutral outgoing.message := by
    intro outgoing member
    obtain ⟨message, source, rfl⟩ := List.mem_map.mp member
    exact neutral message source
  refine .script (fun outgoing member => (silent outgoing member).indexed)
    (fun outgoing member => (silent outgoing member).page) ?_ ?_
  · intro outgoing member link
    rw [(silent outgoing member).link] at link
    cases link
  · refine List.pairwise_of_forall_mem_list fun early member late _ ndx closed => ?_
    simp [closes, (silent early member).closing] at closed

theorem payload_streaming (tag : Ndx) {messages : List SenderMsg}
    (carried : ∀ message ∈ messages, payloadNdx message = some tag) :
    Streaming [] [] (tagged tag messages) := by
  have silent : ∀ outgoing ∈ tagged tag messages, payloadNdx outgoing.message = some tag := by
    intro outgoing member
    obtain ⟨message, source, rfl⟩ := List.mem_map.mp member
    exact carried message source
  refine .script ?_ (fun outgoing member => (payload_only (silent outgoing member)).2.2.2) ?_ ?_
  · intro outgoing member path reason failed
    have payload := silent outgoing member
    rw [failed] at payload
    cases payload
  · intro outgoing member link
    rw [(payload_only (silent outgoing member)).2.2.1] at link
    cases link
  · refine List.pairwise_of_forall_mem_list fun early member late _ ndx closed => ?_
    simp [closes, (payload_only (silent early member)).1] at closed

theorem single_streaming {tag : Ndx} {message : SenderMsg} (indexed : Indexed ⟨some tag, message⟩)
    (page : pageOf message = none) : Streaming [] [] [⟨some tag, message⟩] := by
  refine .script ?_ ?_ ?_ (List.pairwise_singleton _ _) <;> intro outgoing member <;>
    rw [List.mem_singleton.mp member]
  · exact indexed
  · exact page
  · exact fun _ => Option.some_ne_none tag

theorem tagged_uncarried {ndx tag : Ndx} {messages : List SenderMsg}
    (silent : ∀ message ∈ messages, payloadNdx message ≠ some ndx) :
    ∀ outgoing ∈ tagged tag messages, carries ndx outgoing = false := by
  intro outgoing member
  obtain ⟨message, source, rfl⟩ := List.mem_map.mp member
  simp [carries, silent message source]

theorem answers_streaming {tag : Ndx} {messages : List SenderMsg} (answers : Answers tag messages) :
    Streaming [] [] (tagged tag messages) := by
  cases answers with
  | @filed payload rest closing carried closed neutral =>
      have indexed : Indexed ⟨some tag, closing⟩ := by
        intro path reason failed
        simp only at failed
        rw [failed] at closed
        cases closed
      have last := (single_streaming indexed (closing_only closed).2.2.2).append
        (neutral_streaming tag neutral) fun early member late after ndx _ =>
          tagged_uncarried (fun message source => by simp [(neutral message source).payload]) late after
      have all := (payload_streaming tag carried).append last fun early member late after ndx closed => by
        obtain ⟨message, source, rfl⟩ := List.mem_map.mp member
        simp [closes, (payload_only (carried message source)).1] at closed
      simpa [tagged] using all
  | @direct message rest settles neutral =>
      have direct : markerNdx message ≠ none ∨ isLink message = true :=
        settles.imp_left fun marker => by rw [marker]; exact Option.some_ne_none _
      have indexed : Indexed ⟨some tag, message⟩ := by
        intro path reason failed
        simp only at failed
        rw [failed] at direct
        simp [markerNdx, isLink] at direct
      exact (single_streaming indexed (direct_only direct).2.2).append (neutral_streaming tag neutral)
        fun early member late after ndx _ =>
          tagged_uncarried (fun message source => by simp [(neutral message source).payload]) late after

/-- An answer carries the index it was asked for only. -/
theorem answers_own {tag ndx : Ndx} {messages : List SenderMsg} (answers : Answers tag messages)
    (other : tag ≠ ndx) : ∀ outgoing ∈ tagged tag messages, carries ndx outgoing = false := by
  intro outgoing member
  have none := List.countP_eq_zero.mp ((answers.contents ndx).1 other).carried outgoing member
  simpa using none

theorem serves_streaming {sender : RemoteSenderSession} {message : ReceiverMsg} {script : List Outgoing}
    {controls listing messages : List Outgoing} (serves : sender.Serves message script)
    (streaming : Streaming controls listing messages)
    (unclosed : ∀ ndx, asks ndx message = true → ∀ early ∈ messages, closes ndx early = false) :
    Streaming controls listing (messages ++ script) := by
  cases serves with
  | @answered tag item answer asked known answers =>
      refine streaming.append (answers_streaming answers) fun early member late after ndx closed => ?_
      by_cases own : tag = ndx
      · subst own
        rw [unclosed tag asked early member] at closed
        cases closed
      · exact answers_own answers own late after
  | @directory tag item answer asked known plain neutral =>
      exact streaming.append (neutral_streaming tag neutral) fun early member late after ndx closed =>
        tagged_uncarried (fun message source => by simp [(neutral message source).payload]) late after
  | concluded unasked finished =>
      refine streaming.append (.script ?_ ?_ ?_ (List.pairwise_singleton _ _)) ?_
      · intro outgoing member
        rw [List.mem_singleton.mp member]
        exact fun path reason failed => nomatch failed
      · intro outgoing member
        rw [List.mem_singleton.mp member]
        rfl
      · intro outgoing member link
        rw [List.mem_singleton.mp member] at link
        cases link
      · intro early member late after ndx closed
        rw [List.mem_singleton.mp after]
        rfl
  | unanswered asked unknown =>
      rw [List.append_nil]
      exact streaming
  | noted unasked =>
      rw [List.append_nil]
      exact streaming

/-! ### Steps -/

theorem orderly_serve {session next : RemoteSession} {stream : StreamKind} {answers : SourceAnswers}
    (orderly : session.Orderly) (valid : ∀ ndx, (session.account ndx).Valid)
    (stepped : session.serve config stream answers = some next) : next.Orderly := by
  obtain ⟨idle, message, requests, acks, queues, rfl⟩ := serve_eq stepped
  have serves := RemoteSenderSession.serve_serves config.sender answers idle message
  have streaming := orderly.toStreaming
  rw [idle, List.append_nil] at streaming
  refine ⟨serves_streaming serves streaming fun ndx asked early member => ?_, orderly.toQueued⟩
  have single := (valid ndx).single
  have waiting : 0 < session.requests.countP (asks ndx) + session.acks.countP (asks ndx) := by
    rcases queues with ⟨first, -⟩ | ⟨-, first⟩ <;> rw [first, List.countP_cons, asked, if_pos rfl] <;>
      omega
  have open_ : session.data.countP (closes ndx) = 0 := by
    simp only [Account.tokens, account] at single
    omega
  simpa using List.countP_eq_zero.mp open_ early member

theorem orderly_send {session next : RemoteSession} (orderly : session.Orderly)
    (stepped : session.send = some next) : next.Orderly := by
  rcases send_eq stepped with ⟨failure, rfl⟩ | ⟨outgoing, script, credit, queue, -, rfl⟩
  · exact ⟨orderly.toStreaming, orderly.toQueued⟩
  · have streaming := orderly.toStreaming
    rw [queue] at streaming
    obtain ⟨sender, receiver, -, -⟩ := post_frame
      ({ session with sender := { session.sender with script, credit } } : RemoteSession) outgoing
    refine ⟨?_, ?_⟩
    · rw [sender]
      exact @post_streaming { session with sender := { session.sender with script, credit } } outgoing script
        streaming
    · rw [receiver]
      exact orderly.toQueued

theorem orderly_advertise {session next : RemoteSession} (orderly : session.Orderly)
    (stepped : session.advertise = some next) : next.Orderly := by
  have unchanged (sender : RemoteSenderSession) (script : sender.script = session.sender.script)
      (message : SenderMsg) (kind : senderStreamKind message = .fileList) :
      (({ session with sender } : RemoteSession).post ⟨none, message⟩).Orderly := by
    have posted : ({ session with sender } : RemoteSession).post ⟨none, message⟩ =
        { session with sender, fileList := session.fileList ++ [⟨none, message⟩] } := by
      simp only [post, kind]
    rw [posted]
    refine ⟨?_, orderly.toQueued⟩
    simp only [script]
    exact orderly.toStreaming.listing_post kind
  rcases advertise_eq stepped with ⟨page, inventory, queue, rfl⟩ | ⟨inventory, done, message, -, kind, -, rfl⟩
  · exact unchanged { session.sender with
      inventory, ndxTable := session.sender.ndxTable.ingestPage page } rfl (.filePage page) rfl
  · exact unchanged { session.sender with inventory, advertised := done } rfl message kind

theorem reaction_issued {session : RemoteSessionState} {message : SenderMsg} {slot : ActiveTransfer}
    {terminated : List Ndx} {commands : List DiskCommitMsg}
    (reaction : session.Reaction message slot terminated commands) : ∀ command ∈ commands, Issued command := by
  have carried {commands : List DiskCommitMsg} (data : ∀ command ∈ commands, carriesData command = true) :
      ∀ command ∈ commands, Issued command :=
    fun command member => .inr (.inr (.inl (data command member)))
  have opening {key : TransferKey} {command : DiskCommitMsg} (opens : opensTransfer command = some key) :
      Issued command := .inl (by rw [opens]; exact Option.some_ne_none key)
  have committing {key : TransferKey} {command : DiskCommitMsg} (commits : commitsTransfer command = some key) :
      Issued command := .inr (.inl (by rw [commits]; exact Option.some_ne_none key))
  cases reaction with
  | kept closing marker data => exact carried data
  | opened payload live idle indexed path opens data =>
      exact List.forall_mem_cons.mpr ⟨opening opens, carried data⟩
  | committed closing live active indexed path commits =>
      exact List.forall_mem_singleton.mpr (committing commits)
  | reopened closing live idle indexed path opens commits =>
      exact List.forall_mem_cons.mpr ⟨opening opens, List.forall_mem_singleton.mpr (committing commits)⟩
  | marked marker indexed =>
      exact List.forall_mem_singleton.mpr (.inr (.inr (.inr (.inr ⟨_, _, rfl⟩))))
  | aborted failed active => exact List.forall_mem_singleton.mpr (.inr (.inr (.inr (.inl rfl))))
  | dropped | unmarked | failed => exact fun _ member => absurd member List.not_mem_nil

theorem issued_shutdown {ends : List DiskCommitMsg} (shutdown : ∀ command ∈ ends, command = .shutdown) :
    ∀ command ∈ ends, Issued command := by
  intro command member
  rw [shutdown command member]
  exact .inr (.inr (.inr (.inl rfl)))

/-- The queues after a handler of the loop. -/
theorem queued_haltIf {receiver : Receiver} {handled : RemoteSessionState} {effects : Effects}
    {stop : Option Stop} (goesOn : GoesOn stop) (queued : Queued receiver)
    (issued : ∀ command ∈ effects.commands, Issued command) :
    Queued ((receiver.install handled effects).haltIf stop) := by
  obtain ⟨-, committer, outcomes, ends, commands, shutdown⟩ :=
    @haltIf_frame (receiver.install handled effects) stop goesOn
  refine ⟨?_, ?_, ?_⟩
  · rw [commands]
    exact List.forall_mem_append.mpr
      ⟨List.forall_mem_append.mpr ⟨queued.commands, issued⟩, issued_shutdown shutdown⟩
  · rw [outcomes]
    exact queued.outcomes
  · rw [committer]
    exact queued.settled

theorem orderly_receive {session next : RemoteSession} {stream : StreamKind} {answers : MessageAnswers}
    (orderly : session.Orderly) (stepped : session.receive config stream answers = some next)
    (goesOn : GoesOn next.receiver.stop) : next.Orderly := by
  obtain ⟨outgoing, taken, took, -, next_eq, stop_eq⟩ := receive_eq stepped
  obtain ⟨sender, receiver, -, -⟩ := take_sender took
  have indexed := indexed_of_take orderly took
  have issued := reaction_issued
    (RemoteSessionState.handle_reacts config.receiver answers session.receiver.session indexed)
  rw [stop_eq] at goesOn
  rw [next_eq, receiver]
  refine ⟨?_, queued_haltIf goesOn orderly.toQueued issued⟩
  have streaming := take_streaming took orderly.toStreaming
  rw [← sender] at streaming
  exact streaming

theorem goesOn_stopIf (complete : Bool) : GoesOn (RemoteSessionState.stopIf complete) := by
  cases complete with
  | false => exact .inl rfl
  | true => exact .inr rfl

theorem orderly_acknowledge {session next : RemoteSession} (orderly : session.Orderly)
    (stepped : session.receiverStep config .acknowledge = some next) : next.Orderly := by
  obtain ⟨ndx, outcome, rest, queue, -, rfl, -⟩ := acknowledge_eq orderly stepped
  obtain ⟨-, frame⟩ := session.receiver.session.handleFileOutcome_settles ndx outcome
  refine ⟨orderly.toStreaming, queued_haltIf (goesOn_stopIf _) ⟨orderly.commands, fun ack member => ?_,
    orderly.settled⟩ ?_⟩
  · exact orderly.outcomes ack (by rw [queue]; exact List.mem_cons_of_mem _ member)
  · rw [frame.commands]
    exact fun _ member => absurd member List.not_mem_nil

theorem queued_commit {receiver : Receiver} {answers : DiskAnswers} {command : DiskCommitMsg}
    {rest : List DiskCommitMsg} (queued : Queued receiver) (queue : receiver.commands = command :: rest) :
    Queued (receiver.commitNext config.receiver.session answers command rest) := by
  have issued := queued.commands command (by rw [queue]; exact List.mem_cons_self)
  have disposal := @FileCommitState.dispatch_disposes config.receiver.session answers
    receiver.committer queued.settled command
  refine ⟨?_, ?_, FileCommitState.dispatch_settled queued.settled command⟩
  · intro later member
    exact queued.commands later (by rw [queue]; exact List.mem_cons_of_mem _ member)
  · intro ack member
    simp only [Receiver.commitNext] at member
    rcases List.mem_append.mp member with old | new
    · exact queued.outcomes ack old
    · generalize (FileCommitState.dispatch config.receiver.session answers receiver.committer
        command).acks = acks at disposal new
      generalize (FileCommitState.dispatch config.receiver.session answers receiver.committer
        command).state.key = key at disposal
      generalize receiver.committer.key = busy at disposal
      cases disposal with
      | created entry =>
          rcases entry with ⟨entry, rfl⟩ | ⟨entry, target, rfl⟩ <;>
            simp [Issued, opensTransfer, commitsTransfer, carriesData, endsTransfer] at issued
      | openFailed | committed | broken | marked => exact ⟨_, _, List.mem_singleton.mp new⟩
      | opened | rejected | ignored | continued | aborted => cases new

theorem orderly_step {session next : RemoteSession} {action : RemoteAction} (orderly : session.Orderly)
    (valid : ∀ ndx, (session.account ndx).Valid) (running : session.receiver.stop = none)
    (stepped : session.step config action = some next) (goesOn : GoesOn next.receiver.stop) :
    next.Orderly := by
  cases action with
  | advertise => exact orderly_advertise orderly stepped
  | serve stream answers => exact orderly_serve orderly valid stepped
  | send => exact orderly_send orderly stepped
  | applyGrant =>
      obtain ⟨bytes, grants, -, rfl⟩ := applyGrant_eq stepped
      exact ⟨orderly.toStreaming, orderly.toQueued⟩
  | receive stream answers => exact orderly_receive orderly stepped goesOn
  | disconnect => exact absurd goesOn (disconnect_stops stepped)
  | acknowledge => exact orderly_acknowledge orderly stepped
  | commit answers =>
      obtain ⟨command, rest, queue, rfl⟩ := commit_eq stepped
      exact ⟨orderly.toStreaming, queued_commit orderly.toQueued queue⟩
  | drain => exact absurd running (drain_stopped stepped)

end RemoteSession

end Terrasync.App
