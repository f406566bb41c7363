import Terrasync.App.RemoteSessionCustody

/-! The move each step of a session makes on the account of an index. -/

set_option autoImplicit false

namespace Terrasync.App

open Transport

namespace RemoteSession

open RemoteSessionState (requestable)

/-! ### Steps of the receiver -/

theorem countP_asks_replies (ndx : Ndx) (replies : List ReceiverMsg) :
    (replies.filter isRequest).countP (asks ndx) + (replies.filter isAck).countP (asks ndx) =
      (replies.filterMap requestNdx).count ndx + (replies.filterMap redoNdx).count ndx := by
  induction replies with
  | nil => rfl
  | cons reply rest ih =>
      cases reply <;>
        simp [isRequest, isAck, receiverStreamKind, grantBytes, requestNdx, redoNdx, asks,
          List.filterMap_cons, List.count_cons, List.countP_cons] at ih ⊢ <;>
        omega

/-- An end of the loop that leaves the transfer slot alone. -/
def GoesOn (stop : Option Stop) : Prop := stop = none ∨ stop = some .complete

theorem haltIf_frame {receiver : Receiver} {stop : Option Stop} (goesOn : GoesOn stop) :
    (receiver.haltIf stop).session = receiver.session ∧
      (receiver.haltIf stop).committer = receiver.committer ∧
      (receiver.haltIf stop).outcomes = receiver.outcomes ∧
      ∃ ends, (receiver.haltIf stop).commands = receiver.commands ++ ends ∧
        ∀ command ∈ ends, command = .shutdown := by
  rcases goesOn with rfl | rfl
  · exact ⟨rfl, rfl, rfl, [], (List.append_nil _).symm, by simp⟩
  · exact ⟨rfl, rfl, rfl, [.shutdown], rfl, by simp⟩

theorem shutdown_foreign (ndx : Ndx) {ends : List DiskCommitMsg}
    (shutdown : ∀ command ∈ ends, command = .shutdown) :
    ends.countP (marks ndx) = 0 ∧ ends.countP (commits ndx) = 0 ∧ ends.countP (begins ndx) = 0 := by
  refine ⟨List.countP_eq_zero.mpr ?_, List.countP_eq_zero.mpr ?_, List.countP_eq_zero.mpr ?_⟩ <;>
    intro command member <;> rw [shutdown command member] <;>
    simp [marks, commits, begins, commitsTransfer, opensTransfer]

/-- The account after a handler of the loop: the indices it asks for, the commands it
issues, and the ledger and transfer slot it leaves. -/
theorem account_reply {session : RemoteSession} {handled : RemoteSessionState} {effects : Effects}
    {stop : Option Stop} (goesOn : GoesOn stop) (ndx : Ndx) :
    (session.reply ((session.receiver.install handled effects).haltIf stop, effects.replies)).account ndx =
      { session.account ndx with
        requested := (session.account ndx).requested || decide (ndx ∈ effects.requests)
        late := (session.account ndx).late + effects.requests.count ndx +
          (effects.replies.filterMap redoNdx).count ndx + effects.commands.countP (marks ndx)
        committing := (session.account ndx).committing + effects.commands.countP (commits ndx)
        opens := (session.account ndx).opens + effects.commands.countP (begins ndx)
        terminated := ndx ∈ handled.ledger.terminatedNdx
        held := handled.activeTransfer.ndx = some ndx } := by
  obtain ⟨sessionEq, committerEq, outcomesEq, ends, commandsEq, shutdown⟩ :=
    @haltIf_frame (session.receiver.install handled effects) stop goesOn
  obtain ⟨noMarks, noCommits, noBegins⟩ := shutdown_foreign ndx shutdown
  have asked := countP_asks_replies ndx effects.replies
  simp only [account, reply, sessionEq, committerEq, outcomesEq, commandsEq]
  simp only [Receiver.install, List.countP_append, noMarks, noCommits, noBegins, Effects.requests,
    Account.mk.injEq, true_and] at asked ⊢
  refine ⟨?_, by omega, by omega, by omega, rfl, rfl⟩
  simp [List.mem_append, Bool.decide_or]

theorem account_deliver {session : RemoteSession} {outgoing : Outgoing} {handled : RemoteSessionState}
    {effects : Effects} {stop : Option Stop} (goesOn : GoesOn stop)
    (noRedo : ∀ reply ∈ effects.replies, redoNdx reply = none) (ndx : Ndx) :
    (({ session with linked := session.linked ++ (linkNdx outgoing).toList } : RemoteSession).reply
        ((session.receiver.install handled effects).haltIf stop, effects.replies)).account ndx =
      withReaction (session.account ndx) ndx outgoing effects.requests handled.activeTransfer
        handled.ledger.terminatedNdx effects.commands := by
  have redone : effects.replies.filterMap redoNdx = [] := List.filterMap_eq_nil_iff.mpr noRedo
  have linked : (linkNdx outgoing).toList.count ndx = (decide (linkNdx outgoing = some ndx)).toNat := by
    cases link : linkNdx outgoing with
    | none => simp
    | some owner => by_cases own : owner = ndx <;> simp [own]
  rw [@account_reply { session with linked := session.linked ++ (linkNdx outgoing).toList } _ _ _ goesOn ndx,
    redone]
  simp only [account, withReaction, List.count_append, linked, List.count_nil, Account.mk.injEq, true_and,
    and_true]
  omega

/-! ### Steps -/

/-- A step that may lose a token of an index. -/
inductive Loses (session : RemoteSession) (ndx : Ndx) : RemoteAction → Prop where
  /-- The sender does not know the index it is asked for. -/
  | unanswered {stream : StreamKind} {answers : SourceAnswers} (asked : 0 < (session.account ndx).late)
      (unknown : session.sender.ndxTable.get ndx = none) : Loses session ndx (.serve stream answers)
  /-- The request is answered with a directory, which has no terminal. -/
  | directory {stream : StreamKind} {answers : SourceAnswers} {item : ObservedItem}
      (asked : 0 < (session.account ndx).late) (known : session.sender.ndxTable.get ndx = some item)
      (plain : RemoteSenderSession.isPlainDirectory item = true) : Loses session ndx (.serve stream answers)
  /-- The receiver does not know the index of a message. -/
  | unknown {stream : StreamKind} {answers : MessageAnswers} (asked : 0 < (session.account ndx).tokens)
      (unknown : session.receiver.session.indexedEntry ndx = none) :
      Loses session ndx (.receive stream answers)
  /-- The end of a file finds the transfer slot taken by another file. -/
  | blocked {answers : MessageAnswers} {other : Ndx} {outgoing : Outgoing} {rest : List Outgoing}
      {sourceHash : Option SourceHash} (head : session.data = outgoing :: rest)
      (closing : outgoing.message = .endOfFile ndx sourceHash) (different : other ≠ ndx)
      (active : session.receiver.session.activeTransfer.ndx = some other)
      (live : ¬ session.receiver.session.Terminated ndx) : Loses session ndx (.receive .data answers)
  /-- The disk-commit task ignores a commit of a file whose outcome is not reported. -/
  | ignored {answers : DiskAnswers} {command : DiskCommitMsg} {rest : List DiskCommitMsg}
      {key : TransferKey} (head : session.receiver.commands = command :: rest)
      (committing : commitsTransfer command = some key) (own : key.ndx = ndx)
      (other : session.receiver.committer.key ≠ some key)
      (unreported : (session.account ndx).reports = 0) (live : (session.account ndx).terminated = false) :
      Loses session ndx (.commit answers)

variable {config : RemoteConfig}

theorem take_sender {session taken : RemoteSession} {stream : StreamKind} {outgoing : Outgoing}
    (took : session.take stream = some (outgoing, taken)) :
    taken.sender = session.sender ∧ taken.receiver = session.receiver ∧
      taken.requested = session.requested ∧ taken.linked = session.linked := by
  cases stream with
  | control =>
      cases queue : session.control <;> simp [take, queue] at took
      obtain ⟨rfl, rfl⟩ := took
      exact ⟨rfl, rfl, rfl, rfl⟩
  | fileList =>
      cases queue : session.fileList <;> simp [take, queue] at took
      obtain ⟨rfl, rfl⟩ := took
      exact ⟨rfl, rfl, rfl, rfl⟩
  | data =>
      cases queue : session.data <;> simp [take, queue] at took
      obtain ⟨rfl, rfl⟩ := took
      exact ⟨rfl, rfl, rfl, rfl⟩
  | ackProgress => cases took

/-- The end of a file is taken after its whole payload. -/
theorem drained_of_endOfFile {session taken : RemoteSession} {stream : StreamKind} {outgoing : Outgoing}
    (orderly : session.Orderly) (took : session.take stream = some (outgoing, taken)) {ndx : Ndx}
    {sourceHash : Option SourceHash} (closing : outgoing.message = .endOfFile ndx sourceHash) :
    (taken.account ndx).payloads = 0 ∧
      stream = .data ∧ ∃ rest, session.data = outgoing :: rest := by
  have kind : senderStreamKind outgoing.message = .data := by rw [closing]; rfl
  cases stream with
  | control =>
      cases queue : session.control <;> simp [take, queue] at took
      obtain ⟨rfl, rfl⟩ := took
      rw [orderly.control _ (by rw [queue]; exact List.mem_cons_self)] at kind
      cases kind
  | fileList =>
      cases queue : session.fileList <;> simp [take, queue] at took
      obtain ⟨rfl, rfl⟩ := took
      rw [orderly.fileList _ (by rw [queue]; exact List.mem_cons_self)] at kind
      cases kind
  | data =>
      cases queue : session.data <;> simp [take, queue] at took
      obtain ⟨rfl, rfl⟩ := took
      next first rest =>
        have ordered := orderly.ordered
        rw [queue, List.cons_append, List.pairwise_cons] at ordered
        have ends : closes ndx first = true := by simp [closes, closing, closingNdx]
        have nothing : (rest ++ session.sender.script).countP (carries ndx) = 0 :=
          List.countP_eq_zero.mpr fun later member => by
            rw [ordered.1 later member ndx ends]
            exact Bool.false_ne_true
        rw [List.countP_append] at nothing
        refine ⟨?_, rfl, rest, rfl⟩
        simp only [account]
        omega
  | ackProgress => cases took

theorem indexed_of_take {session taken : RemoteSession} {stream : StreamKind} {outgoing : Outgoing}
    (orderly : session.Orderly) (took : session.take stream = some (outgoing, taken)) : Indexed outgoing := by
  cases stream with
  | control =>
      cases queue : session.control <;> simp [take, queue] at took
      obtain ⟨rfl, rfl⟩ := took
      exact orderly.indexed _ (by simp [queue])
  | fileList =>
      cases queue : session.fileList <;> simp [take, queue] at took
      obtain ⟨rfl, rfl⟩ := took
      have kind := orderly.fileList _ (by rw [queue]; exact List.mem_cons_self)
      intro path reason failed
      rw [failed] at kind
      cases kind
  | data =>
      cases queue : session.data <;> simp [take, queue] at took
      obtain ⟨rfl, rfl⟩ := took
      exact orderly.indexed _ (by simp [queue])
  | ackProgress => cases took

theorem haltIf_stop {receiver : Receiver} (running : receiver.stop = none) (stop : Option Stop) :
    (receiver.haltIf stop).stop = stop := by
  cases stop with
  | none => exact running
  | some reason => cases reason <;> rfl

/-- What `receive` does, once a message is taken. -/
theorem receive_eq {session next : RemoteSession} {stream : StreamKind} {answers : MessageAnswers}
    (stepped : session.receive config stream answers = some next) :
    ∃ outgoing taken, session.take stream = some (outgoing, taken) ∧ session.receiver.stop = none ∧
      let handled := session.receiver.session.handle config.receiver answers outgoing.message
      next = ({ taken with linked := taken.linked ++ (linkNdx outgoing).toList } : RemoteSession).reply
          ((taken.receiver.install handled.session handled.effects).haltIf handled.value,
            handled.effects.replies) ∧
        next.receiver.stop = handled.value := by
  cases took : session.take stream with
  | none => simp [receive, took] at stepped
  | some found =>
      obtain ⟨outgoing, taken⟩ := found
      obtain ⟨-, receiver, -, -⟩ := take_sender took
      simp only [receive, took, receiverStep, Receiver.step] at stepped
      split at stepped
      · next running =>
          simp only [Option.map_some, Option.some.injEq] at stepped
          refine ⟨outgoing, taken, rfl, by rw [← receiver]; exact running, ?_, ?_⟩
          · rw [← stepped, ← receiver]
            rfl
          · rw [← stepped, ← receiver]
            exact @haltIf_stop (taken.receiver.install _ _) running _
      · cases stepped

theorem moves_receive {session next : RemoteSession} {stream : StreamKind} {answers : MessageAnswers}
    (orderly : session.Orderly)
    (pages : ∀ outgoing taken page, session.take stream = some (outgoing, taken) →
      outgoing.message = .filePage page → (requestable page).Nodup ∧
        ∀ ndx ∈ requestable page, ndx ∉ session.requested)
    (stepped : session.receive config stream answers = some next) (goesOn : GoesOn next.receiver.stop)
    (ndx : Ndx) :
    (session.account ndx).Moves (Loses session ndx (.receive stream answers)) (next.account ndx) := by
  obtain ⟨outgoing, taken, took, -, next_eq, stop_eq⟩ := receive_eq stepped
  obtain ⟨-, receiver, requested, -⟩ := take_sender took
  have indexed := indexed_of_take orderly took
  have accounts := RemoteSessionState.handle_accounts config.receiver answers session.receiver.session indexed
  have reaction := RemoteSessionState.handle_reacts config.receiver answers session.receiver.session indexed
  rw [stop_eq] at goesOn
  rw [next_eq, account_deliver goesOn accounts.replies, account_take orderly took]
  have dead : (taken.account ndx).terminated =
      decide (ndx ∈ session.receiver.session.ledger.terminatedNdx) := by rw [← receiver]; rfl
  have held : (taken.account ndx).held =
      decide (session.receiver.session.activeTransfer.ndx = some ndx) := by rw [← receiver]; rfl
  cases advertised : pageOf outgoing.message with
  | some page =>
      have message : outgoing.message = .filePage page := by
        cases kind : outgoing.message <;> rw [kind] at advertised <;> cases advertised
        rfl
      obtain ⟨distinct, fresh⟩ := pages outgoing taken page took message
      obtain ⟨⟨dirs, after⟩, commands, -, sublist⟩ := @RemoteSessionState.handlePage_classifies
        config.receiver answers.page session.receiver.session page
      have handled : session.receiver.session.handle config.receiver answers outgoing.message =
          session.receiver.session.handlePage config.receiver answers.page page := by rw [message]; rfl
      rw [handled, commands, after]
      refine moves_page message dead held (distinct.sublist sublist) fun member => ?_
      have unrequested := fresh ndx (sublist.subset member)
      rw [← requested] at unrequested
      exact decide_eq_false unrequested
  | none =>
      have silent : (session.receiver.session.handle config.receiver answers
          outgoing.message).effects.requests = [] := by
        have sublist := accounts.requests
        rw [RemoteSessionState.requestableBy, advertised] at sublist
        exact List.sublist_nil.mp sublist
      rw [silent]
      refine moves_reaction reaction dead held (fun sourceHash closing => ?_) (fun own missing => ?_) ?_
      · exact (drained_of_endOfFile orderly took closing).1
      · refine .unknown ?_ missing
        rw [account_take orderly took]
        rcases own with closing | marker
        · simp only [withMessage, Account.tokens, closing, Bool.toNat_true]
          omega
        · have settles : settlesDirectly ndx outgoing = true := by simp [settlesDirectly, marker]
          simp only [withMessage, Account.tokens, settles, Bool.toNat_true]
          omega
      · intro sourceHash other closing different active live
        obtain ⟨-, rfl, rest, head⟩ := drained_of_endOfFile orderly took closing
        exact .blocked head closing different active live

/-- What `acknowledge` does. -/
theorem acknowledge_eq {session next : RemoteSession} (orderly : session.Orderly)
    (stepped : session.receiverStep config .acknowledge = some next) :
    ∃ ndx outcome rest, session.receiver.outcomes = .fileOutcome ndx outcome :: rest ∧
      session.receiver.stop = none ∧
      let handled := session.receiver.session.handleFileOutcome ndx outcome
      next = ({ session with receiver := { session.receiver with outcomes := rest } } :
          RemoteSession).reply
        (({ session.receiver with outcomes := rest }.install handled.session handled.effects).haltIf
          (RemoteSessionState.stopIf handled.value), handled.effects.replies) ∧
      next.receiver.stop = RemoteSessionState.stopIf handled.value := by
  cases queue : session.receiver.outcomes with
  | nil => simp [receiverStep, Receiver.step, queue] at stepped
  | cons ack rest =>
      obtain ⟨ndx, outcome, rfl⟩ := orderly.outcomes ack (by rw [queue]; exact List.mem_cons_self)
      simp only [receiverStep, Receiver.step, queue] at stepped
      split at stepped
      · next running =>
          simp only [Option.map_some, Option.some.injEq] at stepped
          refine ⟨ndx, outcome, rest, rfl, running, stepped.symm, ?_⟩
          rw [← stepped]
          exact @haltIf_stop ({ session.receiver with outcomes := rest }.install _ _) running _
      · cases stepped

theorem moves_acknowledge {session next : RemoteSession} (orderly : session.Orderly) (ndx : Ndx)
    (stepped : session.receiverStep config .acknowledge = some next) :
    (session.account ndx).Moves (Loses session ndx .acknowledge) (next.account ndx) := by
  obtain ⟨reported, outcome, rest, queue, -, next_eq, stop_eq⟩ := acknowledge_eq orderly stepped
  obtain ⟨verdict, frame⟩ := session.receiver.session.handleFileOutcome_settles reported outcome
  have goesOn : GoesOn (RemoteSessionState.stopIf
      (session.receiver.session.handleFileOutcome reported outcome).value) := by
    cases (session.receiver.session.handleFileOutcome reported outcome).value
    · exact .inl rfl
    · exact .inr rfl
  rw [next_eq, account_reply goesOn, frame.commands, frame.requests, frame.activeTransfer]
  have shared : session.account ndx =
      { ({ session with receiver := { session.receiver with outcomes := rest } } :
            RemoteSession).account ndx with
        late := (({ session with receiver := { session.receiver with outcomes := rest } } :
            RemoteSession).account ndx).late + (mismatchesOn ndx (.fileOutcome reported outcome)).toNat
        reports := (({ session with receiver := { session.receiver with outcomes := rest } } :
            RemoteSession).account ndx).reports + (reportsOn ndx (.fileOutcome reported outcome)).toNat } := by
    simp only [account, queue, List.countP_cons]
    cases reportsOn ndx (.fileOutcome reported outcome) <;>
      cases mismatchesOn ndx (.fileOutcome reported outcome) <;> simp <;> omega
  have dead : (({ session with receiver := { session.receiver with outcomes := rest } } :
      RemoteSession).account ndx).terminated =
      decide (ndx ∈ session.receiver.session.ledger.terminatedNdx) := rfl
  have held : (({ session with receiver := { session.receiver with outcomes := rest } } :
      RemoteSession).account ndx).held =
      decide (session.receiver.session.activeTransfer.ndx = some ndx) := rfl
  rw [shared]
  generalize ({ session with receiver := { session.receiver with outcomes := rest } } :
    RemoteSession).account ndx = base at dead held ⊢
  obtain ⟨requested, late, answering, committing, opens, reports, payloads, wasDead, wasHeld⟩ := base
  simp only at dead held
  subst dead held
  generalize (session.receiver.session.handleFileOutcome reported outcome).session.ledger.terminatedNdx =
    terminated at verdict ⊢
  generalize (session.receiver.session.handleFileOutcome reported outcome).effects.replies = replies
    at verdict ⊢
  cases verdict with
  | again mismatch =>
      by_cases own : reported = ndx <;>
        simp [mismatchesOn, reportsOn, mismatch, redoNdx, own] <;> exact .stay
  | terminal plain =>
      have quiet : replies.filterMap redoNdx = [] :=
        List.filterMap_eq_nil_iff.mpr fun reply member => (plain reply member).1
      rw [quiet]
      by_cases own : reported = ndx
      · subst own
        cases mismatch : isMismatch outcome with
        | true =>
            simp [mismatchesOn, reportsOn, mismatch, mem_recordTerminal]
            exact .giveUp rfl
        | false =>
            simp [mismatchesOn, reportsOn, mismatch, mem_recordTerminal]
            exact .report rfl
      · have apart : ndx ≠ reported := fun same => own same.symm
        simp [mismatchesOn, reportsOn, own, apart, mem_recordTerminal]
        exact .stay

/-- What the disk-commit task does in a session. -/
theorem commit_eq {session next : RemoteSession} {answers : DiskAnswers}
    (stepped : session.receiverStep config (.commit answers) = some next) :
    ∃ command rest, session.receiver.commands = command :: rest ∧
      next = session.reply (session.receiver.commitNext config.receiver.session answers command rest, []) := by
  cases queue : session.receiver.commands with
  | nil => simp [receiverStep, Receiver.step, queue] at stepped
  | cons command rest =>
      simp only [receiverStep, Receiver.step, queue] at stepped
      split at stepped
      · cases stepped
      · simp only [Option.map_some, Option.some.injEq] at stepped
        exact ⟨command, rest, rfl, stepped.symm⟩

/-- The accounts before and after a command differ by the command and its acknowledgements. -/
theorem account_commit {session : RemoteSession} {answers : DiskAnswers} {command : DiskCommitMsg}
    {rest : List DiskCommitMsg} (queue : session.receiver.commands = command :: rest) (ndx : Ndx) :
    let committed := session.receiver.committer.dispatch config.receiver.session answers command
    ∃ base : Account,
      session.account ndx = { base with
        late := base.late + (marks ndx command).toNat
        committing := base.committing + (commits ndx command).toNat
        opens := base.opens + (begins ndx command).toNat + writes ndx session.receiver.committer.key } ∧
      (session.reply (session.receiver.commitNext config.receiver.session answers command rest,
          [])).account ndx = { base with
        late := base.late + committed.acks.countP (mismatchesOn ndx)
        opens := base.opens + writes ndx committed.state.key
        reports := base.reports + committed.acks.countP (reportsOn ndx) } := by
  refine ⟨{ ({ session with receiver := { session.receiver with commands := rest } } :
      RemoteSession).account ndx with opens := rest.countP (begins ndx) }, ?_, ?_⟩
  · simp only [account, queue, List.countP_cons]
    cases marks ndx command <;> cases commits ndx command <;> cases begins ndx command <;> simp <;> omega
  · simp only [account, reply, Receiver.commitNext, List.countP_append, List.filter_nil,
      List.filterMap_nil, List.append_nil, Account.mk.injEq, true_and, and_true]
    omega

theorem writes_some (ndx : Ndx) (key : TransferKey) :
    writes ndx (some key) = (decide (key.ndx = ndx)).toNat := by
  by_cases own : key.ndx = ndx <;> simp [writes, own]

@[simp] theorem writes_none (ndx : Ndx) : writes ndx none = 0 := rfl

theorem moves_commit {session next : RemoteSession} {answers : DiskAnswers} (orderly : session.Orderly)
    (ndx : Ndx) (stepped : session.receiverStep config (.commit answers) = some next) :
    (session.account ndx).Moves (Loses session ndx (.commit answers)) (next.account ndx) := by
  obtain ⟨command, rest, queue, next_eq⟩ := commit_eq stepped
  have disposal := @FileCommitState.dispatch_disposes config.receiver.session answers
    session.receiver.committer orderly.settled command
  obtain ⟨base, before, after⟩ := @account_commit config session answers command rest queue ndx
  have lost {key : TransferKey} (committing : commitsTransfer command = some key) (own : key.ndx = ndx)
      (other : session.receiver.committer.key ≠ some key) :
      0 < base.reports ∨ base.terminated = true ∨ Loses session ndx (.commit answers) := by
    by_cases reported : 0 < base.reports
    · exact .inl reported
    · cases dead : base.terminated with
      | true => exact .inr (.inl rfl)
      | false =>
          refine .inr (.inr (.ignored queue committing own other ?_ ?_))
          · rw [before]
            exact Nat.eq_zero_of_not_pos reported
          · rw [before]
            exact dead
  rw [next_eq, after, before]
  generalize session.receiver.committer.dispatch config.receiver.session answers command = committed
    at disposal ⊢
  obtain ⟨state, acks, mutations⟩ := committed
  simp only at disposal ⊢
  generalize state.key = newKey at disposal ⊢
  obtain ⟨requested, late, answering, committing, opens, reports, payloads, dead, held⟩ := base
  cases disposal with
  | @opened key opening free =>
      obtain ⟨begun, notCommit, notMark⟩ := opens_counts opening ndx
      simp [free, begun, notCommit, notMark, writes_some]
      exact .stay
  | @openFailed key opening free reason =>
      obtain ⟨begun, notCommit, notMark⟩ := opens_counts opening ndx
      by_cases own : key.ndx = ndx <;>
        simp [free, begun, notCommit, notMark, own, mismatchesOn, reportsOn, isMismatch]
      · exact .break_ rfl
      · exact .stay
  | @rejected key opening busy =>
      obtain ⟨begun, notCommit, notMark⟩ := opens_counts opening ndx
      by_cases own : key.ndx = ndx <;> simp [begun, notCommit, notMark, own]
      · exact .close (Nat.add_right_comm _ _ _)
      · exact .stay
  | @committed key committing active outcome =>
      obtain ⟨committed, notOpen, notMark⟩ := commits_counts committing ndx
      by_cases own : key.ndx = ndx
      · cases mismatch : isMismatch outcome with
        | true =>
            simp [active, committed, notOpen, notMark, own, writes_some, mismatchesOn, reportsOn, mismatch]
            exact .mismatch rfl rfl
        | false =>
            simp [active, committed, notOpen, notMark, own, writes_some, mismatchesOn, reportsOn, mismatch]
            exact .finish rfl rfl
      · simp [active, committed, notOpen, notMark, own, writes_some, mismatchesOn, reportsOn]
        exact .stay
  | @ignored key committing other =>
      obtain ⟨committed, notOpen, notMark⟩ := commits_counts committing ndx
      by_cases own : key.ndx = ndx
      · simp [committed, notOpen, notMark, own]
        exact .skip rfl (lost committing own other)
      · simp [committed, notOpen, notMark, own]
        exact .stay
  | continued data =>
      obtain ⟨notMark, notCommit, notOpen⟩ := silent_counts (.inl data) ndx
      simp [notMark, notCommit, notOpen]
      exact .stay
  | @broken key data active reason =>
      obtain ⟨notMark, notCommit, notOpen⟩ := silent_counts (.inl data) ndx
      by_cases own : key.ndx = ndx <;>
        simp [active, notMark, notCommit, notOpen, own, writes_some, mismatchesOn, reportsOn, isMismatch]
      · exact .break_ rfl
      · exact .stay
  | aborted abort =>
      obtain ⟨notMark, notCommit, notOpen⟩ := silent_counts (.inr (.inl abort)) ndx
      cases active : session.receiver.committer.key with
      | none =>
          simp [notMark, notCommit, notOpen]
          exact .stay
      | some key =>
          by_cases own : key.ndx = ndx <;> simp [notMark, notCommit, notOpen, own, writes_some]
          · exact .close rfl
          · exact .stay
  | @marked owner entry marker outcome terminal =>
      subst marker
      by_cases own : owner = ndx <;>
        simp [marks, commits, begins, opensTransfer, commitsTransfer, mismatchesOn, reportsOn, terminal, own]
      · exact .mark rfl
      · exact .stay
  | created entry =>
      obtain ⟨notMark, notCommit, notOpen⟩ := silent_counts (.inr (.inr entry)) ndx
      simp [notMark, notCommit, notOpen, mismatchesOn, reportsOn]
      exact .stay

/-! ### Steps of the sender -/

/-- What `serve` does. -/
theorem serve_eq {session next : RemoteSession} {stream : StreamKind} {answers : SourceAnswers}
    (stepped : session.serve config stream answers = some next) :
    session.sender.script = [] ∧ ∃ message requests acks,
      (session.requests = message :: requests ∧ session.acks = acks ∨
        session.requests = requests ∧ session.acks = message :: acks) ∧
      next = { session with
        requests, acks, sender := session.sender.serve config.sender answers message } := by
  simp only [serve] at stepped
  split at stepped
  · cases stepped
  · next ready =>
      rw [not_or, ne_eq, not_not] at ready
      refine ⟨ready.1, ?_⟩
      split at stepped
      · next message requests queue =>
          simp only [Option.some.injEq] at stepped
          exact ⟨message, requests, session.acks, .inl ⟨queue, rfl⟩, stepped.symm⟩
      · next message acks queue =>
          simp only [Option.some.injEq] at stepped
          exact ⟨message, session.requests, acks, .inr ⟨rfl, queue⟩, stepped.symm⟩
      · cases stepped

/-- The accounts before and after a message is served differ by the message and the script. -/
theorem account_serve {session : RemoteSession} {sender : RemoteSenderSession} {message : ReceiverMsg}
    {requests acks : List ReceiverMsg} (idle : session.sender.script = [])
    (queues : session.requests = message :: requests ∧ session.acks = acks ∨
      session.requests = requests ∧ session.acks = message :: acks) (ndx : Ndx)
    {payloads closed settled : Nat} (script : Contents ndx sender.script payloads closed settled) :
    ∃ base : Account,
      session.account ndx = { base with late := base.late + (asks ndx message).toNat } ∧
      ({ session with requests, acks, sender } : RemoteSession).account ndx = { base with
        late := base.late + settled
        answering := base.answering + closed
        payloads := base.payloads + payloads } := by
  refine ⟨({ session with requests, acks } : RemoteSession).account ndx, ?_, ?_⟩
  · rcases queues with ⟨first, second⟩ | ⟨first, second⟩ <;>
      simp only [account, first, second, idle, List.countP_cons, List.countP_nil] <;>
      cases asks ndx message <;> simp <;> omega
  · simp only [account, idle, script.carried, script.closed, script.settled, List.countP_nil,
      Account.mk.injEq, true_and, and_true]
    omega

theorem moves_serve {session next : RemoteSession} {stream : StreamKind} {answers : SourceAnswers}
    (ndx : Ndx) (stepped : session.serve config stream answers = some next) :
    (session.account ndx).Moves (Loses session ndx (.serve stream answers)) (next.account ndx) := by
  obtain ⟨idle, message, requests, acks, queues, rfl⟩ := serve_eq stepped
  have serves := RemoteSenderSession.serve_serves config.sender answers idle message
  generalize session.sender.serve config.sender answers message = sender at serves ⊢
  generalize scripted : sender.script = script at serves
  have silent {payloads : Nat} (unasked : asks ndx message = false)
      (contents : Contents ndx script payloads 0 0) (empty : payloads = 0) :
      (session.account ndx).Moves (Loses session ndx (.serve stream answers))
        (({ session with requests, acks, sender } : RemoteSession).account ndx) := by
    subst empty scripted
    obtain ⟨base, before, after⟩ := account_serve idle queues ndx contents
    rw [before, after, unasked]
    exact .stay
  have lost (asked : asks ndx message = true) (contents : Contents ndx script 0 0 0)
      (excuse : 0 < (session.account ndx).late → Loses session ndx (.serve stream answers)) :
      (session.account ndx).Moves (Loses session ndx (.serve stream answers))
        (({ session with requests, acks, sender } : RemoteSession).account ndx) := by
    subst scripted
    obtain ⟨base, before, after⟩ := account_serve idle queues ndx contents
    have waiting : 0 < (session.account ndx).late := by
      rw [before, asked]
      exact Nat.succ_pos _
    have excused := excuse waiting
    rw [before, after, asked]
    exact .lose rfl excused
  cases serves with
  | @answered tag item messages asked known answered =>
      by_cases own : tag = ndx
      · subst own
        rcases (answered.contents tag).2 rfl with ⟨payloads, contents⟩ | contents
        · rw [← scripted] at contents
          obtain ⟨base, before, after⟩ := account_serve idle queues tag contents
          rw [before, after, asked]
          exact .answer payloads rfl
        · rw [← scripted] at contents
          obtain ⟨base, before, after⟩ := account_serve idle queues tag contents
          rw [before, after, asked]
          exact .stay
      · exact silent (by rw [asks_eq asked, decide_eq_false own]) ((answered.contents ndx).1 own) rfl
  | @directory tag item messages asked known plain neutral =>
      by_cases own : tag = ndx
      · subst own
        exact lost asked (contents_neutral tag tag neutral) fun waiting => .directory waiting known plain
      · exact silent (by rw [asks_eq asked, decide_eq_false own]) (contents_neutral ndx tag neutral) rfl
  | @unanswered tag asked unknown =>
      by_cases own : tag = ndx
      · subst own
        exact lost asked ⟨rfl, rfl, rfl⟩ fun waiting => .unanswered waiting unknown
      · exact silent (by rw [asks_eq asked, decide_eq_false own]) ⟨rfl, rfl, rfl⟩ rfl
  | concluded unasked finished => exact silent (unasked ndx) ⟨rfl, rfl, rfl⟩ rfl
  | noted unasked => exact silent (unasked ndx) ⟨rfl, rfl, rfl⟩ rfl

/-- What a message costs the window of its sender. -/
inductive Spends (credit : SenderCreditLedger) (message : SenderMsg) : SenderCreditLedger → Prop where
  | free (uncharged : creditCost message = none) : Spends credit message credit
  | charged {cost : Nat} {left : SenderCreditLedger} (charge : creditCost message = some cost)
      (acquired : credit.acquire cost = .acquired left) : Spends credit message left

/-- What `send` does. -/
theorem send_eq {session next : RemoteSession} (stepped : session.send = some next) :
    (∃ failure, next = { session with sender := session.sender.fail failure }) ∨
      ∃ outgoing script credit, session.sender.script = outgoing :: script ∧
        Spends session.sender.credit outgoing.message credit ∧
        next = ({ session with sender := { session.sender with script, credit } } : RemoteSession).post
          outgoing := by
  simp only [send, Option.map_eq_some_iff] at stepped
  obtain ⟨⟨sender, sent⟩, sending, rfl⟩ := stepped
  simp only [RemoteSenderSession.send] at sending
  split at sending
  · cases sending
  · cases sending
  · next outgoing script queue alive =>
      split at sending
      · next uncharged =>
          cases sending
          exact .inr ⟨outgoing, script, _, queue, .free uncharged, rfl⟩
      · next cost charge =>
          split at sending
          · next credit acquired =>
              cases sending
              exact .inr ⟨outgoing, script, credit, queue, .charged charge acquired, rfl⟩
          · cases sending
          · next error _ =>
              cases sending
              exact .inl ⟨.transport error, rfl⟩

/-- The head of the script has the same share as the message on its stream. -/
theorem account_script {session : RemoteSession} {outgoing : Outgoing} {script : List Outgoing}
    (credit : SenderCreditLedger) (queue : session.sender.script = outgoing :: script) (ndx : Ndx) :
    session.account ndx = withMessage
      (({ session with sender := { session.sender with script, credit } } : RemoteSession).account ndx)
      ndx outgoing := by
  simp only [account, withMessage, queue, List.countP_cons]
  cases closes ndx outgoing <;> cases settlesDirectly ndx outgoing <;> cases carries ndx outgoing <;>
    simp <;> omega

theorem moves_send {mayLose : Prop} {session next : RemoteSession} (ndx : Ndx)
    (stepped : session.send = some next) : (session.account ndx).Moves mayLose (next.account ndx) := by
  rcases send_eq stepped with ⟨failure, rfl⟩ | ⟨outgoing, script, credit, queue, -, rfl⟩
  · exact .stay
  · rw [account_post, ← account_script credit queue]
    exact .stay

/-- What `advertise` does: the next event of the inventory, or the end of the list. -/
theorem advertise_eq {session next : RemoteSession} (stepped : session.advertise = some next) :
    (∃ page inventory, session.sender.inventory = .page page :: inventory ∧
      next = ({ session with sender := { session.sender with
        inventory, ndxTable := session.sender.ndxTable.ingestPage page } } : RemoteSession).post
          ⟨none, .filePage page⟩) ∨
      ∃ inventory advertised message, inventory.Sublist session.sender.inventory ∧
        senderStreamKind message = .fileList ∧ pageOf message = none ∧
        next = ({ session with sender := { session.sender with inventory, advertised } } :
          RemoteSession).post ⟨none, message⟩ := by
  simp only [advertise, Option.map_eq_some_iff] at stepped
  obtain ⟨⟨sender, message⟩, advertising, rfl⟩ := stepped
  simp only [RemoteSenderSession.advertise] at advertising
  split at advertising
  · cases advertising
  · split at advertising
    · next page inventory queue =>
        cases advertising
        exact .inl ⟨page, inventory, queue, rfl⟩
    · next path reason inventory queue =>
        cases advertising
        refine .inr ⟨inventory, session.sender.advertised, _, ?_, rfl, rfl, rfl⟩
        rw [queue]
        exact List.sublist_cons_self _ _
    · cases advertising
      exact .inr ⟨[], true, _, List.nil_sublist _, rfl, rfl, rfl⟩
    · cases advertising
      exact .inr ⟨[], true, _, List.nil_sublist _, rfl, rfl, rfl⟩

theorem moves_advertise {mayLose : Prop} {session next : RemoteSession} (ndx : Ndx)
    (stepped : session.advertise = some next) :
    (session.account ndx).Moves mayLose (next.account ndx) := by
  have unchanged (sender : RemoteSenderSession) (script : sender.script = session.sender.script)
      (message : SenderMsg) (kind : senderStreamKind message = .fileList) :
      (session.account ndx).Moves mayLose
        ((({ session with sender } : RemoteSession).post ⟨none, message⟩).account ndx) := by
    obtain ⟨payload, closing, settles⟩ :=
      fileList_foreign (show senderStreamKind (⟨none, message⟩ : Outgoing).message = .fileList from kind) ndx
    rw [account_post, withMessage_foreign payload closing settles]
    simp only [account, script]
    exact .stay
  rcases advertise_eq stepped with ⟨page, inventory, queue, rfl⟩ | ⟨inventory, done, message, -, kind, -, rfl⟩
  · exact unchanged { session.sender with
      inventory, ndxTable := session.sender.ndxTable.ingestPage page } rfl (.filePage page) rfl
  · exact unchanged { session.sender with inventory, advertised := done } rfl message kind

theorem applyGrant_eq {session next : RemoteSession} (stepped : session.applyGrant = some next) :
    ∃ bytes grants, session.grants = bytes :: grants ∧ next = { session with
      grants, sender := { session.sender with credit := (session.sender.credit.grant bytes).1 } } := by
  simp only [applyGrant] at stepped
  split at stepped
  · cases stepped
  · next bytes grants queue =>
      simp only [Option.some.injEq] at stepped
      exact ⟨bytes, grants, queue, stepped.symm⟩

/-! ### All steps -/

/-- The next page is new to the receiver, and names every item once. -/
def FreshPages (session : RemoteSession) : Prop :=
  ∀ stream outgoing taken page, session.take stream = some (outgoing, taken) →
    outgoing.message = .filePage page → (requestable page).Nodup ∧
      ∀ ndx ∈ requestable page, ndx ∉ session.requested

theorem disconnect_stops {session next : RemoteSession}
    (stepped : session.receiverStep config .disconnect = some next) : ¬ GoesOn next.receiver.stop := by
  simp only [receiverStep, Receiver.step] at stepped
  split at stepped
  · cases stepped
    rintro (goesOn | goesOn) <;> cases goesOn
  · cases stepped

theorem drain_stopped {session next : RemoteSession}
    (stepped : session.receiverStep config .drain = some next) : session.receiver.stop ≠ none := by
  intro running
  simp [receiverStep, Receiver.step, running] at stepped

theorem step_moves {session next : RemoteSession} {action : RemoteAction} (orderly : session.Orderly)
    (fresh : session.FreshPages) (running : session.receiver.stop = none)
    (stepped : session.step config action = some next) (goesOn : GoesOn next.receiver.stop) (ndx : Ndx) :
    (session.account ndx).Moves (Loses session ndx action) (next.account ndx) := by
  cases action with
  | advertise => exact moves_advertise ndx stepped
  | serve stream answers => exact moves_serve ndx stepped
  | send => exact moves_send ndx stepped
  | applyGrant =>
      obtain ⟨bytes, grants, -, rfl⟩ := applyGrant_eq stepped
      exact .stay
  | receive stream answers => exact moves_receive orderly (fresh stream) stepped goesOn ndx
  | disconnect => exact absurd goesOn (disconnect_stops stepped)
  | acknowledge => exact moves_acknowledge orderly ndx stepped
  | commit answers => exact moves_commit orderly ndx stepped
  | drain => exact absurd running (drain_stopped stepped)

end RemoteSession

end Terrasync.App
