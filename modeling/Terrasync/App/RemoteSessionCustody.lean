import Terrasync.App.RemoteSenderAnswers
import Terrasync.App.TransferAccount

/-! Custody of the requests of a session: the account of every index, and the share that
single messages and commands have in it. -/

set_option autoImplicit false

namespace Terrasync.App

open Transport

/-! ### Tokens -/

def begins (ndx : Ndx) (command : DiskCommitMsg) : Bool :=
  (opensTransfer command).map TransferKey.ndx = some ndx

def commits (ndx : Ndx) (command : DiskCommitMsg) : Bool :=
  (commitsTransfer command).map TransferKey.ndx = some ndx

def marks (ndx : Ndx) : DiskCommitMsg → Bool
  | .writeDeleteMarker marked _ => marked = ndx
  | _ => false

def reportsOn (ndx : Ndx) : DcAck → Bool
  | .fileOutcome reported outcome => reported = ndx && !isMismatch outcome
  | .entry _ => false

def mismatchesOn (ndx : Ndx) : DcAck → Bool
  | .fileOutcome reported outcome => reported = ndx && isMismatch outcome
  | .entry _ => false

/-- Whether the transfer of the disk-commit task is one of the index. -/
def writes (ndx : Ndx) (active : Option TransferKey) : Nat :=
  if active.map TransferKey.ndx = some ndx then 1 else 0

namespace RemoteSession

def account (session : RemoteSession) (ndx : Ndx) : Account where
  requested := ndx ∈ session.requested
  late := session.requests.countP (asks ndx) + session.acks.countP (asks ndx) +
    session.sender.script.countP (settlesDirectly ndx) + session.data.countP (settlesDirectly ndx) +
    session.receiver.commands.countP (marks ndx) + session.receiver.outcomes.countP (mismatchesOn ndx) +
    session.linked.count ndx
  answering := session.sender.script.countP (closes ndx) + session.control.countP (closes ndx) +
    session.data.countP (closes ndx)
  committing := session.receiver.commands.countP (commits ndx)
  opens := session.receiver.commands.countP (begins ndx) + writes ndx session.receiver.committer.key
  reports := session.receiver.outcomes.countP (reportsOn ndx)
  payloads := session.sender.script.countP (carries ndx) + session.data.countP (carries ndx)
  terminated := ndx ∈ session.receiver.session.ledger.terminatedNdx
  held := session.receiver.session.activeTransfer.ndx = some ndx

end RemoteSession

namespace RemoteSession

open RemoteSessionState (requestable)

/-! ### Streams -/

/-- A message the sender may put on a stream. -/
def Indexed (outgoing : Outgoing) : Prop :=
  ∀ path reason, outgoing.message ≠ .entryError path reason none

/-- Only advertisements travel on the file-list stream, and only answers on the others;
no answer continues after its closing message. `messages` are those of the data stream,
followed by the script of the sender. -/
structure Streaming (controls listing messages : List Outgoing) : Prop where
  control : ∀ outgoing ∈ controls, senderStreamKind outgoing.message = .control
  fileList : ∀ outgoing ∈ listing, senderStreamKind outgoing.message = .fileList
  indexed : ∀ outgoing ∈ controls ++ messages, Indexed outgoing
  pageless : ∀ outgoing ∈ controls ++ messages, pageOf outgoing.message = none
  tagged : ∀ outgoing ∈ messages, isLink outgoing.message = true → outgoing.ndx ≠ none
  ordered : messages.Pairwise fun early late => ∀ ndx, closes ndx early = true → carries ndx late = false

/-- A command the loop sends to the disk-commit task. -/
def Issued (command : DiskCommitMsg) : Prop :=
  opensTransfer command ≠ none ∨ commitsTransfer command ≠ none ∨ carriesData command = true ∨
    endsTransfer command = true ∨ ∃ ndx item, command = .writeDeleteMarker ndx item

structure Queued (receiver : Receiver) : Prop where
  commands : ∀ command ∈ receiver.commands, Issued command
  outcomes : ∀ ack ∈ receiver.outcomes, ∃ ndx outcome, ack = .fileOutcome ndx outcome
  settled : receiver.committer ≠ .committing

structure Orderly (session : RemoteSession) : Prop extends
  Streaming session.control session.fileList (session.data ++ session.sender.script),
  Queued session.receiver

/-- An account without the message a stream delivers. -/
def withMessage (account : Account) (ndx : Ndx) (outgoing : Outgoing) : Account :=
  { account with
    late := account.late + (settlesDirectly ndx outgoing).toNat
    answering := account.answering + (closes ndx outgoing).toNat
    payloads := account.payloads + (carries ndx outgoing).toNat }

theorem withMessage_foreign {account : Account} {ndx : Ndx} {outgoing : Outgoing}
    (payload : carries ndx outgoing = false) (closing : closes ndx outgoing = false)
    (settles : settlesDirectly ndx outgoing = false) : withMessage account ndx outgoing = account := by
  simp [withMessage, payload, closing, settles]

/-- Messages outside the data and control streams have no share. -/
theorem fileList_foreign {outgoing : Outgoing} (kind : senderStreamKind outgoing.message = .fileList)
    (ndx : Ndx) : carries ndx outgoing = false ∧ closes ndx outgoing = false ∧
      settlesDirectly ndx outgoing = false := by
  obtain ⟨tag, message⟩ := outgoing
  cases message <;> simp [senderStreamKind] at kind <;>
    simp [carries, closes, settlesDirectly, payloadNdx, closingNdx, markerNdx, isLink]

theorem control_foreign {outgoing : Outgoing} (kind : senderStreamKind outgoing.message = .control)
    (ndx : Ndx) : carries ndx outgoing = false ∧ settlesDirectly ndx outgoing = false := by
  obtain ⟨tag, message⟩ := outgoing
  cases message <;> simp [senderStreamKind] at kind <;>
    simp [carries, settlesDirectly, payloadNdx, markerNdx, isLink]

theorem account_post (session : RemoteSession) (outgoing : Outgoing) (ndx : Ndx) :
    (session.post outgoing).account ndx = withMessage (session.account ndx) ndx outgoing := by
  simp only [post]
  split
  · next kind =>
      obtain ⟨payload, settles⟩ := control_foreign kind ndx
      simp only [account, withMessage, payload, settles, List.countP_append, List.countP_singleton,
        Bool.toNat_false, Nat.add_zero, Account.mk.injEq, true_and, and_true]
      cases closes ndx outgoing with
      | false => simp
      | true =>
          simp only [if_true, Bool.toNat_true]
          omega
  · next kind =>
      obtain ⟨payload, closing, settles⟩ := fileList_foreign kind ndx
      rw [withMessage_foreign payload closing settles]
      rfl
  · next kind =>
      simp only [account, withMessage, List.countP_append, List.countP_singleton, Account.mk.injEq,
        true_and, and_true]
      cases closes ndx outgoing <;> cases settlesDirectly ndx outgoing <;> cases carries ndx outgoing <;>
        simp <;> omega
  · next kind =>
      obtain ⟨tag, message⟩ := outgoing
      cases message <;> cases kind

theorem account_take {session taken : RemoteSession} {stream : StreamKind} {outgoing : Outgoing}
    (orderly : session.Orderly) (took : session.take stream = some (outgoing, taken)) (ndx : Ndx) :
    session.account ndx = withMessage (taken.account ndx) ndx outgoing := by
  cases stream with
  | control =>
      cases queue : session.control with
      | nil => simp [take, queue] at took
      | cons first rest =>
          simp only [take, queue, Option.some.injEq, Prod.mk.injEq] at took
          obtain ⟨rfl, rfl⟩ := took
          obtain ⟨payload, settles⟩ :=
            control_foreign (orderly.control first (by rw [queue]; exact List.mem_cons_self)) ndx
          simp only [account, withMessage, queue, payload, settles, List.countP_cons, Bool.toNat_false,
            Nat.add_zero]
          cases closes ndx first with
          | false => simp
          | true =>
              simp only [if_true, Bool.toNat_true, Account.mk.injEq, true_and, and_true]
              omega
  | fileList =>
      cases queue : session.fileList with
      | nil => simp [take, queue] at took
      | cons first rest =>
          simp only [take, queue, Option.some.injEq, Prod.mk.injEq] at took
          obtain ⟨rfl, rfl⟩ := took
          obtain ⟨payload, closing, settles⟩ :=
            fileList_foreign (orderly.fileList first (by rw [queue]; exact List.mem_cons_self)) ndx
          rw [withMessage_foreign payload closing settles]
          rfl
  | data =>
      cases queue : session.data with
      | nil => simp [take, queue] at took
      | cons first rest =>
          simp only [take, queue, Option.some.injEq, Prod.mk.injEq] at took
          obtain ⟨rfl, rfl⟩ := took
          simp only [account, withMessage, queue, List.countP_cons]
          cases closes ndx first <;> cases settlesDirectly ndx first <;> cases carries ndx first <;>
            simp <;> omega
  | ackProgress => cases took

/-- What a message leaves of itself in an account, and what the receiver makes of it. -/
def withReaction (account : Account) (ndx : Ndx) (outgoing : Outgoing) (requests : List Ndx)
    (slot : ActiveTransfer) (terminated : List Ndx) (issued : List DiskCommitMsg) : Account :=
  { account with
    requested := account.requested || decide (ndx ∈ requests)
    late := account.late + requests.count ndx + issued.countP (marks ndx) +
      (decide (linkNdx outgoing = some ndx)).toNat
    committing := account.committing + issued.countP (commits ndx)
    opens := account.opens + issued.countP (begins ndx)
    terminated := ndx ∈ terminated
    held := slot.ndx = some ndx }

theorem carriesData_foreign (ndx : Ndx) {commands : List DiskCommitMsg}
    (data : ∀ command ∈ commands, carriesData command = true) :
    commands.countP (marks ndx) = 0 ∧ commands.countP (commits ndx) = 0 ∧
      commands.countP (begins ndx) = 0 := by
  refine ⟨List.countP_eq_zero.mpr ?_, List.countP_eq_zero.mpr ?_, List.countP_eq_zero.mpr ?_⟩ <;>
    intro command member <;> have carried := data command member <;>
    cases command <;> simp [carriesData] at carried <;>
    simp [marks, commits, begins, commitsTransfer, opensTransfer]

theorem opens_counts {command : DiskCommitMsg} {key : TransferKey} (opens : opensTransfer command = some key)
    (ndx : Ndx) :
    begins ndx command = decide (key.ndx = ndx) ∧ commits ndx command = false ∧ marks ndx command = false := by
  cases command <;> simp [opensTransfer] at opens <;> subst opens <;>
    simp [begins, commits, marks, opensTransfer, commitsTransfer]

theorem commits_counts {command : DiskCommitMsg} {key : TransferKey}
    (closing : commitsTransfer command = some key) (ndx : Ndx) :
    commits ndx command = decide (key.ndx = ndx) ∧ begins ndx command = false ∧ marks ndx command = false := by
  cases command <;> simp [commitsTransfer] at closing <;> subst closing <;>
    simp [begins, commits, marks, opensTransfer, commitsTransfer]

/-- Commands with no share in any account. -/
theorem silent_counts {command : DiskCommitMsg} (silent : carriesData command = true ∨
      endsTransfer command = true ∨ (∃ entry, command = .createDir entry) ∨
        ∃ entry target, command = .createSymlink entry target) (ndx : Ndx) :
    marks ndx command = false ∧ commits ndx command = false ∧ begins ndx command = false := by
  have quiet : opensTransfer command = none ∧ commitsTransfer command = none ∧
      marks ndx command = false := by
    cases command <;> first | exact ⟨rfl, rfl, rfl⟩ | simp [carriesData, endsTransfer] at silent
  obtain ⟨opens, committed, unmarked⟩ := quiet
  exact ⟨unmarked, by simp [commits, committed], by simp [begins, opens]⟩

theorem mem_recordTerminal (ledger : TransferLedger) (terminal ndx : Ndx) :
    ndx ∈ (ledger.recordTerminal terminal).1.terminatedNdx ↔ ndx = terminal ∨ ndx ∈ ledger.terminatedNdx := by
  simp only [TransferLedger.recordTerminal]
  split
  · next known => exact ⟨.inr, fun either => either.elim (fun same => same ▸ known) id⟩
  · exact List.mem_cons

theorem withMessage_payload (account : Account) (ndx : Ndx) {outgoing : Outgoing} {owner : Ndx}
    (payload : payloadNdx outgoing.message = some owner) :
    withMessage account ndx outgoing =
      { account with payloads := account.payloads + (decide (owner = ndx)).toNat } ∧
    linkNdx outgoing = none := by
  obtain ⟨closing, marker, link, -⟩ := payload_only payload
  have unlinked := linkNdx_none link
  exact ⟨by simp [withMessage, closes, carries, settlesDirectly, payload, closing, marker, unlinked], unlinked⟩

theorem withMessage_closing (account : Account) (ndx : Ndx) {outgoing : Outgoing} {owner : Ndx}
    (closing : closingNdx outgoing.message = some owner) :
    withMessage account ndx outgoing =
      { account with answering := account.answering + (decide (owner = ndx)).toNat } ∧
    linkNdx outgoing = none := by
  obtain ⟨payload, marker, link, -⟩ := closing_only closing
  have unlinked := linkNdx_none link
  exact ⟨by simp [withMessage, closes, carries, settlesDirectly, payload, closing, marker, unlinked], unlinked⟩

theorem withMessage_marker (account : Account) (ndx : Ndx) {outgoing : Outgoing} {owner : Ndx}
    (marker : outgoing.message = .writeDeleteMarker owner) :
    withMessage account ndx outgoing =
      { account with late := account.late + (decide (owner = ndx)).toNat } ∧
    linkNdx outgoing = none := by
  have unlinked : linkNdx outgoing = none := linkNdx_none (by rw [marker]; rfl)
  exact ⟨by simp [withMessage, closes, carries, settlesDirectly, marker, payloadNdx, closingNdx, markerNdx,
    unlinked], unlinked⟩

/-- The move of a message that is not a page, given the share of its index. -/
theorem moves_reaction {mayLose : Prop} {session : RemoteSessionState} {base : Account} {ndx : Ndx}
    {outgoing : Outgoing} {slot : ActiveTransfer} {terminated : List Ndx} {issued : List DiskCommitMsg}
    (reaction : session.Reaction outgoing.message slot terminated issued)
    (wasTerminated : base.terminated = decide (ndx ∈ session.ledger.terminatedNdx))
    (wasHeld : base.held = decide (session.activeTransfer.ndx = some ndx))
    (drained : ∀ sourceHash, outgoing.message = .endOfFile ndx sourceHash → base.payloads = 0)
    (unknown : closes ndx outgoing = true ∨ markerNdx outgoing.message = some ndx →
      session.indexedEntry ndx = none → mayLose)
    (blocked : ∀ sourceHash other, outgoing.message = .endOfFile ndx sourceHash → other ≠ ndx →
      session.activeTransfer.ndx = some other → ¬ session.Terminated ndx → mayLose) :
    (withMessage base ndx outgoing).Moves mayLose
      (withReaction base ndx outgoing [] slot terminated issued) := by
  obtain ⟨requested, late, answering, committing, opens, reports, payloads, dead, held⟩ := base
  simp only at wasTerminated wasHeld drained
  subst wasTerminated wasHeld
  cases reaction with
  | kept closing marker data =>
      obtain ⟨unmarked, uncommitted, unopened⟩ := carriesData_foreign ndx data
      have link : settlesDirectly ndx outgoing = decide (linkNdx outgoing = some ndx) := by
        simp [settlesDirectly, marker]
      have open_ : closes ndx outgoing = false := by simp [closes, closing]
      cases carried : carries ndx outgoing with
      | false =>
          simp only [withMessage, withReaction, carried, open_, link, unmarked, uncommitted, unopened,
            List.count_nil, List.not_mem_nil, decide_false, Bool.or_false, Bool.toNat_false, Nat.add_zero]
          exact .stay
      | true =>
          simp only [withMessage, withReaction, carried, open_, link, unmarked, uncommitted, unopened,
            List.count_nil, List.not_mem_nil, decide_false, Bool.or_false, Bool.toNat_false, Nat.add_zero]
          exact .consume rfl
  | @opened item key first commands payload live idle indexed path opening data =>
      obtain ⟨share, unlinked⟩ := withMessage_payload ⟨requested, late, answering, committing, opens,
        reports, payloads, _, _⟩ ndx payload
      obtain ⟨unmarked, uncommitted, unopened⟩ := carriesData_foreign ndx data
      obtain ⟨begun, notCommit, notMark⟩ := opens_counts opening ndx
      rw [share]
      by_cases own : key.ndx = ndx
      · subst own
        have notDead : decide (key.ndx ∈ session.ledger.terminatedNdx) = false := decide_eq_false live
        simp [withReaction, unlinked, begun, notCommit, notMark, unmarked, uncommitted, unopened, idle,
          notDead]
        exact .opened rfl rfl rfl
      · simp [withReaction, unlinked, begun, notCommit, notMark, unmarked, uncommitted, unopened, idle, own]
        exact .stay
  | @committed item key commit sourceHash closing live active indexed path commits =>
      obtain ⟨share, unlinked⟩ := withMessage_closing ⟨requested, late, answering, committing, opens,
        reports, payloads, _, _⟩ ndx (show closingNdx outgoing.message = some key.ndx by rw [closing]; rfl)
      obtain ⟨committed, notOpen, notMark⟩ := commits_counts commits ndx
      rw [share]
      by_cases own : key.ndx = ndx
      · subst own
        have notDead : decide (key.ndx ∈ session.ledger.terminatedNdx) = false := decide_eq_false live
        have empty := drained sourceHash closing
        simp [withReaction, unlinked, committed, notOpen, notMark, active, notDead]
        exact .commit rfl empty rfl rfl
      · simp [withReaction, unlinked, committed, notOpen, notMark, active, own]
        exact .stay
  | @reopened item key first commit sourceHash closing live idle indexed path opening commits =>
      obtain ⟨share, unlinked⟩ := withMessage_closing ⟨requested, late, answering, committing, opens,
        reports, payloads, _, _⟩ ndx (show closingNdx outgoing.message = some key.ndx by rw [closing]; rfl)
      obtain ⟨committed, notOpen, notMark⟩ := commits_counts commits ndx
      obtain ⟨begun, notCommit, alsoNotMark⟩ := opens_counts opening ndx
      rw [share]
      by_cases own : key.ndx = ndx
      · subst own
        have notDead : decide (key.ndx ∈ session.ledger.terminatedNdx) = false := decide_eq_false live
        have empty := drained sourceHash closing
        simp [withReaction, unlinked, committed, notOpen, notMark, begun, notCommit, alsoNotMark, idle,
          notDead]
        exact .reopen rfl empty rfl rfl
      · simp [withReaction, unlinked, committed, notOpen, notMark, begun, notCommit, alsoNotMark, idle, own]
        exact .stay
  | @dropped other sourceHash closing excuse =>
      obtain ⟨share, unlinked⟩ := withMessage_closing ⟨requested, late, answering, committing, opens,
        reports, payloads, _, _⟩ ndx (show closingNdx outgoing.message = some other by rw [closing]; rfl)
      rw [share]
      by_cases own : other = ndx
      · subst own
        have empty := drained sourceHash closing
        simp [withReaction, unlinked]
        refine .drop rfl empty ?_
        by_cases dead : session.Terminated other
        · exact .inl (decide_eq_true dead)
        · rcases excuse with terminated | missing | ⟨holder, different, active⟩
          · exact absurd terminated dead
          · exact .inr (unknown (.inl (by simp [closes, closing, closingNdx])) missing)
          · exact .inr (blocked sourceHash holder closing different active dead)
      · simp [withReaction, unlinked, own]
        exact .stay
  | @marked other item marker indexed =>
      obtain ⟨share, unlinked⟩ := withMessage_marker ⟨requested, late, answering, committing, opens,
        reports, payloads, _, _⟩ ndx marker
      rw [share]
      by_cases own : other = ndx <;>
        simp [withReaction, unlinked, marks, commits, begins, opensTransfer, commitsTransfer, own] <;>
        exact .stay
  | @unmarked other marker missing =>
      obtain ⟨share, unlinked⟩ := withMessage_marker ⟨requested, late, answering, committing, opens,
        reports, payloads, _, _⟩ ndx marker
      rw [share]
      by_cases own : other = ndx
      · subst own
        simp [withReaction, unlinked]
        exact .lose rfl (unknown (.inr (by rw [marker]; rfl)) missing)
      · simp [withReaction, unlinked, own]
        exact .stay
  | @aborted other path reason failed active =>
      obtain ⟨share, unlinked⟩ := withMessage_closing ⟨requested, late, answering, committing, opens,
        reports, payloads, _, _⟩ ndx (show closingNdx outgoing.message = some other by rw [failed]; rfl)
      rw [share]
      by_cases own : other = ndx
      · subst own
        simp [withReaction, unlinked, marks, commits, begins, opensTransfer, commitsTransfer,
          mem_recordTerminal]
        exact .fail rfl
      · have apart : ndx ≠ other := fun same => own same.symm
        simp [withReaction, unlinked, marks, commits, begins, opensTransfer, commitsTransfer,
          mem_recordTerminal, active, own, apart]
        exact .stay
  | @failed other path reason failed inactive =>
      obtain ⟨share, unlinked⟩ := withMessage_closing ⟨requested, late, answering, committing, opens,
        reports, payloads, _, _⟩ ndx (show closingNdx outgoing.message = some other by rw [failed]; rfl)
      rw [share]
      by_cases own : other = ndx
      · subst own
        simp [withReaction, unlinked, mem_recordTerminal, inactive]
        exact .fail rfl
      · have apart : ndx ≠ other := fun same => own same.symm
        simp [withReaction, unlinked, mem_recordTerminal, own, apart]
        exact .stay

/-- The move of a page: every index it requests is new. -/
theorem moves_page {mayLose : Prop} {session : RemoteSessionState} {base : Account} {ndx : Ndx}
    {outgoing : Outgoing} {requests : List Ndx} {page : DirPageResult}
    (advertises : outgoing.message = .filePage page)
    (wasTerminated : base.terminated = decide (ndx ∈ session.ledger.terminatedNdx))
    (wasHeld : base.held = decide (session.activeTransfer.ndx = some ndx))
    (distinct : requests.Nodup) (fresh : ndx ∈ requests → base.requested = false) :
    (withMessage base ndx outgoing).Moves mayLose
      (withReaction base ndx outgoing requests session.activeTransfer session.ledger.terminatedNdx []) := by
  obtain ⟨payload, closing, settles⟩ := fileList_foreign
    (show senderStreamKind outgoing.message = .fileList by rw [advertises]; rfl) ndx
  have unlinked : linkNdx outgoing = none := linkNdx_none (by rw [advertises]; rfl)
  rw [withMessage_foreign payload closing settles]
  obtain ⟨requested, late, answering, committing, opens, reports, payloads, dead, held⟩ := base
  simp only at wasTerminated wasHeld fresh
  subst wasTerminated wasHeld
  by_cases member : ndx ∈ requests
  · have once := List.count_eq_one_of_mem distinct member
    have new := fresh member
    subst new
    simp [withReaction, unlinked, member, once]
    exact .ask rfl
  · simp [withReaction, unlinked, member, List.count_eq_zero_of_not_mem member]
    exact .stay

end RemoteSession

end Terrasync.App
