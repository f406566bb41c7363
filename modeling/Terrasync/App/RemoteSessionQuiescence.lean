import Terrasync.App.RemoteSessionBrackets

/-! A receiver session hangs only through its transfer slot. When the end of every live file
finds the slot idle or its own, a session with nothing left to process is complete. -/

set_option autoImplicit false

namespace Terrasync.App

open Transport

/-- No file of a page is a directory without a payload. -/
def Servable (page : DirPageResult) : Prop :=
  ∀ numbered ∈ page.files, RemoteSenderSession.isPlainDirectory numbered.entry = false

theorem collect_servable {inventory : Inventory} (entry : ObservedEntry)
    (servable : ∀ item ∈ inventory.files, RemoteSenderSession.isPlainDirectory item = false) :
    ∀ item ∈ (inventory.collect entry).files, RemoteSenderSession.isPlainDirectory item = false := by
  simp only [Inventory.collect]
  split
  · next versioned =>
      refine List.forall_mem_append.mpr ⟨servable, fun item member => ?_⟩
      have history : item.entry = entry := by
        simp only [ObservedItem.all] at member
        split at member
        · rw [List.mem_singleton.mp member]
        · obtain ⟨index, -, rfl⟩ := List.mem_map.mp member
          rfl
      simp [RemoteSenderSession.isPlainDirectory, history, Option.isNone_eq_false_iff.mpr versioned]
  · split
    · exact servable
    · next notDirectory =>
        refine List.forall_mem_append.mpr ⟨servable, List.forall_mem_singleton.mpr ?_⟩
        simp [RemoteSenderSession.isPlainDirectory, ObservedItem.ofEntry, notDirectory]

theorem indexed_entry (next : Ndx) (items : List ObservedItem) :
    ∀ numbered ∈ (Inventory.indexed next items).1, numbered.entry ∈ items := by
  induction items generalizing next with
  | nil => exact fun _ member => absurd member List.not_mem_nil
  | cons item rest ih =>
      refine List.forall_mem_cons.mpr ⟨List.mem_cons_self, fun numbered member => ?_⟩
      exact List.mem_cons_of_mem _ (ih _ numbered member)

theorem events_servable {inventory : Inventory} (outcome : Except String Unit)
    (items : List (Except String TraversalItem))
    (servable : ∀ item ∈ inventory.files, RemoteSenderSession.isPlainDirectory item = false) :
    ∀ page ∈ pages (inventory.events outcome items), Servable page := by
  induction items generalizing inventory with
  | nil =>
      simp only [Inventory.events]
      split <;> exact fun _ member => absurd member List.not_mem_nil
  | cons head rest ih =>
      cases head with
      | error reason => exact fun _ member => absurd member List.not_mem_nil
      | ok item =>
          cases item with
          | entry entry => exact ih (collect_servable entry servable)
          | directoryListed path =>
              refine List.forall_mem_cons.mpr ⟨fun numbered member => ?_, ih ?_⟩
              · have source := indexed_entry _ _ numbered member
                exact servable numbered.entry (List.mem_mergeSort.mp source)
              · exact fun _ member => absurd member List.not_mem_nil
          | failure path reason | observationFailure path reason | other => exact ih servable

/-- The pages of the inventory are servable. -/
theorem directoryPages_servable (items : List (Except String TraversalItem)) (outcome : Except String Unit) :
    ∀ page ∈ pages (directoryPages items outcome), Servable page :=
  events_servable outcome items fun _ member => absurd member List.not_mem_nil

theorem requestable_servable {page : DirPageResult} (servable : Servable page) {ndx : Ndx}
    (member : ndx ∈ RemoteSessionState.requestable page) :
    ∃ numbered ∈ page.files ++ page.subdirs, numbered.ndx = ndx ∧
      RemoteSenderSession.isPlainDirectory numbered.entry = false := by
  rcases List.mem_append.mp member with file | subdir
  · obtain ⟨numbered, listed, rfl⟩ := List.mem_map.mp file
    exact ⟨numbered, List.mem_append_left _ listed, rfl, servable numbered listed⟩
  · obtain ⟨numbered, listed, rfl⟩ := List.mem_map.mp subdir
    obtain ⟨among, marker⟩ := List.mem_filter.mp listed
    refine ⟨numbered, List.mem_append_right _ among, rfl, ?_⟩
    simp [RemoteSenderSession.isPlainDirectory, Option.isNone_eq_false_iff.mpr marker]

namespace RemoteSession

variable {config : RemoteConfig}

/-- The sender can answer every request, now and after the pages to come. -/
structure Informed (session : RemoteSession) : Prop where
  listed : ∀ outgoing ∈ session.fileList, ∀ numbered ∈ pageEntries outgoing.message,
    session.sender.ndxTable.get numbered.ndx = some numbered.entry
  advertised : ∀ outgoing ∈ session.fileList, ∀ page, pageOf outgoing.message = some page → Servable page
  upcoming : ∀ page ∈ pages session.sender.inventory, Servable page
  requested : ∀ ndx ∈ session.requested, ∃ item, session.sender.ndxTable.get ndx = some item ∧
    RemoteSenderSession.isPlainDirectory item = false

theorem Informed.congr {session next : RemoteSession} (informed : session.Informed)
    (fileList : next.fileList = session.fileList) (table : next.sender.ndxTable = session.sender.ndxTable)
    (inventory : next.sender.inventory.Sublist session.sender.inventory)
    (requested : next.requested = session.requested) : next.Informed where
  listed := by
    rw [fileList, table]
    exact informed.listed
  advertised := by
    rw [fileList]
    exact informed.advertised
  upcoming := fun page member => informed.upcoming page ((inventory.filterMap NdxEvent.dirPage).subset member)
  requested := by
    rw [requested, table]
    exact informed.requested

theorem Informed.post {session : RemoteSession} (informed : session.Informed) {outgoing : Outgoing}
    (page : pageOf outgoing.message = none) : (session.post outgoing).Informed := by
  simp only [RemoteSession.post]
  split
  · exact ⟨informed.listed, informed.advertised, informed.upcoming, informed.requested⟩
  · refine ⟨List.forall_mem_append.mpr ⟨informed.listed, List.forall_mem_singleton.mpr ?_⟩,
      List.forall_mem_append.mpr ⟨informed.advertised, List.forall_mem_singleton.mpr ?_⟩, informed.upcoming,
      informed.requested⟩
    · rw [pageEntries_none page]
      exact fun _ member => absurd member List.not_mem_nil
    · rw [page]
      exact fun _ absent => absurd absent.symm (Option.some_ne_none _)
  · exact ⟨informed.listed, informed.advertised, informed.upcoming, informed.requested⟩
  · exact informed

theorem informed_advertise {session next : RemoteSession} (numbered : session.Numbered)
    (informed : session.Informed) (stepped : session.advertise = some next) : next.Informed := by
  rcases advertise_eq stepped with
    ⟨page, inventory, queue, rfl⟩ | ⟨inventory, done, message, sublist, kind, noPage, rfl⟩
  · have upcoming := informed.upcoming
    simp only [queue, pages, NdxEvent.dirPage, List.filterMap_cons] at upcoming
    obtain ⟨servable, rest⟩ := List.forall_mem_cons.mp upcoming
    have distinct := numbered.distinct
    have arrives : session.arriving = session.fileList.flatMap (fun outgoing => pageEntries outgoing.message) ++
        ((page.files ++ page.subdirs) ++ Terrasync.App.advertised inventory) := by
      simp only [arriving, queue, Terrasync.App.advertised, pages, NdxEvent.dirPage, List.filterMap_cons,
        List.flatMap_cons]
    rw [arrives, List.map_append, List.map_append] at distinct
    obtain ⟨-, distinctRest, apart⟩ := List.nodup_append.mp distinct
    obtain ⟨distinctPage, -, -⟩ := List.nodup_append.mp distinctRest
    have kept {ndx : Ndx} {item : ObservedItem} (known : session.sender.ndxTable.get ndx = some item)
        (apart : ndx ∉ (page.files ++ page.subdirs).map NdxEntry.ndx) :
        (session.sender.ndxTable.ingestPage page).get ndx = some item := by
      rw [NdxTable.ingestPage_eq, foldl_insert_get_of_not_mem apart]
      exact known
    simp only [RemoteSession.post, senderStreamKind]
    refine ⟨List.forall_mem_append.mpr ⟨fun outgoing member numbered entry => ?_,
      List.forall_mem_singleton.mpr fun numbered entry => ?_⟩, List.forall_mem_append.mpr
      ⟨informed.advertised, List.forall_mem_singleton.mpr ?_⟩, rest, fun ndx asked => ?_⟩
    · refine kept (informed.listed outgoing member numbered entry) fun later => ?_
      refine apart numbered.ndx (List.mem_map.mpr ⟨numbered, ?_, rfl⟩) numbered.ndx
        (List.mem_append_left _ later) rfl
      exact List.mem_flatMap.mpr ⟨outgoing, member, entry⟩
    · rw [NdxTable.ingestPage_eq]
      exact foldl_insert_get distinctPage _ entry
    · intro other same
      cases same
      exact servable
    · obtain ⟨item, known, payload⟩ := informed.requested ndx asked
      refine ⟨item, kept known fun later => ?_, payload⟩
      refine numbered.known ndx asked (numbered.fresh ndx ?_)
      rw [arrives, List.map_append, List.map_append]
      exact List.mem_append_right _ (List.mem_append_left _ later)
  · have middle : ({ session with sender := { session.sender with inventory, advertised := done } } :
        RemoteSession).Informed := informed.congr rfl rfl sublist rfl
    exact middle.post noPage

theorem informed_receive {session next : RemoteSession} {stream : StreamKind} {answers : MessageAnswers}
    (orderly : session.Orderly) (informed : session.Informed)
    (stepped : session.receive config stream answers = some next) (goesOn : GoesOn next.receiver.stop) :
    next.Informed := by
  obtain ⟨outgoing, taken, took, state, -, requested, -, -⟩ := receive_state stepped goesOn
  obtain ⟨other, otherTaken, tookOther, -, next_eq, -⟩ := receive_eq stepped
  have samePair := Option.some.inj (took.symm.trans tookOther)
  obtain ⟨rfl, rfl⟩ := Prod.mk.inj samePair
  obtain ⟨sender, -, -, -⟩ := take_sender took
  have accounts := RemoteSessionState.handle_accounts config.receiver answers session.receiver.session
    (indexed_of_take orderly took)
  have fewer : taken.fileList ⊆ session.fileList ∧
      (pageOf outgoing.message ≠ none → outgoing ∈ session.fileList) := by
    cases stream with
    | control =>
        cases queue : session.control <;> simp [take, queue] at took
        obtain ⟨rfl, rfl⟩ := took
        exact ⟨fun _ member => member, fun page => absurd (orderly.pageless _ (by simp [queue])) page⟩
    | fileList =>
        cases queue : session.fileList <;> simp [take, queue] at took
        obtain ⟨rfl, rfl⟩ := took
        exact ⟨fun _ member => List.mem_cons_of_mem _ member, fun _ => List.mem_cons_self⟩
    | data =>
        cases queue : session.data <;> simp [take, queue] at took
        obtain ⟨rfl, rfl⟩ := took
        exact ⟨fun _ member => member, fun page => absurd (orderly.pageless _ (by simp [queue])) page⟩
    | ackProgress => cases took
  have senderEq : next.sender = session.sender := by rw [next_eq, ← sender]; rfl
  have listEq : next.fileList = taken.fileList := by rw [next_eq]; rfl
  refine ⟨fun other member => ?_, fun other member => ?_, ?_, fun ndx asked => ?_⟩
  · rw [senderEq]
    exact informed.listed other (fewer.1 (listEq ▸ member))
  · exact informed.advertised other (fewer.1 (listEq ▸ member))
  · rw [senderEq]
    exact informed.upcoming
  · rw [senderEq]
    rw [requested] at asked
    rcases List.mem_append.mp asked with old | new
    · exact informed.requested ndx old
    · have wanted := accounts.requests.subset new
      cases page : pageOf outgoing.message with
      | none =>
          rw [RemoteSessionState.requestableBy, page] at wanted
          cases wanted
      | some listing =>
          rw [RemoteSessionState.requestableBy, page] at wanted
          have among := fewer.2 (by rw [page]; exact Option.some_ne_none listing)
          obtain ⟨numbered, listed, rfl, payload⟩ :=
            requestable_servable (informed.advertised outgoing among listing page) wanted
          refine ⟨numbered.entry, informed.listed outgoing among numbered ?_, payload⟩
          rw [pageEntries, page]
          exact listed

theorem informed_step {session next : RemoteSession} {action : RemoteAction} (sound : session.Sound)
    (informed : session.Informed) (running : session.receiver.stop = none)
    (stepped : session.step config action = some next) (goesOn : GoesOn next.receiver.stop) :
    next.Informed := by
  cases action with
  | advertise => exact informed_advertise sound.numbered informed stepped
  | serve stream answers =>
      obtain ⟨-, message, requests, acks, -, rfl⟩ := serve_eq stepped
      obtain ⟨inventory, table, -⟩ := session.sender.serve_frame config.sender answers message
      refine informed.congr rfl table ?_ rfl
      rw [inventory]
  | send =>
      rcases send_eq stepped with ⟨failure, rfl⟩ | ⟨outgoing, script, credit, queue, -, rfl⟩
      · exact informed.congr rfl rfl (.refl _) rfl
      · have middle : ({ session with sender := { session.sender with script, credit } } :
            RemoteSession).Informed := informed.congr rfl rfl (.refl _) rfl
        exact middle.post (sound.orderly.pageless outgoing (by simp [queue]))
  | applyGrant =>
      obtain ⟨bytes, grants, -, rfl⟩ := applyGrant_eq stepped
      exact informed.congr rfl rfl (.refl _) rfl
  | receive stream answers => exact informed_receive sound.orderly informed stepped goesOn
  | disconnect => exact absurd goesOn (disconnect_stops stepped)
  | acknowledge =>
      obtain ⟨ndx, outcome, -, -, requested, -, -, -⟩ := acknowledge_state sound.orderly stepped
      obtain ⟨reported, result, rest, -, -, next_eq, -⟩ := acknowledge_eq sound.orderly stepped
      have senderEq : next.sender = session.sender := by rw [next_eq]; rfl
      exact informed.congr (by rw [next_eq]; rfl) (by rw [senderEq]) (by rw [senderEq]) requested
  | commit answers =>
      obtain ⟨command, rest, -, rfl⟩ := commit_eq stepped
      exact informed.congr rfl rfl (.refl _) (List.append_nil _)
  | drain => exact absurd running (drain_stopped stepped)

/-! ### Losses -/

/-- The file whose end an action takes from the data stream. -/
def endedNdx (session : RemoteSession) : RemoteAction → Option Ndx
  | .receive .data _ => session.data.head?.bind fun outgoing =>
      match outgoing.message with
      | .endOfFile ndx _ => some ndx
      | _ => none
  | _ => none

/-- The end of a live file finds the transfer slot idle or its own. -/
def Uncontended (session : RemoteSession) (action : RemoteAction) : Prop :=
  ∀ ndx ∈ session.endedNdx action, session.receiver.session.Terminated ndx ∨
    ∀ other ∈ session.receiver.session.activeTransfer.ndx, other = ndx

instance (session : RemoteSession) (action : RemoteAction) : Decidable (session.Uncontended action) :=
  inferInstanceAs (Decidable (∀ ndx ∈ _, _))

/-- What holds while no end of a file has been lost. -/
structure Tracked (session : RemoteSession) : Prop where
  sound : session.Sound
  informed : session.Informed
  serial : session.receiver.Serial
  kept : ∀ ndx, (session.account ndx).Kept

theorem tokens_requested {session : RemoteSession} (sound : session.Sound) {ndx : Ndx}
    (tokens : 0 < (session.account ndx).tokens) : ndx ∈ session.requested := by
  by_contra unrequested
  have none := ((sound.valid ndx).fresh (decide_eq_false unrequested)).1
  omega

theorem no_loss {session : RemoteSession} {action : RemoteAction} (tracked : session.Tracked)
    (uncontended : session.Uncontended action) (ndx : Ndx) : ¬ Loses session ndx action := by
  have answered (late : 0 < (session.account ndx).late) :
      ∃ item, session.sender.ndxTable.get ndx = some item ∧
        RemoteSenderSession.isPlainDirectory item = false :=
    tracked.informed.requested ndx (tokens_requested tracked.sound (by
      simp only [Account.tokens]
      omega))
  intro loses
  cases loses with
  | unanswered asked unknown =>
      obtain ⟨item, known, -⟩ := answered asked
      rw [unknown] at known
      cases known
  | directory asked known plain =>
      obtain ⟨item, same, payload⟩ := answered asked
      rw [known] at same
      cases same
      rw [plain] at payload
      cases payload
  | unknown asked unknown =>
      exact tracked.sound.numbered.known ndx (tokens_requested tracked.sound asked) unknown
  | @blocked answers other outgoing rest sourceHash head closing different active live =>
      have ends : ndx ∈ session.endedNdx (.receive .data answers) := by simp [endedNdx, head, closing]
      rcases uncontended ndx ends with terminated | free
      · exact live terminated
      · exact different (free other active)
  | @ignored answers command rest key head committing own other unreported live =>
      obtain ⟨opened, bracketed, follows⟩ := tracked.serial.queue
      rw [head] at bracketed
      obtain ⟨next, advances, -⟩ := bracketed
      obtain ⟨rfl, -⟩ := advances.of_commit committing
      rcases follows with writes | ⟨-, reported⟩
      · exact other writes
      · subst own
        rcases reported key rfl with reports | terminated
        · exact Nat.ne_of_gt reports unreported
        · exact absurd terminated (of_decide_eq_false live)

theorem tracked_new {inventory : List NdxEvent} (unambiguous : Unambiguous inventory)
    (servable : ∀ page ∈ pages inventory, Servable page) (senderCredit : SenderCreditLedger)
    (receiverCredit : ReceiverCreditState) : (new inventory senderCredit receiverCredit).Tracked where
  sound := sound_new unambiguous senderCredit receiverCredit
  informed := ⟨fun _ member => absurd member List.not_mem_nil, fun _ member => absurd member List.not_mem_nil,
    servable, fun _ member => absurd member List.not_mem_nil⟩
  serial := serial_new receiverCredit
  kept := fun ndx requested => absurd requested (by simp [account, new])

theorem tracked_step {session next : RemoteSession} {action : RemoteAction} (tracked : session.Tracked)
    (uncontended : session.Uncontended action) (running : session.receiver.stop = none)
    (stepped : session.step config action = some next) (goesOn : next.receiver.stop = none) :
    next.Tracked where
  sound := sound_step tracked.sound running stepped (.inl goesOn)
  informed := informed_step tracked.sound tracked.informed running stepped (.inl goesOn)
  serial := serial_step tracked.sound tracked.serial running stepped goesOn
  kept := fun ndx => by
    have moves := step_moves tracked.sound.orderly (tracked.sound.numbered.freshPages tracked.sound.orderly)
      running stepped (.inl goesOn) ndx
    exact (moves.mono (no_loss tracked uncontended ndx)).kept (tracked.sound.valid ndx) (tracked.kept ndx)

/-! ### Quiescence -/

/-- No message, command, outcome or request is left to process. -/
structure Quiescent (session : RemoteSession) : Prop where
  control : session.control = []
  fileList : session.fileList = []
  data : session.data = []
  requests : session.requests = []
  acks : session.acks = []
  script : session.sender.script = []
  commands : session.receiver.commands = []
  outcomes : session.receiver.outcomes = []

theorem Tracked.covered {session : RemoteSession} (tracked : session.Tracked) (quiescent : session.Quiescent) :
    session.Covered := by
  intro ndx requested
  rcases tracked.kept ndx (decide_eq_true requested) with terminated | left
  · exact .inl (of_decide_eq_true terminated)
  · refine .inr (List.count_pos_iff.mp ?_)
    simp only [Account.tokens, account, quiescent.control, quiescent.data, quiescent.requests, quiescent.acks,
      quiescent.script, quiescent.commands, quiescent.outcomes, List.countP_nil] at left
    omega

/-- A run without contention for the transfer slot ends complete: when `TransferDone` has
been observed and nothing is left to process, every request is terminated. -/
theorem quiescent_complete {items : List (Except String TraversalItem)} {outcome : Except String Unit}
    (unambiguous : Unambiguous (directoryPages items outcome)) {senderCredit : SenderCreditLedger}
    {receiverCredit : ReceiverCreditState} {actions : List RemoteAction} {final : RemoteSession}
    (uncontended : (machine config).Along Uncontended
      (new (directoryPages items outcome) senderCredit receiverCredit) actions)
    (run : (machine config).exec (new (directoryPages items outcome) senderCredit receiverCredit) actions =
      some final)
    (goesOn : GoesOn final.receiver.stop) (concluded : final.receiver.session.ledger.transferDoneSeen = true)
    (quiescent : final.Quiescent) : final.receiver.session.isComplete = true := by
  have start : (new (directoryPages items outcome) senderCredit receiverCredit).Tracked :=
    tracked_new unambiguous (directoryPages_servable items outcome) senderCredit receiverCredit
  have tracked := @Lib.Machine.exec_invariant_along _ _ (machine config)
    (fun session => session.receiver.stop = none → session.Tracked) Uncontended
    (fun {session action next} holds condition stepped goesOn => by
      cases stop : session.receiver.stop with
      | none => exact tracked_step (holds stop) condition stop stepped goesOn
      | some reason =>
          rw [stopped_step stop stepped] at goesOn
          cases goesOn) _ _ _ (fun _ => start) uncontended run
  rcases goesOn with running | stopped
  · exact (tracked running).sound.complete ((tracked running).covered quiescent) concluded
  · exact ((reached_run unambiguous run).finished stopped).complete

def sampleItems : List (Except String TraversalItem) :=
  [.ok (.entry (numberedFile 0)), .ok (.entry (numberedFile 1)), .ok (.directoryListed [])]

theorem sample_pages : directoryPages sampleItems (.ok ()) = [.page samplePage, .done] := by
  have sorted : Inventory.sortByName [.ofEntry (numberedFile 0), .ofEntry (numberedFile 1)] =
      [.ofEntry (numberedFile 0), .ofEntry (numberedFile 1)] :=
    List.mergeSort_of_pairwise (by decide)
  have empty : Inventory.sortByName [] = [] := List.mergeSort_nil
  have collected (inventory : Inventory) (number : Nat) : inventory.collect (numberedFile number) =
      { inventory with files := inventory.files ++ [.ofEntry (numberedFile number)] } := rfl
  simp only [directoryPages, sampleItems, Inventory.events, Inventory.step, collected, Inventory.start,
    Inventory.listed, List.nil_append, List.cons_append, sorted, empty]
  decide

/-- The first file cannot be prepared, and its outcome arrives before its end. -/
def hangingRun : List RemoteAction :=
  let refused := { sampleDisk with prepare := some "disk full" }
  sampleListing ++
    ([.serve .fileList sampleSource, .send, .receive .data sampleMessage, .commit refused, .acknowledge, .send,
      .receive .data sampleMessage] : List RemoteAction) ++
    ([.serve .fileList sampleSource, .send, .send, .receive .data sampleMessage, .receive .data sampleMessage,
      .serve .ackProgress sampleSource] : List RemoteAction) ++
    sampleConclusion

theorem hangingRun_enabled : ((machine sampleConfig).exec sampleStart hangingRun).isSome = true := by decide

/-- The slot of a file that failed at the destination is never released: the next file is
dropped, and the session waits for it although nothing is left to process. -/
theorem contended_slot_hangs : ∃ final,
    Unambiguous (directoryPages sampleItems (.ok ())) ∧
      (machine sampleConfig).exec (new (directoryPages sampleItems (.ok ())) ⟨100, 100, false⟩ ⟨50, 0⟩)
        hangingRun = some final ∧
      final.receiver.stop = none ∧ final.receiver.session.ledger.transferDoneSeen = true ∧
      final.Quiescent ∧ final.receiver.session.isComplete = false := by
  have run := (Option.some_get hangingRun_enabled).symm
  rw [sample_pages]
  refine ⟨_, sample_unambiguous, run, by decide, by decide, ⟨?_, ?_, ?_, ?_, ?_, ?_, ?_, ?_⟩, by decide⟩ <;>
    decide

def settledRun : List RemoteAction :=
  sampleRun ++ [.serve .ackProgress sampleSource, .serve .ackProgress sampleSource, .commit sampleDisk]

theorem settledRun_enabled : ((machine sampleConfig).exec sampleStart settledRun).isSome = true := by decide

theorem quiescent_complete_sample : ∃ final,
    (machine sampleConfig).exec (new (directoryPages sampleItems (.ok ())) ⟨100, 100, false⟩ ⟨50, 0⟩)
        settledRun = some final ∧ final.receiver.session.isComplete = true := by
  have run := (Option.some_get settledRun_enabled).symm
  have unambiguous : Unambiguous (directoryPages sampleItems (.ok ())) := by
    rw [sample_pages]
    exact sample_unambiguous
  have start : sampleStart = new (directoryPages sampleItems (.ok ())) ⟨100, 100, false⟩ ⟨50, 0⟩ := by
    rw [sample_pages]
    rfl
  have uncontended : (machine sampleConfig).Along Uncontended sampleStart settledRun := by decide
  refine ⟨((machine sampleConfig).exec sampleStart settledRun).get settledRun_enabled, ?_, ?_⟩
  · rw [← start]
    exact run
  · rw [start] at uncontended
    refine quiescent_complete unambiguous uncontended (by rw [← start]; exact run) (.inr ?_) ?_
      ⟨?_, ?_, ?_, ?_, ?_, ?_, ?_, ?_⟩ <;> decide

end RemoteSession

end Terrasync.App
