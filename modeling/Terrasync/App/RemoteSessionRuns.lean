import Mathlib.Data.List.Flatten
import Terrasync.App.RemoteInventoryProperties
import Terrasync.App.RemoteSessionStreams

/-! What holds of every session while its receiver loop runs: streams in order, every
index accounted for, pages numbered apart, and counters that match. A loop that stops
complete has a terminal for every request. -/

set_option autoImplicit false

namespace Terrasync.App

open Transport

/-- What a message advertises. -/
def pageEntries (message : SenderMsg) : List NdxEntry :=
  match pageOf message with
  | some page => page.files ++ page.subdirs
  | none => []

theorem pageEntries_none {message : SenderMsg} (page : pageOf message = none) : pageEntries message = [] := by
  rw [pageEntries, page]

theorem requestableBy_sublist (message : SenderMsg) :
    (RemoteSessionState.requestableBy message).Sublist ((pageEntries message).map NdxEntry.ndx) := by
  cases page : pageOf message with
  | none =>
      rw [RemoteSessionState.requestableBy, page]
      exact List.nil_sublist _
  | some page =>
      rw [RemoteSessionState.requestableBy, pageEntries, page, List.map_append]
      exact (List.Sublist.refl _).append (List.filter_sublist.map NdxEntry.ndx)

theorem tableAfter_eq (table : NdxTable) (message : SenderMsg) :
    RemoteSessionState.tableAfter table message = (pageEntries message).foldl NdxTable.insert table := by
  cases advertises : pageOf message with
  | none => rw [RemoteSessionState.tableAfter, pageEntries, advertises]; rfl
  | some page =>
      rw [RemoteSessionState.tableAfter, pageEntries, advertises]
      exact NdxTable.ingestPage_eq table page

/-- Insertions do not forget an index. -/
theorem foldl_insert_known (numbered : List NdxEntry) {table : NdxTable} {ndx : Ndx}
    (known : ndx ∈ numbered.map NdxEntry.ndx ∨ table.get ndx ≠ none) :
    (numbered.foldl NdxTable.insert table).get ndx ≠ none := by
  induction numbered generalizing table with
  | nil => exact known.resolve_left List.not_mem_nil
  | cons head rest ih =>
      refine ih ?_
      rw [NdxTable.get_insert]
      rw [List.map_cons, List.mem_cons] at known
      split
      · exact .inr (Option.some_ne_none _)
      · next other => exact (known.imp_left fun member => member.resolve_left other)

theorem link_length {outgoing : Outgoing} (tagged : isLink outgoing.message = true → outgoing.ndx ≠ none) :
    (linkNdx outgoing).toList.length = (isLink outgoing.message).toNat := by
  obtain ⟨tag, message⟩ := outgoing
  rw [linkNdx_mk]
  cases link : isLink message with
  | false => rfl
  | true =>
      cases tag with
      | none => exact absurd rfl (tagged link)
      | some ndx => rfl

theorem recordTerminal_nodup {ledger : TransferLedger} (ndx : Ndx) (distinct : ledger.terminatedNdx.Nodup) :
    (ledger.recordTerminal ndx).1.terminatedNdx.Nodup := by
  simp only [TransferLedger.recordTerminal]
  split
  · exact distinct
  · next new => exact List.nodup_cons.mpr ⟨new, distinct⟩

namespace RemoteSession

open RemoteSessionState (requestable)

variable {config : RemoteConfig}

/-! ### Numbering -/

/-- What the receiver has not seen yet. -/
def arriving (session : RemoteSession) : List NdxEntry :=
  session.fileList.flatMap (fun outgoing => pageEntries outgoing.message) ++
    advertised session.sender.inventory

/-- Indices to come are distinct and new; requested ones are in the table. -/
structure Numbered (session : RemoteSession) : Prop where
  distinct : (session.arriving.map NdxEntry.ndx).Nodup
  fresh : ∀ ndx ∈ session.arriving.map NdxEntry.ndx, session.receiver.session.indexedEntry ndx = none
  known : ∀ ndx ∈ session.requested, session.receiver.session.indexedEntry ndx ≠ none

theorem Numbered.shrink {session next : RemoteSession} (numbered : session.Numbered)
    (fewer : next.arriving.Sublist session.arriving) (requested : next.requested = session.requested)
    (table : next.receiver.session.ndxTable = session.receiver.session.ndxTable) : next.Numbered := by
  refine ⟨numbered.distinct.sublist (fewer.map NdxEntry.ndx), fun ndx member => ?_, fun ndx member => ?_⟩
  · rw [RemoteSessionState.indexedEntry, table]
    exact numbered.fresh ndx ((fewer.map NdxEntry.ndx).subset member)
  · rw [RemoteSessionState.indexedEntry, table]
    exact numbered.known ndx (requested ▸ member)

theorem arriving_post {session : RemoteSession} {outgoing : Outgoing} (page : pageOf outgoing.message = none) :
    (session.post outgoing).arriving = session.arriving := by
  simp only [post]
  split
  · rfl
  · simp only [arriving, List.flatMap_append, List.flatMap_singleton, pageEntries_none page,
      List.append_nil]
  · rfl
  · rfl

/-- The message a stream delivers is the next to arrive. -/
theorem arriving_take {session taken : RemoteSession} {stream : StreamKind} {outgoing : Outgoing}
    (orderly : session.Orderly) (took : session.take stream = some (outgoing, taken)) :
    session.arriving = pageEntries outgoing.message ++ taken.arriving := by
  cases stream with
  | control =>
      cases queue : session.control <;> simp [take, queue] at took
      obtain ⟨rfl, rfl⟩ := took
      rw [pageEntries_none (orderly.pageless _ (by simp [queue]))]
      rfl
  | fileList =>
      cases queue : session.fileList <;> simp [take, queue] at took
      obtain ⟨rfl, rfl⟩ := took
      simp only [arriving, queue, List.flatMap_cons, List.append_assoc]
  | data =>
      cases queue : session.data <;> simp [take, queue] at took
      obtain ⟨rfl, rfl⟩ := took
      rw [pageEntries_none (orderly.pageless _ (by simp [queue]))]
      rfl
  | ackProgress => cases took

theorem Numbered.freshPages {session : RemoteSession} (numbered : session.Numbered)
    (orderly : session.Orderly) : session.FreshPages := by
  intro stream outgoing taken page took message
  have arrives := arriving_take orderly took
  have sublist := requestableBy_sublist outgoing.message
  have requests : RemoteSessionState.requestableBy outgoing.message = requestable page := by
    rw [message]
    rfl
  rw [requests] at sublist
  have distinct := numbered.distinct
  rw [arrives, List.map_append] at distinct
  refine ⟨(List.nodup_append.mp distinct).1.sublist sublist, fun ndx member known => ?_⟩
  refine numbered.known ndx known (numbered.fresh ndx ?_)
  rw [arrives, List.map_append]
  exact List.mem_append_left _ (sublist.subset member)

/-- A step that leaves the coordination state of the receiver alone. -/
structure Aside (session next : RemoteSession) : Prop where
  state : next.receiver.session = session.receiver.session
  stop : next.receiver.stop = session.receiver.stop
  requested : next.requested = session.requested
  linked : next.linked = session.linked
  arriving : next.arriving.Sublist session.arriving

theorem Aside.of_post {session middle : RemoteSession} {outgoing : Outgoing}
    (page : pageOf outgoing.message = none) (aside : Aside session middle) :
    Aside session (middle.post outgoing) := by
  obtain ⟨-, receiver, requested, linked⟩ := post_frame middle outgoing
  refine ⟨?_, ?_, requested.trans aside.requested, linked.trans aside.linked, ?_⟩
  · rw [receiver]
    exact aside.state
  · rw [receiver]
    exact aside.stop
  · rw [arriving_post page]
    exact aside.arriving

theorem advertise_aside {session next : RemoteSession} (stepped : session.advertise = some next) :
    Aside session next := by
  rcases advertise_eq stepped with
    ⟨page, inventory, queue, rfl⟩ | ⟨inventory, done, message, sublist, kind, noPage, rfl⟩
  · refine ⟨rfl, rfl, rfl, rfl, ?_⟩
    simp only [post, senderStreamKind, arriving, List.flatMap_append, queue, pageEntries, pageOf,
      advertised, pages, NdxEvent.dirPage, List.filterMap_cons, List.flatMap_cons, List.flatMap_nil,
      List.nil_append, List.append_assoc, List.Sublist.refl]
  · refine .of_post noPage ⟨rfl, rfl, rfl, rfl, (List.Sublist.refl _).append ?_⟩
    exact (sublist.filterMap NdxEvent.dirPage).flatMap _

theorem send_aside {session next : RemoteSession} (orderly : session.Orderly)
    (stepped : session.send = some next) : Aside session next := by
  rcases send_eq stepped with ⟨failure, rfl⟩ | ⟨outgoing, script, credit, queue, -, rfl⟩
  · exact ⟨rfl, rfl, rfl, rfl, .refl _⟩
  · exact .of_post (orderly.pageless outgoing (by simp [queue])) ⟨rfl, rfl, rfl, rfl, .refl _⟩

theorem serve_aside {session next : RemoteSession} {stream : StreamKind} {answers : SourceAnswers}
    (stepped : session.serve config stream answers = some next) : Aside session next := by
  obtain ⟨-, message, requests, acks, -, rfl⟩ := serve_eq stepped
  obtain ⟨inventory, -, -⟩ := session.sender.serve_frame config.sender answers message
  refine ⟨rfl, rfl, rfl, rfl, ?_⟩
  simp only [arriving, inventory, List.Sublist.refl]

/-- Only a message or an outcome changes the coordination state while the loop runs. -/
theorem step_aside {session next : RemoteSession} {action : RemoteAction} (orderly : session.Orderly)
    (running : session.receiver.stop = none) (stepped : session.step config action = some next)
    (goesOn : GoesOn next.receiver.stop) :
    (∃ stream answers, action = .receive stream answers) ∨ action = .acknowledge ∨ Aside session next := by
  cases action with
  | advertise => exact .inr (.inr (advertise_aside stepped))
  | serve stream answers => exact .inr (.inr (serve_aside stepped))
  | send => exact .inr (.inr (send_aside orderly stepped))
  | applyGrant =>
      obtain ⟨bytes, grants, -, rfl⟩ := applyGrant_eq stepped
      exact .inr (.inr ⟨rfl, rfl, rfl, rfl, .refl _⟩)
  | receive stream answers => exact .inl ⟨stream, answers, rfl⟩
  | disconnect => exact absurd goesOn (disconnect_stops stepped)
  | acknowledge => exact .inr (.inl rfl)
  | commit answers =>
      obtain ⟨command, rest, -, rfl⟩ := commit_eq stepped
      exact .inr (.inr ⟨rfl, rfl, List.append_nil _, rfl, .refl _⟩)
  | drain => exact absurd running (drain_stopped stepped)

theorem numbered_receive {session next : RemoteSession} {stream : StreamKind} {answers : MessageAnswers}
    (orderly : session.Orderly) (numbered : session.Numbered)
    (stepped : session.receive config stream answers = some next) (goesOn : GoesOn next.receiver.stop) :
    next.Numbered := by
  obtain ⟨outgoing, taken, took, -, next_eq, stop_eq⟩ := receive_eq stepped
  obtain ⟨-, -, requested, -⟩ := take_sender took
  have accounts := RemoteSessionState.handle_accounts config.receiver answers session.receiver.session
    (indexed_of_take orderly took)
  have arrives := arriving_take orderly took
  rw [stop_eq] at goesOn
  obtain ⟨receiverSession, -⟩ := @haltIf_frame (taken.receiver.install
    (session.receiver.session.handle config.receiver answers outgoing.message).session
    (session.receiver.session.handle config.receiver answers outgoing.message).effects) _ goesOn
  have table : next.receiver.session.ndxTable =
      (pageEntries outgoing.message).foldl NdxTable.insert session.receiver.session.ndxTable := by
    rw [next_eq]
    simp only [reply, receiverSession]
    rw [← tableAfter_eq]
    exact accounts.table
  have rest : next.arriving = taken.arriving := by rw [next_eq]; rfl
  have distinct := numbered.distinct
  rw [arrives, List.map_append] at distinct
  obtain ⟨-, distinctRest, apart⟩ := List.nodup_append.mp distinct
  refine ⟨?_, fun ndx member => ?_, fun ndx member => ?_⟩
  · rw [rest]
    exact distinctRest
  · rw [rest] at member
    rw [RemoteSessionState.indexedEntry, table, foldl_insert_get_of_not_mem]
    · refine numbered.fresh ndx ?_
      rw [arrives, List.map_append]
      exact List.mem_append_right _ member
    · exact fun early => apart ndx early ndx member rfl
  · rw [RemoteSessionState.indexedEntry, table]
    refine foldl_insert_known _ ?_
    rw [next_eq] at member
    rcases List.mem_append.mp member with old | new
    · exact .inr (numbered.known ndx (requested ▸ old))
    · exact .inl ((requestableBy_sublist outgoing.message).subset (accounts.requests.subset new))

/-- The coordination state after an outcome. -/
theorem acknowledge_state {session next : RemoteSession} (orderly : session.Orderly)
    (stepped : session.receiverStep config .acknowledge = some next) :
    ∃ ndx outcome, session.receiver.outcomes.head? = some (.fileOutcome ndx outcome) ∧
      next.receiver.session = (session.receiver.session.handleFileOutcome ndx outcome).session ∧
      next.requested = session.requested ∧ next.linked = session.linked ∧
      next.arriving = session.arriving ∧
      (next.receiver.stop = some .complete → next.receiver.session.isComplete = true) := by
  obtain ⟨ndx, outcome, rest, queue, -, next_eq, stop_eq⟩ := acknowledge_eq orderly stepped
  obtain ⟨-, frame⟩ := session.receiver.session.handleFileOutcome_settles ndx outcome
  obtain ⟨state, -⟩ := @haltIf_frame ({ session.receiver with outcomes := rest }.install
    (session.receiver.session.handleFileOutcome ndx outcome).session
    (session.receiver.session.handleFileOutcome ndx outcome).effects) _
    (goesOn_stopIf (session.receiver.session.handleFileOutcome ndx outcome).value)
  have after : next.receiver.session = (session.receiver.session.handleFileOutcome ndx outcome).session := by
    rw [next_eq]
    exact state
  refine ⟨ndx, outcome, by rw [queue]; rfl, after, ?_, by rw [next_eq]; rfl, by rw [next_eq]; rfl, ?_⟩
  · rw [next_eq]
    have requests := frame.requests
    simp only [Effects.requests] at requests
    simp only [reply, requests, List.append_nil]
  · rw [stop_eq, after]
    exact fun stopped => frame.stops (RemoteSessionState.stopIf_complete stopped)

theorem numbered_step {session next : RemoteSession} {action : RemoteAction} (orderly : session.Orderly)
    (numbered : session.Numbered) (running : session.receiver.stop = none)
    (stepped : session.step config action = some next) (goesOn : GoesOn next.receiver.stop) :
    next.Numbered := by
  rcases step_aside orderly running stepped goesOn with ⟨stream, answers, rfl⟩ | rfl | aside
  · exact numbered_receive orderly numbered stepped goesOn
  · obtain ⟨ndx, outcome, -, state, requested, -, arriving, -⟩ := acknowledge_state orderly stepped
    obtain ⟨-, frame⟩ := session.receiver.session.handleFileOutcome_settles ndx outcome
    refine numbered.shrink (by rw [arriving]) requested ?_
    rw [state]
    exact frame.table
  · exact numbered.shrink aside.arriving aside.requested (by rw [aside.state])

/-! ### Counters -/

/-- The two counters count the requests, and the terminals with the symbolic links. -/
structure Counted (session : RemoteSession) : Prop where
  requests : session.receiver.session.ledger.requested = session.requested.length
  completions : session.receiver.session.ledger.completed =
    session.receiver.session.ledger.terminatedNdx.length + session.linked.length
  requestedOnce : session.requested.Nodup
  terminatedOnce : session.receiver.session.ledger.terminatedNdx.Nodup

theorem reaction_nodup {session : RemoteSessionState} {message : SenderMsg} {slot : ActiveTransfer}
    {terminated : List Ndx} {commands : List DiskCommitMsg}
    (reaction : session.Reaction message slot terminated commands)
    (distinct : session.ledger.terminatedNdx.Nodup) : terminated.Nodup := by
  cases reaction with
  | aborted | failed => exact recordTerminal_nodup _ distinct
  | _ => exact distinct

theorem settles_nodup {session : RemoteSessionState} {ndx : Ndx} {outcome : FileOutcome}
    {terminated : List Ndx} {replies : List ReceiverMsg} (settles : session.Settles ndx outcome terminated replies)
    (distinct : session.ledger.terminatedNdx.Nodup) : terminated.Nodup := by
  cases settles with
  | again mismatch => exact distinct
  | terminal plain => exact recordTerminal_nodup _ distinct

theorem link_tagged {session taken : RemoteSession} {stream : StreamKind} {outgoing : Outgoing}
    (orderly : session.Orderly) (took : session.take stream = some (outgoing, taken)) :
    isLink outgoing.message = true → outgoing.ndx ≠ none := by
  intro link
  have kind : senderStreamKind outgoing.message = .data := by
    cases message : outgoing.message <;> rw [message] at link <;> cases link
    rfl
  cases stream with
  | control =>
      cases queue : session.control <;> simp [take, queue] at took
      obtain ⟨rfl, rfl⟩ := took
      rw [orderly.control _ (by rw [queue]; exact List.mem_cons_self)] at kind
      cases kind
  | fileList =>
      cases queue : session.fileList <;> simp [take, queue] at took
      obtain ⟨rfl, rfl⟩ := took
      rw [orderly.fileList _ (by rw [queue]; exact List.mem_cons_self)] at kind
      cases kind
  | data =>
      cases queue : session.data <;> simp [take, queue] at took
      obtain ⟨rfl, rfl⟩ := took
      exact orderly.tagged _ (by simp [queue]) link
  | ackProgress => cases took

/-- The coordination state after a message. -/
theorem receive_state {session next : RemoteSession} {stream : StreamKind} {answers : MessageAnswers}
    (stepped : session.receive config stream answers = some next) (goesOn : GoesOn next.receiver.stop) :
    ∃ outgoing taken, session.take stream = some (outgoing, taken) ∧
      let handled := session.receiver.session.handle config.receiver answers outgoing.message
      next.receiver.session = handled.session ∧ next.receiver.stop = handled.value ∧
        next.requested = session.requested ++ handled.effects.requests ∧
        next.linked = session.linked ++ (linkNdx outgoing).toList ∧ next.arriving = taken.arriving := by
  obtain ⟨outgoing, taken, took, -, next_eq, stop_eq⟩ := receive_eq stepped
  obtain ⟨-, -, requested, linked⟩ := take_sender took
  rw [stop_eq] at goesOn
  obtain ⟨state, -⟩ := @haltIf_frame (taken.receiver.install
    (session.receiver.session.handle config.receiver answers outgoing.message).session
    (session.receiver.session.handle config.receiver answers outgoing.message).effects) _ goesOn
  refine ⟨outgoing, taken, took, ?_, stop_eq, ?_, ?_, by rw [next_eq]; rfl⟩
  · rw [next_eq]
    exact state
  · rw [next_eq, ← requested]
    rfl
  · rw [next_eq, ← linked]
    rfl

theorem counted_receive {session next : RemoteSession} {stream : StreamKind} {answers : MessageAnswers}
    (orderly : session.Orderly) (numbered : session.Numbered) (counted : session.Counted)
    (stepped : session.receive config stream answers = some next) (goesOn : GoesOn next.receiver.stop) :
    next.Counted := by
  obtain ⟨outgoing, taken, took, state, -, requested, linked, -⟩ := receive_state stepped goesOn
  have indexed := indexed_of_take orderly took
  have accounts := RemoteSessionState.handle_accounts config.receiver answers session.receiver.session indexed
  have reaction := RemoteSessionState.handle_reacts config.receiver answers session.receiver.session indexed
  have sublist := accounts.requests.trans (requestableBy_sublist outgoing.message)
  have arrives := arriving_take orderly took
  refine ⟨?_, ?_, ?_, ?_⟩
  · rw [state, requested, List.length_append, accounts.requested, counted.requests]
  · have law := accounts.completed
    have link := link_length (link_tagged orderly took)
    have before := counted.completions
    rw [state, linked, List.length_append, link]
    omega
  · rw [requested]
    refine List.nodup_append.mpr ⟨counted.requestedOnce, ?_, ?_⟩
    · have distinct := numbered.distinct
      rw [arrives, List.map_append] at distinct
      exact (List.nodup_append.mp distinct).1.sublist sublist
    · rintro early before late after rfl
      refine numbered.known early before (numbered.fresh early ?_)
      rw [arrives, List.map_append]
      exact List.mem_append_left _ (sublist.subset after)
  · rw [state]
    exact reaction_nodup reaction counted.terminatedOnce

theorem counted_step {session next : RemoteSession} {action : RemoteAction} (orderly : session.Orderly)
    (numbered : session.Numbered) (counted : session.Counted) (running : session.receiver.stop = none)
    (stepped : session.step config action = some next) (goesOn : GoesOn next.receiver.stop) :
    next.Counted := by
  rcases step_aside orderly running stepped goesOn with ⟨stream, answers, rfl⟩ | rfl | aside
  · exact counted_receive orderly numbered counted stepped goesOn
  · obtain ⟨ndx, outcome, -, state, requested, linked, -, -⟩ := acknowledge_state orderly stepped
    obtain ⟨settles, frame⟩ := session.receiver.session.handleFileOutcome_settles ndx outcome
    refine ⟨?_, ?_, ?_, ?_⟩
    · rw [state, requested, frame.requested, counted.requests]
    · have law := frame.completed
      have before := counted.completions
      rw [state, linked]
      omega
    · rw [requested]
      exact counted.requestedOnce
    · rw [state]
      exact settles_nodup settles counted.terminatedOnce
  · refine ⟨?_, ?_, ?_, ?_⟩
    · rw [aside.state, aside.requested, counted.requests]
    · rw [aside.state, aside.linked, counted.completions]
    · rw [aside.requested]
      exact counted.requestedOnce
    · rw [aside.state]
      exact counted.terminatedOnce

end RemoteSession

end Terrasync.App
